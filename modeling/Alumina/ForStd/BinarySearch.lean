import Mathlib
import Alumina.ForStd.Table

/-!
# Binary search over a sorted table

The search keeps a base and a size and halves the size until one candidate is left; equal
keys move the base right. On a table without repeated keys it finds the entry of a key
exactly when there is one.

## Key results

- `binarySearch_eq_some`: a found position holds the key
- `binarySearch_iff`: the specification on a strictly sorted table
- `binarySearch_map`: the search looks at nothing but the keys
-/

namespace Table

variable {α ι : Type} [LinearOrder ι]

/-- Narrow the candidates from `base` on to one, in at most `fuel` halvings of `size`. -/
def searchFrom (key : α → ι) (k : ι) (xs : List α) : Nat → Nat → Nat → Nat
  | 0, base, _ => base
  | fuel + 1, base, size =>
    if size ≤ 1 then base
    else
      let half := size / 2
      let mid := base + half
      -- the comparison with the middle entry is `Greater`
      let greater := (xs[mid]?).any fun x => k < key x
      searchFrom key k xs fuel (if greater then base else mid) (size - half)

/-- The position of an entry with key `k` (`binary_search_by_key`). -/
def binarySearch (key : α → ι) (k : ι) (xs : List α) : Option Nat :=
  let base := searchFrom key k xs xs.length 0 xs.length
  if (xs[base]?).map key = some k then some base else none

variable {key : α → ι} {k : ι} {xs : List α}

/-- A found position holds the key. -/
theorem binarySearch_eq_some {i : Nat} (h : binarySearch key k xs = some i) :
    (xs[i]?).map key = some k := by
  simp only [binarySearch] at h
  split at h
  · next hfound =>
    cases h
    exact hfound
  · cases h

/-- Entries of a sorted table have ordered keys. -/
private theorem key_le_of_le (hsorted : Sorted key xs) {i j : Nat} {x y : α} (hij : i ≤ j)
    (hx : xs[i]? = some x) (hy : xs[j]? = some y) : key x ≤ key y := by
  obtain ⟨hi, rfl⟩ := List.getElem?_eq_some_iff.1 hx
  obtain ⟨hj, rfl⟩ := List.getElem?_eq_some_iff.1 hy
  rcases Nat.lt_or_eq_of_le hij with hlt | rfl
  · exact List.pairwise_iff_getElem.1 hsorted i j hi hj hlt
  · exact le_refl _

/-- While the candidates hold an entry of the key, so does the one the search ends at. -/
private theorem searchFrom_spec (hsorted : Sorted key xs) (fuel base size : Nat)
    (hfuel : size ≤ fuel + 1) (hend : base + size ≤ xs.length)
    (hexists : ∃ i x, base ≤ i ∧ i < base + size ∧ xs[i]? = some x ∧ key x = k) :
    (xs[searchFrom key k xs fuel base size]?).map key = some k := by
  induction fuel generalizing base size with
  | zero =>
    obtain ⟨i, x, hlow, hhigh, hx, hkey⟩ := hexists
    obtain rfl : base = i := by omega
    rw [searchFrom, hx, Option.map_some, hkey]
  | succ fuel ih =>
    obtain ⟨i, x, hlow, hhigh, hx, hkey⟩ := hexists
    rw [searchFrom]
    split
    · next hsmall =>
      obtain rfl : base = i := by omega
      rw [hx, Option.map_some, hkey]
    · next hlarge =>
      have hmid : base + size / 2 < xs.length := by omega
      have hsome : xs[base + size / 2]? = some (xs[base + size / 2]) :=
        List.getElem?_eq_getElem hmid
      simp only [hsome, Option.any_some, decide_eq_true_eq]
      split
      · -- the entry lies strictly before the middle
        next hgreater =>
        refine ih base (size - size / 2) (by omega) (by omega) ⟨i, x, hlow, ?_, hx, hkey⟩
        by_contra hpast
        have hle := key_le_of_le hsorted (show base + size / 2 ≤ i by omega) hsome hx
        rw [hkey] at hle
        exact absurd hle (not_le.2 hgreater)
      · -- the middle or a later entry has the key
        next hnot =>
        refine ih (base + size / 2) (size - size / 2) (by omega) (by omega) ?_
        by_cases hbefore : i < base + size / 2
        · have hle := key_le_of_le hsorted (Nat.le_of_lt hbefore) hx hsome
          rw [hkey] at hle
          exact ⟨base + size / 2, _, Nat.le_refl _, by omega, hsome,
            le_antisymm (not_lt.1 hnot) hle⟩
        · exact ⟨i, x, by omega, by omega, hx, hkey⟩

/-- On a sorted table the search succeeds when an entry has the key. -/
theorem binarySearch_isSome (hsorted : Sorted key xs) {i : Nat} {x : α} (hx : xs[i]? = some x)
    (hkey : key x = k) : (binarySearch key k xs).isSome := by
  have hi : i < xs.length := (List.getElem?_eq_some_iff.1 hx).1
  have hfound := searchFrom_spec (k := k) hsorted xs.length 0 xs.length (by omega) (by omega)
    ⟨i, x, by omega, by omega, hx, hkey⟩
  rw [binarySearch, if_pos hfound]
  rfl

/-- On a table without repeated keys the search finds the one entry of the key. -/
theorem binarySearch_iff (hsorted : Sorted key xs) (hnodup : (xs.map key).Nodup) {i : Nat} :
    binarySearch key k xs = some i ↔ (xs[i]?).map key = some k := by
  refine ⟨binarySearch_eq_some, ?_⟩
  intro hi
  obtain ⟨x, hx, hkey⟩ := Option.map_eq_some_iff.1 hi
  obtain ⟨j, hj⟩ := Option.isSome_iff_exists.1 (binarySearch_isSome hsorted hx hkey)
  have hfound := binarySearch_eq_some hj
  rw [← List.getElem?_map] at hi hfound
  obtain ⟨hilt, hival⟩ := List.getElem?_eq_some_iff.1 hi
  obtain ⟨hjlt, hjval⟩ := List.getElem?_eq_some_iff.1 hfound
  rw [hj, (List.Nodup.getElem_inj_iff hnodup).1 (hjval.trans hival.symm)]

private theorem searchFrom_map (key : α → ι) (k : ι) (xs : List α) (fuel base size : Nat) :
    searchFrom key k xs fuel base size = searchFrom id k (xs.map key) fuel base size := by
  induction fuel generalizing base size with
  | zero => rfl
  | succ fuel ih =>
    rw [searchFrom, searchFrom]
    split
    · rfl
    · simp only [ih, List.getElem?_map, Option.any_map, id_eq]

/-- The search looks at nothing but the keys. -/
theorem binarySearch_map (key : α → ι) (k : ι) (xs : List α) :
    binarySearch key k xs = binarySearch id k (xs.map key) := by
  have hbase := searchFrom_map key k xs xs.length 0 xs.length
  simp only [binarySearch, List.length_map, ← hbase, List.getElem?_map, Option.map_id, id_eq]

end Table
