import Mathlib
import Alumina.ForStd.Except

/-!
# Identifier tables

A table is a list of entries kept in the order of a key. This file sorts tables by
key, looks entries up, and walks a table in order while rejecting zero and repeated
keys and repeated names.

Key results:
- `sortByKey_of_sorted`: sorting a sorted table changes nothing
- `walk_eq_ok`: what a completed walk has established
- `lookup_of_mem`: in a table without repeated keys, lookup finds each entry
-/

namespace Table

variable {α ε σ ι : Type}

/-! ## Sorting -/

section Sorting

variable [LinearOrder ι]

/-- Sort a table by key. Entries of one key keep their order. -/
def sortByKey (key : α → ι) (xs : List α) : List α :=
  xs.insertionSort fun a b => key a ≤ key b

/-- A table is sorted when its keys never decrease. -/
def Sorted (key : α → ι) (xs : List α) : Prop :=
  xs.Pairwise fun a b => key a ≤ key b

instance (key : α → ι) (xs : List α) : Decidable (Sorted key xs) :=
  inferInstanceAs (Decidable (xs.Pairwise _))

variable {key : α → ι} {xs ys : List α}

theorem sortByKey_perm : (sortByKey key xs).Perm xs := List.perm_insertionSort _ _

@[simp] theorem mem_sortByKey {a : α} : a ∈ sortByKey key xs ↔ a ∈ xs :=
  sortByKey_perm.mem_iff

@[simp] theorem length_sortByKey : (sortByKey key xs).length = xs.length :=
  sortByKey_perm.length_eq

theorem sortByKey_sorted : Sorted key (sortByKey key xs) := by
  have : Std.Total fun a b : α => key a ≤ key b := ⟨fun a b => le_total _ _⟩
  have : IsTrans α fun a b => key a ≤ key b := ⟨fun _ _ _ => le_trans⟩
  exact List.pairwise_insertionSort _ xs

theorem sortByKey_of_sorted (h : Sorted key xs) : sortByKey key xs = xs :=
  List.Pairwise.insertionSort_eq h

/-- Two sorted tables with the same entries are equal when no key repeats. -/
theorem eq_of_perm_of_sorted (hperm : xs.Perm ys) (hx : Sorted key xs) (hy : Sorted key ys)
    (hnodup : (xs.map key).Nodup) : xs = ys := by
  refine hperm.eq_of_pairwise (fun a b ha hb hab hba => ?_) hx hy
  exact List.inj_on_of_nodup_map hnodup ha (hperm.mem_iff.2 hb) (le_antisymm hab hba)

/-- Sorting does not depend on the order of the entries when no key repeats. -/
theorem sortByKey_congr (hperm : xs.Perm ys) (hnodup : (xs.map key).Nodup) :
    sortByKey key xs = sortByKey key ys := by
  refine eq_of_perm_of_sorted (sortByKey_perm.trans (hperm.trans sortByKey_perm.symm))
    sortByKey_sorted sortByKey_sorted ?_
  exact (sortByKey_perm.map key).nodup_iff.2 hnodup

/-- A sorted table without a repeated key is strictly sorted. -/
theorem Sorted.strict (hsorted : Sorted key xs) (hnodup : (xs.map key).Nodup) :
    (xs.map key).Pairwise (· < ·) := by
  rw [List.pairwise_map]
  exact (hsorted.and (List.pairwise_map.1 hnodup)).imp fun h => lt_of_le_of_ne h.1 h.2

/-- A sorted table whose neighbours differ has no repeated key. -/
theorem nodup_of_sorted_of_isChain (hsorted : Sorted key xs)
    (hchain : (xs.map key).IsChain (· ≠ ·)) : (xs.map key).Pairwise (· < ·) := by
  have hle : (xs.map key).Pairwise (· ≤ ·) := List.pairwise_map.2 hsorted
  rw [← List.isChain_iff_pairwise]
  generalize xs.map key = keys at hle hchain
  induction keys with
  | nil => exact .nil
  | cons k keys ih =>
    cases keys with
    | nil => exact .singleton k
    | cons k' keys =>
      rw [List.isChain_cons_cons] at hchain
      have hk : k ≤ k' := List.rel_of_pairwise_cons hle (by simp)
      exact .cons_cons (lt_of_le_of_ne hk hchain.1) (ih hle.of_cons hchain.2)

/-- The members of a list, in order and without repetition. -/
def distinct (xs : List ι) : List ι := (sortByKey id xs).dedup

@[simp] theorem mem_distinct {xs : List ι} {x : ι} : x ∈ distinct xs ↔ x ∈ xs := by
  rw [distinct, List.mem_dedup, mem_sortByKey]

theorem distinct_nodup {xs : List ι} : (distinct xs).Nodup := List.nodup_dedup _

theorem distinct_sorted {xs : List ι} : Sorted id (distinct xs) :=
  sortByKey_sorted.sublist (List.dedup_sublist _)

/-- Lists with the same members have the same distinct members. -/
theorem distinct_congr {xs ys : List ι} (h : ∀ x, x ∈ xs ↔ x ∈ ys) :
    distinct xs = distinct ys := by
  have hperm : (distinct xs).Perm (distinct ys) := by
    rw [List.perm_ext_iff_of_nodup distinct_nodup distinct_nodup]
    intro x
    rw [mem_distinct, mem_distinct, h]
  refine eq_of_perm_of_sorted hperm distinct_sorted distinct_sorted ?_
  rw [List.map_id]
  exact distinct_nodup

end Sorting

/-! ## Lookup -/

section Lookup

variable [DecidableEq ι] {key : α → ι} {xs : List α} {k : ι} {x : α}

/-- The first entry with a given key. -/
def lookup (key : α → ι) (k : ι) (xs : List α) : Option α :=
  xs.find? fun x => key x = k

theorem mem_of_lookup (h : lookup key k xs = some x) : x ∈ xs := List.mem_of_find?_eq_some h

theorem key_of_lookup (h : lookup key k xs = some x) : key x = k := by
  simpa using List.find?_some h

theorem lookup_of_mem (hnodup : (xs.map key).Nodup) (hx : x ∈ xs) :
    lookup key (key x) xs = some x := by
  induction xs with
  | nil => cases hx
  | cons y ys ih =>
    rw [List.map_cons, List.nodup_cons] at hnodup
    rcases List.mem_cons.1 hx with rfl | hmem
    · simp [lookup]
    · have hne : key y ≠ key x := fun heq => hnodup.1 (heq ▸ List.mem_map_of_mem hmem)
      have hrest := ih hnodup.2 hmem
      simpa [lookup, hne] using hrest

theorem lookup_isSome : (lookup key k xs).isSome ↔ ∃ x ∈ xs, key x = k := by
  simp [lookup, List.find?_isSome]

end Lookup

/-! ## Ordered walks -/

section Walk

variable [DecidableEq ι] [Zero ι]

/-- Visit a sorted table: reject a zero key with `zero` and a key equal to the one
before it with `duplicate`, then let `step` check the entry and update its state. -/
def walk (zero duplicate : ε) (key : α → ι) (step : σ → α → Except ε σ) :
    Option ι → σ → List α → Except ε σ
  | _, state, [] => .ok state
  | previous, state, x :: xs => do
    Except.failIf (key x = 0) zero
    Except.failIf (previous = some (key x)) duplicate
    let state ← step state x
    walk zero duplicate key step (some (key x)) state xs

variable {zero duplicate : ε} {key : α → ι} {step : σ → α → Except ε σ} {xs : List α}

theorem walk_some_eq_ok {previous : ι} {state final : σ} :
    walk zero duplicate key step (some previous) state xs = .ok final ↔
      (∀ x ∈ xs, key x ≠ 0) ∧ (previous :: xs.map key).IsChain (· ≠ ·) ∧
        xs.foldlM step state = .ok final := by
  induction xs generalizing previous state with
  | nil => simp [walk]
  | cons x xs ih =>
    simp only [walk, Except.bind_eq_ok, Except.exists_unit, Except.failIf_eq_ok, ih,
      Option.some.injEq, List.mem_cons, forall_eq_or_imp, List.map_cons,
      List.isChain_cons_cons, List.foldlM_cons]
    constructor
    · rintro ⟨hzero, hne, next, hstep, hrest, hchain, hfold⟩
      exact ⟨⟨hzero, hrest⟩, ⟨hne, hchain⟩, next, hstep, hfold⟩
    · rintro ⟨⟨hzero, hrest⟩, ⟨hne, hchain⟩, next, hstep, hfold⟩
      exact ⟨hzero, hne, next, hstep, hrest, hchain, hfold⟩

/-- A completed walk has seen only nonzero keys, no two equal neighbours, and a
passed step at every entry. -/
theorem walk_eq_ok {state final : σ} :
    walk zero duplicate key step none state xs = .ok final ↔
      (∀ x ∈ xs, key x ≠ 0) ∧ (xs.map key).IsChain (· ≠ ·) ∧
        xs.foldlM step state = .ok final := by
  cases xs with
  | nil => simp [walk]
  | cons x xs =>
    simp only [walk, Except.bind_eq_ok, Except.exists_unit, Except.failIf_eq_ok,
      walk_some_eq_ok, reduceCtorEq, not_false_eq_true, true_and, List.mem_cons,
      forall_eq_or_imp, List.map_cons, List.foldlM_cons]
    constructor
    · rintro ⟨hzero, next, hstep, hrest, hchain, hfold⟩
      exact ⟨⟨hzero, hrest⟩, hchain, next, hstep, hfold⟩
    · rintro ⟨⟨hzero, hrest⟩, hchain, next, hstep, hfold⟩
      exact ⟨hzero, next, hstep, hrest, hchain, hfold⟩

/-- The walk step of a table of named entries: a malformed name is `invalid`, one seen
before is `repeated`, and `check` inspects the rest of the entry. -/
def namedStep (invalid repeated : ε) (name : α → String) (valid : String → Bool)
    (check : α → Except ε Unit) (names : List String) (x : α) : Except ε (List String) := do
  Except.failIf (!valid (name x)) invalid
  Except.failIf (name x ∈ names) repeated
  check x
  return name x :: names

variable {invalid repeated : ε} {name : α → String} {valid : String → Bool}
  {check : α → Except ε Unit}

/-- A completed fold of named steps has checked every entry and met no name twice. -/
theorem foldlM_namedStep {names final : List String}
    (h : xs.foldlM (namedStep invalid repeated name valid check) names = .ok final) :
    (∀ x ∈ xs, valid (name x) = true ∧ check x = .ok ()) ∧ (xs.map name).Nodup ∧
      ∀ x ∈ xs, name x ∉ names := by
  induction xs generalizing names with
  | nil => simp
  | cons x xs ih =>
    simp only [List.foldlM_cons, namedStep, Except.bind_eq_ok, Except.exists_unit,
      Except.failIf_eq_ok, Except.pure_eq_ok] at h
    obtain ⟨_, ⟨hvalid, hfresh, hcheck, rfl⟩, hrest⟩ := h
    obtain ⟨hall, hnodup, hnew⟩ := ih hrest
    refine ⟨?_, ?_, ?_⟩
    · intro y hy
      rcases List.mem_cons.1 hy with rfl | hy
      · exact ⟨by simpa using hvalid, hcheck⟩
      · exact hall y hy
    · rw [List.map_cons, List.nodup_cons]
      refine ⟨fun hmem => ?_, hnodup⟩
      obtain ⟨y, hy, heq⟩ := List.mem_map.1 hmem
      exact hnew y hy (by simp [heq])
    · intro y hy
      rcases List.mem_cons.1 hy with rfl | hy
      · exact hfresh
      · exact fun hmem => hnew y hy (List.mem_cons_of_mem _ hmem)

end Walk

end Table
