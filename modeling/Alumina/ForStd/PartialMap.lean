import Mathlib

/-!
# Partial maps

A table read by key. The order of the keys plays no part, so a map is the function from a key
to what is stored under it.

## Key results

- `PartialMap.insert_eq_some`, `erase_eq_some`, `retain_eq_some`: what an updated map stores
- `PartialMap.prune_eq_some`: the same for dropping one entry that fails a test
- `PartialMap.insert_of_ne`, `erase_of_ne`: an update of one key leaves the others alone
-/

/-- What is stored under each key. -/
structure PartialMap (κ α : Type*) where
  get? : κ → Option α

namespace PartialMap

variable {κ α : Type*} {m : PartialMap κ α} {j k : κ} {a b : α} {p : κ → α → Bool}

/-- Nothing stored. -/
def empty : PartialMap κ α := ⟨fun _ => none⟩

/-- Keep the entries that pass a test. -/
def retain (m : PartialMap κ α) (p : κ → α → Bool) : PartialMap κ α :=
  ⟨fun key => (m.get? key).filter (p key)⟩

section Update

variable [DecidableEq κ]

/-- Store an entry, in place of the one that was there. -/
def insert (m : PartialMap κ α) (key : κ) (entry : α) : PartialMap κ α :=
  ⟨Function.update m.get? key (some entry)⟩

/-- Forget the entry of a key. -/
def erase (m : PartialMap κ α) (key : κ) : PartialMap κ α := ⟨Function.update m.get? key none⟩

/-- Forget the entry of a key if it passes a test. -/
def prune (m : PartialMap κ α) (key : κ) (drop : α → Bool) : PartialMap κ α :=
  if (m.get? key).any drop then m.erase key else m

end Update

/-! ## Lookup -/

@[simp] theorem empty_get? : (empty : PartialMap κ α).get? j = none := rfl

@[simp] theorem retain_eq_some : (m.retain p).get? j = some b ↔ m.get? j = some b ∧ p j b := by
  simp [retain, Option.filter_eq_some_iff]

variable [DecidableEq κ]

theorem insert_get? : (m.insert k a).get? j = if j = k then some a else m.get? j := by
  simp [insert, Function.update_apply]

theorem erase_get? : (m.erase k).get? j = if j = k then none else m.get? j := by
  simp [erase, Function.update_apply]

@[simp] theorem insert_self : (m.insert k a).get? k = some a := by
  rw [insert_get?, if_pos rfl]

@[simp] theorem erase_self : (m.erase k).get? k = none := by
  rw [erase_get?, if_pos rfl]

theorem insert_of_ne (h : j ≠ k) : (m.insert k a).get? j = m.get? j := by
  rw [insert_get?, if_neg h]

theorem erase_of_ne (h : j ≠ k) : (m.erase k).get? j = m.get? j := by
  rw [erase_get?, if_neg h]

theorem insert_eq_some :
    (m.insert k a).get? j = some b ↔ j = k ∧ a = b ∨ j ≠ k ∧ m.get? j = some b := by
  by_cases h : j = k
  · subst h
    simp
  · rw [insert_of_ne h]
    simp [h]

@[simp] theorem erase_eq_some : (m.erase k).get? j = some b ↔ j ≠ k ∧ m.get? j = some b := by
  by_cases h : j = k
  · subst h
    simp
  · rw [erase_of_ne h]
    simp [h]

@[simp] theorem prune_eq_some {drop : α → Bool} :
    (m.prune k drop).get? j = some b ↔ m.get? j = some b ∧ (j = k → drop b = false) := by
  unfold prune
  split
  case isTrue hdrop =>
    rw [Option.any_eq_true] at hdrop
    obtain ⟨entry, hentry, hdrop⟩ := hdrop
    rw [erase_eq_some]
    constructor
    · rintro ⟨hne, hb⟩
      exact ⟨hb, fun heq => absurd heq hne⟩
    · rintro ⟨hb, hkeep⟩
      refine ⟨fun heq => ?_, hb⟩
      subst heq
      rw [hentry, Option.some.injEq] at hb
      rw [← hb, hdrop] at hkeep
      cases hkeep rfl
  case isFalse hkeep =>
    constructor
    · intro hb
      refine ⟨hb, fun heq => ?_⟩
      subst heq
      rw [hb, Option.any_some, Bool.not_eq_true] at hkeep
      exact hkeep
    · exact fun h => h.1

theorem insert_of_get? (h : m.get? k = some a) : m.insert k a = m := by
  unfold insert
  rw [← h, Function.update_eq_self]

end PartialMap
