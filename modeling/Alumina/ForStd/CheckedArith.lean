import Mathlib

/-!
# Checked 64-bit arithmetic

Addition, subtraction and multiplication that answer `none` instead of wrapping. Each has
one characterisation: the result is `some c` exactly when `c` is the exact integer result.
-/

namespace UInt64

def checkedAdd (a b : UInt64) : Option UInt64 :=
  if a.toNat + b.toNat < 2 ^ 64 then some (a + b) else none

def checkedSub (a b : UInt64) : Option UInt64 :=
  if b.toNat ≤ a.toNat then some (a - b) else none

def checkedMul (a b : UInt64) : Option UInt64 :=
  if a.toNat * b.toNat < 2 ^ 64 then some (a * b) else none

variable {a b c : UInt64}

theorem checkedAdd_eq_some : checkedAdd a b = some c ↔ c.toNat = a.toNat + b.toNat := by
  unfold checkedAdd
  have hc := c.toNat_lt
  constructor
  · intro h
    split at h
    · next hlt =>
      cases h
      rw [UInt64.toNat_add, Nat.mod_eq_of_lt hlt]
    · cases h
  · intro h
    rw [if_pos (by omega), Option.some.injEq, ← UInt64.toNat_inj, UInt64.toNat_add,
      Nat.mod_eq_of_lt (by omega), h]

theorem checkedSub_eq_some : checkedSub a b = some c ↔ c.toNat + b.toNat = a.toNat := by
  unfold checkedSub
  constructor
  · intro h
    split at h
    · next hle =>
      cases h
      rw [UInt64.toNat_sub_of_le _ _ (UInt64.le_iff_toNat_le.2 hle)]
      omega
    · cases h
  · intro h
    have hle : b.toNat ≤ a.toNat := by omega
    rw [if_pos hle, Option.some.injEq, ← UInt64.toNat_inj,
      UInt64.toNat_sub_of_le _ _ (UInt64.le_iff_toNat_le.2 hle)]
    omega

theorem checkedMul_eq_some : checkedMul a b = some c ↔ c.toNat = a.toNat * b.toNat := by
  unfold checkedMul
  have hc := c.toNat_lt
  constructor
  · intro h
    split at h
    · next hlt =>
      cases h
      rw [UInt64.toNat_mul, Nat.mod_eq_of_lt hlt]
    · cases h
  · intro h
    have hlt : a.toNat * b.toNat < 2 ^ 64 := by omega
    rw [if_pos hlt, Option.some.injEq, ← UInt64.toNat_inj, UInt64.toNat_mul,
      Nat.mod_eq_of_lt hlt, h]

end UInt64
