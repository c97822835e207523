import Mathlib

/-!
# Rounding half to even

An integer rounds a number half to even when it is nearer than a half, or exactly a half away and
even. Every number has exactly one such integer, and a greater number never has a smaller one. The
relation is stated with doubled distances, so that it needs no division.

## Key results

- `IsHalfEven.mono`, `IsHalfEven.unique`: rounding is a monotone function
- `IsHalfEven.between`: what both ends of an interval round to, every number in it rounds to
- `isHalfEven_floor`, `isHalfEven_floor_add_one`: the rounding in terms of the floor
-/

/-- An integer rounds a number half to even. -/
def IsHalfEven {K : Type} [Field K] [LinearOrder K] (n : ℤ) (x : K) : Prop :=
  |x - n| + |x - n| < 1 ∨ |x - n| + |x - n| = 1 ∧ Even n

section Rounding

variable {K : Type} [Field K] [LinearOrder K] [IsStrictOrderedRing K] {m n : ℤ} {x y lo hi : K}

namespace IsHalfEven

theorem abs_sub_le (h : IsHalfEven n x) : |x - n| ≤ 1 / 2 := by
  rcases h with h | ⟨h, -⟩ <;> linarith

/-- Whatever is within a half of an even integer rounds to it. -/
theorem of_even (heven : Even n) (h : |x - n| ≤ 1 / 2) : IsHalfEven n x := by
  rcases lt_or_eq_of_le h with hlt | heq
  · left
    linarith
  · right
    exact ⟨by linarith, heven⟩

/-- A number halfway between two integers rounds to the even one. -/
theorem even_of_tie (h : IsHalfEven n x) (htie : |x - n| = 1 / 2) : Even n := by
  rcases h with h | ⟨-, heven⟩
  · linarith
  · exact heven

/-- A greater number does not round to a smaller integer. -/
theorem mono (hm : IsHalfEven m x) (hn : IsHalfEven n y) (hxy : x ≤ y) : m ≤ n := by
  by_contra hlt
  have hstep : (n : K) + 1 ≤ m := by exact_mod_cast (show n + 1 ≤ m by omega)
  have hx := abs_le.1 hm.abs_sub_le
  have hy := abs_le.1 hn.abs_sub_le
  -- both numbers are the midpoint of two neighbours
  have hneighbours : (m : K) = n + 1 := by linarith
  have hmTie : |x - m| = 1 / 2 := by
    rw [show x - m = -(1 / 2) by linarith, abs_neg, abs_of_pos (by norm_num)]
  have hnTie : |y - n| = 1 / 2 := by
    rw [show y - n = 1 / 2 by linarith, abs_of_pos (by norm_num)]
  have hm' : m = n + 1 := by exact_mod_cast hneighbours
  have heven := hm.even_of_tie hmTie
  rw [hm', Int.even_add_one] at heven
  exact heven (hn.even_of_tie hnTie)

/-- A number rounds to one integer only. -/
theorem unique (hm : IsHalfEven m x) (hn : IsHalfEven n x) : m = n :=
  le_antisymm (hm.mono hn le_rfl) (hn.mono hm le_rfl)

end IsHalfEven

/-! ## Rounding by the floor -/

section Floor

variable [FloorRing K]

/-- Below the midpoint, and at it when the floor is even, a number rounds down. -/
theorem isHalfEven_floor (h : x - ⌊x⌋ < 1 / 2 ∨ x - ⌊x⌋ = 1 / 2 ∧ Even ⌊x⌋) :
    IsHalfEven ⌊x⌋ x := by
  have habs : |x - ⌊x⌋| = x - ⌊x⌋ := abs_of_nonneg (sub_nonneg.2 (Int.floor_le x))
  rw [IsHalfEven, habs]
  rcases h with h | ⟨h, heven⟩
  · left
    linarith
  · right
    exact ⟨by linarith, heven⟩

/-- Above the midpoint, and at it when the floor is odd, a number rounds up. -/
theorem isHalfEven_floor_add_one (h : ¬ (x - ⌊x⌋ < 1 / 2 ∨ x - ⌊x⌋ = 1 / 2 ∧ Even ⌊x⌋)) :
    IsHalfEven (⌊x⌋ + 1) x := by
  obtain ⟨hlt, htie⟩ := not_or.1 h
  have hupper := Int.lt_floor_add_one x
  have habs : |x - ((⌊x⌋ + 1 : ℤ) : K)| = ⌊x⌋ + 1 - x := by
    push_cast
    rw [abs_sub_comm, abs_of_nonneg (by linarith)]
  rw [IsHalfEven, habs]
  by_cases heq : x - ⌊x⌋ = 1 / 2
  · right
    have hodd : ¬ Even ⌊x⌋ := fun heven => htie ⟨heq, heven⟩
    exact ⟨by linarith, Int.even_add_one.2 hodd⟩
  · left
    have hgt : 1 / 2 < x - ⌊x⌋ := lt_of_le_of_ne (not_lt.1 hlt) (Ne.symm heq)
    linarith

/-- Every number rounds to an integer. -/
theorem exists_isHalfEven (x : K) : ∃ n, IsHalfEven n x := by
  by_cases h : x - ⌊x⌋ < 1 / 2 ∨ x - ⌊x⌋ = 1 / 2 ∧ Even ⌊x⌋
  · exact ⟨_, isHalfEven_floor h⟩
  · exact ⟨_, isHalfEven_floor_add_one h⟩

/-- What both ends of an interval round to, every number in it rounds to. -/
theorem IsHalfEven.between (hlo : IsHalfEven n lo) (hhi : IsHalfEven n hi) (hlower : lo ≤ x)
    (hupper : x ≤ hi) : IsHalfEven n x := by
  obtain ⟨m, hm⟩ := exists_isHalfEven x
  have hle : n ≤ m := hlo.mono hm hlower
  have hge : m ≤ n := hm.mono hhi hupper
  rwa [le_antisymm hle hge]

end Floor

/-- A rational number rounds as it does in any larger ordered field. -/
@[simp] theorem isHalfEven_cast {q : ℚ} : IsHalfEven n (q : K) ↔ IsHalfEven n q := by
  have habs : |(q : K) - n| = ((|q - n| : ℚ) : K) := by push_cast; rfl
  rw [IsHalfEven, IsHalfEven, habs]
  norm_cast

end Rounding
