import Mathlib

/-!
# Counting ticks of one clock in an interval of another

When `p` ticks of a source clock pass in `q` ticks of a target clock, source tick `s` is due
at target tick `k` exactly when `s * q ≤ k * p`, so `k * p / q` is the last source tick that
is due. The number newly due at one target tick is at most `⌈p / q⌉`, and some target tick of
each pattern attains it.

Key results:
- `seen_succ_le`: the bound at every target tick
- `exists_seen_succ_eq`: the bound is attained
- `length_le_of_strictMono`: distinct ticks of an interval are at most its length
-/

namespace RateCount

variable {p q : Nat}

/-- `⌈p / q⌉`, as quotient and remainder. -/
def capacity (p q : Nat) : Nat := p / q + if p % q ≠ 0 then 1 else 0

/-- The last source tick due at target tick `k`. -/
def due (p q k : Nat) : Nat := k * p / q

theorem le_due_iff (hq : 0 < q) {s k : Nat} : s ≤ due p q k ↔ s * q ≤ k * p :=
  Nat.le_div_iff_mul_le hq

theorem capacity_eq_ceil (hq : 0 < q) : capacity p q = ⌈(p : ℚ) / q⌉₊ := by
  have hq' : (0 : ℚ) < q := by exact_mod_cast hq
  have hdivision : q * (p / q) + p % q = p := Nat.div_add_mod p q
  have hlt : p % q < q := Nat.mod_lt p hq
  rw [capacity]
  generalize p / q = quotient at *
  generalize p % q = remainder at *
  symm
  split
  · next hremainder =>
    rw [Nat.ceil_eq_iff (by omega), Nat.add_sub_cancel]
    constructor
    · rw [lt_div_iff₀ hq', mul_comm]
      exact_mod_cast (by omega : q * quotient < p)
    · rw [div_le_iff₀ hq', mul_comm]
      exact_mod_cast (by rw [Nat.mul_add]; omega : p ≤ q * (quotient + 1))
  · next hremainder =>
    have hexact : (p : ℚ) = quotient * q := by
      rw [mul_comm]
      exact_mod_cast (by omega : p = q * quotient)
    rw [hexact, mul_div_assoc, div_self hq'.ne', mul_one, Nat.ceil_natCast, Nat.add_zero]

/-- The capacity spans one target interval. -/
theorem le_mul_capacity (hq : 0 < q) : p ≤ q * capacity p q := by
  have hdivision : q * (p / q) + p % q = p := Nat.div_add_mod p q
  have hlt : p % q < q := Nat.mod_lt p hq
  rw [capacity, Nat.mul_add]
  split <;> omega

/-- A positive rate needs room for at least one sample. -/
theorem capacity_pos (hp : 0 < p) (hq : 0 < q) : 0 < capacity p q := by
  have hle := le_mul_capacity (p := p) hq
  by_contra hzero
  rw [Nat.eq_zero_of_not_pos hzero] at hle
  omega

/-- At most `⌈p / q⌉` source ticks become due between two target ticks. -/
theorem due_succ_le (hq : 0 < q) (k : Nat) : due p q (k + 1) ≤ due p q k + capacity p q := by
  have hk : k * p < (due p q k + 1) * q := Nat.lt_mul_of_div_lt (Nat.lt_succ_self _) hq
  have hp := le_mul_capacity (p := p) hq
  have hnext : (k + 1) * p < (due p q k + capacity p q + 1) * q :=
    calc (k + 1) * p = k * p + p := Nat.succ_mul k p
      _ < (due p q k + 1) * q + q * capacity p q := by omega
      _ = (due p q k + capacity p q + 1) * q := by ring
  exact Nat.lt_succ_iff.mp ((Nat.div_lt_iff_lt_mul hq).mpr hnext)

/-- Over one pattern of `q` target ticks exactly `p` source ticks become due. -/
private theorem sum_due (hq : 0 < q) :
    ∑ k ∈ Finset.range q, (due p q (k + 1) - due p q k) = p := by
  have hmono : Monotone (due p q) := fun a b hab => Nat.div_le_div_right (Nat.mul_le_mul_right p hab)
  rw [Finset.sum_range_tsub hmono, due, due, Nat.zero_mul, Nat.zero_div, Nat.sub_zero,
    Nat.mul_div_cancel_left p hq]

/-- Some target tick of the pattern attains the bound. -/
theorem exists_due_succ_eq (hq : 0 < q) :
    ∃ k < q, due p q (k + 1) = due p q k + capacity p q := by
  by_contra hnone
  push Not at hnone
  -- otherwise every tick falls short of the bound, and so does the sum over the pattern
  have hshort : ∀ k ∈ Finset.range q, due p q (k + 1) - due p q k + 1 ≤ capacity p q := by
    intro k hk
    have hle := due_succ_le (p := p) hq k
    have hne := hnone k (Finset.mem_range.mp hk)
    have hmono : due p q k ≤ due p q (k + 1) :=
      Nat.div_le_div_right (Nat.mul_le_mul_right p (Nat.le_succ k))
    omega
  have hsum := Finset.sum_le_sum hshort
  rw [Finset.sum_add_distrib, sum_due hq, Finset.sum_const, Finset.sum_const,
    Finset.card_range, smul_eq_mul, smul_eq_mul, Nat.mul_one] at hsum
  have hdivision : q * (p / q) + p % q = p := Nat.div_add_mod p q
  rw [capacity, Nat.mul_add] at hsum
  split at hsum
  · next hremainder => omega
  · omega

/-! ## Ticks seen before a target tick -/

/-- How many source ticks are due before target tick `k`. -/
def seen (p q : Nat) : Nat → Nat
  | 0 => 0
  | k + 1 => due p q k + 1

theorem lt_seen_succ_iff (hq : 0 < q) {s k : Nat} : s < seen p q (k + 1) ↔ s * q ≤ k * p := by
  rw [seen, Nat.lt_succ_iff, le_due_iff hq]

theorem seen_mono (p q : Nat) {j k : Nat} (h : j ≤ k) : seen p q j ≤ seen p q k := by
  cases j with
  | zero => exact Nat.zero_le _
  | succ j =>
    cases k with
    | zero => omega
    | succ k =>
      exact Nat.succ_le_succ (Nat.div_le_div_right (Nat.mul_le_mul_right p (by omega)))

/-- At most `⌈p / q⌉` source ticks are newly due at a target tick. At target tick zero that
is source tick zero. -/
theorem seen_succ_le (hp : 0 < p) (hq : 0 < q) (k : Nat) :
    seen p q (k + 1) ≤ seen p q k + capacity p q := by
  cases k with
  | zero =>
    have hpos := capacity_pos hp hq
    simp only [seen, due, Nat.zero_mul, Nat.zero_div]
    omega
  | succ k =>
    have hle := due_succ_le (p := p) hq k
    simp only [seen]
    omega

/-- Some target tick has `⌈p / q⌉` newly due source ticks. -/
theorem exists_seen_succ_eq (hq : 0 < q) :
    ∃ k ≤ q, seen p q (k + 1) = seen p q k + capacity p q := by
  obtain ⟨k, hk, heq⟩ := exists_due_succ_eq (p := p) hq
  refine ⟨k + 1, hk, ?_⟩
  simp only [seen]
  omega

/-- A strictly increasing list of numbers in `[low, high)` is no longer than the interval. -/
theorem length_le_of_strictMono {ticks : List Nat} {low high : Nat}
    (hsorted : ticks.Pairwise (· < ·)) (hbounds : ∀ t ∈ ticks, low ≤ t ∧ t < high) :
    ticks.length ≤ high - low := by
  have hnodup : ticks.Nodup := hsorted.imp fun h => h.ne
  have hsubset : ticks.toFinset ⊆ Finset.Ico low high := by
    intro t ht
    exact Finset.mem_Ico.mpr (hbounds t (List.mem_toFinset.mp ht))
  have hcard := Finset.card_le_card hsubset
  rwa [List.toFinset_card_of_nodup hnodup, Nat.card_Ico] at hcard

end RateCount
