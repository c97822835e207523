import Alumina.ForStd.HalfEven
import Alumina.Spec.ResolutionBudget

/-!
# What a certified projection certifies

A coefficient is projected when both ends of its enclosure round half to even to one integer. By
monotonicity every number of the enclosure then rounds to it, the coefficient included, and the
error bound covers the coefficient because it covers both ends.

The rounding finds the floor from the integer part by a checked decrement. On the numbers below
`-2 ^ 63` that round to it the decrement fails, although their rounding is an integer of 64 bits.

## Key results

- `roundTiesEven_eq_ok`: the rounding, with the numbers on which it is refused
- `roundEnclosure_complete_iff`: when a projection succeeds on every enclosure that has a rounding
- `projection_certified`: both stages, with the bound on the error
-/

namespace Alumina.Motion

open Alumina.Machine (abs_le_extent)

/-! ## The numbers on which the rounding is refused -/

/-- The numbers that round to the least integer of 64 bits from below it. -/
def RoundsUpToLeast (x : ℚ) : Prop := -2 ^ 63 - 1 / 2 ≤ x ∧ x < -2 ^ 63

/-- Every number of an enclosure rounds half to even to one integer. -/
def RoundsTo (interval : ℚ × ℚ) (n : ℤ) : Prop :=
  ∀ y : ℝ, interval.1 ≤ y → y ≤ interval.2 → IsHalfEven n y

/-- The enclosures of numbers around the least integer of 64 bits that begin below it. -/
def StartsBelowLeast (interval : ℚ × ℚ) : Prop :=
  RoundsUpToLeast interval.1 ∧ interval.2 ≤ -2 ^ 63 + 1 / 2

instance (interval : ℚ × ℚ) : Decidable (StartsBelowLeast interval) :=
  inferInstanceAs (Decidable ((_ ≤ _ ∧ _ < _) ∧ _ ≤ _))

/-! ## Rounding -/

theorem toI64_eq_some {value : Int} {n : Int64} : toI64 value = some n ↔ n.toInt = value := by
  unfold toI64
  have hlow := n.le_toInt
  have hhigh := n.toInt_lt
  constructor
  · intro h
    split at h
    · next hrange =>
      cases h
      exact Int64.toInt_ofInt_of_le hrange.1 hrange.2
    · cases h
  · intro h
    rw [if_pos (by omega), ← h, Int64.ofInt_toInt]

/-- The floor as the source finds it from the integer part. -/
theorem floor_eq_trunc (x : ℚ) :
    ⌊x⌋ = if x < 0 ∧ fract x ≠ 0 then trunc x - 1 else trunc x := by
  by_cases hneg : x < 0
  · have htrunc : trunc x = ⌈x⌉ := if_pos hneg
    by_cases hfract : fract x = 0
    · rw [if_neg (by simp [hfract]), htrunc]
      have hx : x = ⌈x⌉ := by
        rw [fract, htrunc] at hfract
        linarith
      rw [hx, Int.floor_intCast, Int.ceil_intCast]
    · rw [if_pos ⟨hneg, hfract⟩, htrunc]
      rw [fract, htrunc] at hfract
      have hle := Int.le_ceil x
      have hne : x ≠ ⌈x⌉ := fun heq => hfract (sub_eq_zero.2 heq)
      have hlt := lt_of_le_of_ne hle hne
      have hceil := Int.ceil_lt_add_one x
      apply Int.floor_eq_iff.2
      push_cast
      constructor <;> linarith
  · rw [if_neg fun h => hneg h.1, trunc, if_neg hneg]

section Rounding

variable {ε : Type} {truncation decrement increment : ε} {x : ℚ} {n : Int64}

/-- The floor is found exactly when it fits: the integer part is on its side of zero. -/
theorem checkedFloor_eq_ok {floor : Int64} :
    checkedFloor truncation decrement x = .ok floor ↔ floor.toInt = ⌊x⌋ := by
  have hlow := floor.le_toInt
  have hhigh := floor.toInt_lt
  have hfloorTrunc := floor_eq_trunc x
  simp only [checkedFloor, Except.bind_eq_ok, Option.okOr_eq_ok, toI64_eq_some]
  by_cases hdown : x < 0 ∧ fract x ≠ 0
  · rw [if_pos hdown] at hfloorTrunc
    simp only [if_pos hdown, Option.okOr_eq_ok, toI64_eq_some]
    constructor
    · intro h
      obtain ⟨truncated, htruncated, hfloor⟩ := h
      omega
    · intro hfloor
      have hnonpos : trunc x ≤ 0 := by
        rw [trunc, if_pos hdown.1]
        exact Int.ceil_le.2 (by exact_mod_cast hdown.1.le)
      have hfits := Int64.toInt_ofInt_of_le (n := trunc x) (by omega) (by omega)
      exact ⟨.ofInt (trunc x), hfits, by omega⟩
  · rw [if_neg hdown] at hfloorTrunc
    simp only [if_neg hdown, Except.pure_eq_ok]
    constructor
    · intro h
      obtain ⟨truncated, htruncated, rfl⟩ := h
      omega
    · intro hfloor
      exact ⟨floor, by omega, rfl⟩

/-- Where the floor fits, the rounding goes by the remainder. -/
theorem roundTiesEven_of_floor {floor : Int64} (hfloor : floor.toInt = ⌊x⌋) :
    roundTiesEven truncation decrement increment x =
      if x - ⌊x⌋ < 1 / 2 ∨ x - ⌊x⌋ = 1 / 2 ∧ Even ⌊x⌋ then .ok floor
      else (toI64 (⌊x⌋ + 1)).okOr increment := by
  have heven : ⌊x⌋.tmod 2 = 0 ↔ Even ⌊x⌋ := by
    rw [even_iff_two_dvd, Int.dvd_iff_tmod_eq_zero]
  rw [roundTiesEven, checkedFloor_eq_ok.2 hfloor, Except.bind_of_ok rfl]
  simp only [hfloor, heven]
  rfl

/-- Where the floor does not fit, the rounding is refused. -/
theorem roundTiesEven_of_floor_range (hfloor : ⌊x⌋ < -2 ^ 63 ∨ 2 ^ 63 ≤ ⌊x⌋) :
    roundTiesEven truncation decrement increment x ≠ .ok n := by
  intro h
  simp only [roundTiesEven, Except.bind_eq_ok, checkedFloor_eq_ok] at h
  obtain ⟨floor, hequal, -⟩ := h
  have hlow := floor.le_toInt
  have hhigh := floor.toInt_lt
  omega

/-- The rounding finds the half-even integer wherever it fits, but for the numbers that round up to
the least one. -/
theorem roundTiesEven_eq_ok :
    roundTiesEven truncation decrement increment x = .ok n ↔
      IsHalfEven n.toInt x ∧ ¬ RoundsUpToLeast x := by
  have hnLow := n.le_toInt
  have hnHigh := n.toInt_lt
  have hfloor := Int.floor_le x
  have hlt := Int.lt_floor_add_one x
  by_cases hrange : -2 ^ 63 ≤ ⌊x⌋ ∧ ⌊x⌋ < 2 ^ 63
  · have hfits : (Int64.ofInt ⌊x⌋).toInt = ⌊x⌋ := Int64.toInt_ofInt_of_le hrange.1 hrange.2
    have hleast : ¬ RoundsUpToLeast x := by
      have : (-2 ^ 63 : ℚ) ≤ ⌊x⌋ := by exact_mod_cast hrange.1
      intro hbelow
      linarith [hbelow.2]
    rw [roundTiesEven_of_floor hfits, and_iff_left hleast]
    split
    · next hdown =>
      have hhalf := isHalfEven_floor hdown
      constructor
      · intro h
        cases h
        rwa [hfits]
      · intro h
        rw [← Int64.ofInt_toInt n, h.unique hhalf]
    · next hup =>
      have hhalf := isHalfEven_floor_add_one hup
      rw [Option.okOr_eq_ok, toI64_eq_some]
      constructor
      · intro h
        rwa [h]
      · intro h
        exact h.unique hhalf
  · constructor
    · intro h
      exact absurd h (roundTiesEven_of_floor_range (by omega))
    · rintro ⟨hhalf, hleast⟩
      have habs := abs_le.1 hhalf.abs_sub_le
      rcases (by omega : ⌊x⌋ < -2 ^ 63 ∨ 2 ^ 63 ≤ ⌊x⌋) with hlow | hhigh
      · -- below the least integer only the refused numbers round to one that fits
        have hx : (⌊x⌋ : ℚ) + 1 ≤ -2 ^ 63 := by exact_mod_cast (by omega : ⌊x⌋ + 1 ≤ -2 ^ 63)
        have hn : (-2 ^ 63 : ℚ) ≤ n.toInt := by exact_mod_cast hnLow
        exact absurd ⟨by linarith, by linarith⟩ hleast
      · -- above the greatest one nothing does
        have hx : (2 ^ 63 : ℚ) ≤ ⌊x⌋ := by exact_mod_cast hhigh
        have hn : (n.toInt : ℚ) + 1 ≤ 2 ^ 63 := by exact_mod_cast (by omega : n.toInt + 1 ≤ 2 ^ 63)
        linarith

/-! ## Enclosures -/

variable {unresolved : ε} {interval : ℚ × ℚ}

/-- An enclosure is encoded when both its ends are rounded to one integer. -/
theorem roundEnclosure_eq_ok {round : ℚ → Except ε Int64} :
    roundEnclosure round unresolved interval = .ok n ↔
      round interval.1 = .ok n ∧ round interval.2 = .ok n := by
  simp only [roundEnclosure, Except.bind_eq_ok, Except.exists_unit, Except.failIf_eq_ok, not_not,
    Except.pure_eq_ok]
  constructor
  · intro h
    obtain ⟨lower, hlower, upper, hupper, rfl, rfl⟩ := h
    exact ⟨hlower, hupper⟩
  · intro h
    exact ⟨n, h.1, n, h.2, rfl, rfl⟩

/-- By monotonicity, an enclosure rounds to what both its ends round to. -/
theorem roundsTo_iff (hordered : interval.1 ≤ interval.2) {m : ℤ} :
    RoundsTo interval m ↔ IsHalfEven m interval.1 ∧ IsHalfEven m interval.2 := by
  have horderedReal : (interval.1 : ℝ) ≤ interval.2 := by exact_mod_cast hordered
  constructor
  · intro h
    exact ⟨isHalfEven_cast.1 (h _ le_rfl horderedReal), isHalfEven_cast.1 (h _ horderedReal le_rfl)⟩
  · intro h y hlower hupper
    exact (isHalfEven_cast.2 h.1).between (isHalfEven_cast.2 h.2) hlower hupper

/-- The numbers that round up to the least integer do round to it. -/
theorem RoundsUpToLeast.isHalfEven (h : RoundsUpToLeast x) : IsHalfEven (-2 ^ 63) x := by
  apply IsHalfEven.of_even (by decide)
  push_cast
  exact abs_le.2 ⟨by linarith [h.1], by linarith [h.2]⟩

/-- The encoding of an enclosure is what its numbers round to. -/
theorem roundsTo_of_roundEnclosure (hordered : interval.1 ≤ interval.2)
    (h : roundEnclosure (roundTiesEven truncation decrement increment) unresolved interval =
      .ok n) : RoundsTo interval n.toInt := by
  obtain ⟨hlower, hupper⟩ := roundEnclosure_eq_ok.1 h
  exact (roundsTo_iff hordered).2
    ⟨(roundTiesEven_eq_ok.1 hlower).1, (roundTiesEven_eq_ok.1 hupper).1⟩

/-- An enclosure that rounds to an integer of 64 bits is encoded unless it starts below the least
one. -/
theorem roundEnclosure_of_roundsTo (hordered : interval.1 ≤ interval.2)
    (h : RoundsTo interval n.toInt) (hstart : ¬ StartsBelowLeast interval) :
    roundEnclosure (roundTiesEven truncation decrement increment) unresolved interval = .ok n := by
  obtain ⟨hlower, hupper⟩ := (roundsTo_iff hordered).1 h
  have hstartLower : ¬ RoundsUpToLeast interval.1 := by
    intro hbelow
    -- the integer is the least one, and the whole enclosure rounds to it
    have hleast := hlower.unique hbelow.isHalfEven
    have habs := abs_le.1 hupper.abs_sub_le
    rw [hleast] at habs
    push_cast at habs
    exact hstart ⟨hbelow, by linarith⟩
  have hstartUpper : ¬ RoundsUpToLeast interval.2 := by
    intro hbelow
    have hleast := hupper.unique hbelow.isHalfEven
    have habs := abs_le.1 hlower.abs_sub_le
    rw [hleast] at habs
    push_cast at habs
    exact hstartLower ⟨by linarith, hordered.trans_lt hbelow.2⟩
  exact roundEnclosure_eq_ok.2
    ⟨roundTiesEven_eq_ok.2 ⟨hlower, hstartLower⟩, roundTiesEven_eq_ok.2 ⟨hupper, hstartUpper⟩⟩

/-- An enclosure that starts below the least integer rounds to it. -/
theorem StartsBelowLeast.roundsTo (h : StartsBelowLeast interval)
    (hordered : interval.1 ≤ interval.2) : RoundsTo interval Int64.minValue.toInt := by
  have hupper : IsHalfEven (-2 ^ 63) interval.2 := by
    apply IsHalfEven.of_even (by decide)
    push_cast
    exact abs_le.2 ⟨by linarith [h.1.1], by linarith [h.2]⟩
  exact (roundsTo_iff hordered).2 ⟨h.1.isHalfEven, hupper⟩

/-- An enclosure that starts below the least integer is refused. -/
theorem StartsBelowLeast.refused (h : StartsBelowLeast interval) :
    roundEnclosure (roundTiesEven truncation decrement increment) unresolved interval ≠
      .ok n := by
  intro hok
  exact (roundTiesEven_eq_ok.1 (roundEnclosure_eq_ok.1 hok).1).2 h.1

/-- Encoding succeeds on exactly the enclosures that round to an integer of 64 bits, unless the
enclosure starts below the least one. -/
theorem roundEnclosure_complete_iff (hordered : interval.1 ≤ interval.2) :
    ((∃ n, roundEnclosure (roundTiesEven truncation decrement increment) unresolved interval =
        .ok n) ↔ ∃ n : Int64, RoundsTo interval n.toInt) ↔ ¬ StartsBelowLeast interval := by
  constructor
  · intro h hstart
    obtain ⟨n, hn⟩ := h.2 ⟨_, hstart.roundsTo hordered⟩
    exact hstart.refused hn
  · intro hstart
    constructor
    · intro h
      obtain ⟨n, hn⟩ := h
      exact ⟨n, roundsTo_of_roundEnclosure hordered hn⟩
    · intro h
      obtain ⟨n, hn⟩ := h
      exact ⟨n, roundEnclosure_of_roundsTo hordered hn hstart⟩

/-- The error bound covers the whole enclosure. -/
theorem le_maximumScaledError {y : ℝ} (hlower : interval.1 ≤ y) (hupper : y ≤ interval.2) :
    |y - n.toInt| ≤ (maximumScaledError interval n : ℚ) := by
  apply abs_le_extent <;> push_cast <;> linarith

/-- The error bound, scaled back, covers every coefficient whose scaled value is enclosed. -/
theorem error_le_of_enclosed {ideal : ℝ} {scale : Int64} (hscale : 0 < scale.toInt)
    (hlower : interval.1 ≤ ideal * scale.toInt) (hupper : ideal * scale.toInt ≤ interval.2) :
    |ideal - n.toInt / scale.toInt| ≤ (maximumScaledError interval n / scale.toInt : ℚ) := by
  have hpos : (0 : ℝ) < scale.toInt := by exact_mod_cast hscale
  have hscaled : ideal - n.toInt / scale.toInt =
      (ideal * scale.toInt - n.toInt) / scale.toInt := by
    field_simp
  rw [hscaled, abs_div, abs_of_pos hpos]
  push_cast
  gcongr
  exact le_maximumScaledError hlower hupper

end Rounding

/-! ## The projections -/

/-- What a projection promises: it succeeds exactly when its whole enclosure rounds to one integer
of 64 bits, which it then encodes, and its error bound covers the coefficient. -/
structure IsCertified {ε P : Type} (outcome : Except ε P) (encoded : P → Int64)
    (maximumError : P → ℚ) (ideal : ℝ) (scale : Int64) (interval : ℚ × ℚ) : Prop where
  succeeds : (∃ p, outcome = .ok p) ↔ ∃ n : Int64, RoundsTo interval n.toInt
  encodes : ∀ p, outcome = .ok p → RoundsTo interval (encoded p).toInt
  bounds : ∀ p, outcome = .ok p → |ideal - (encoded p).toInt / scale.toInt| ≤ maximumError p

/-- A projection whose outcome is the encoding of its enclosure keeps its promise unless the
enclosure starts below the least integer. -/
theorem isCertified_iff {ε P : Type} {truncation decrement increment unresolved : ε}
    {outcome : Except ε P} {encoded : P → Int64} {maximumError : P → ℚ} {ideal : ℝ}
    {scale : Int64} {interval : ℚ × ℚ} {project : Int64 → P} (hscale : 0 < scale.toInt)
    (hlower : interval.1 ≤ ideal * scale.toInt) (hupper : ideal * scale.toInt ≤ interval.2)
    (hencoded : ∀ n, encoded (project n) = n)
    (herror : ∀ n, maximumError (project n) = maximumScaledError interval n / scale.toInt)
    (houtcome : ∀ p, outcome = .ok p ↔ ∃ n,
      roundEnclosure (roundTiesEven truncation decrement increment) unresolved interval = .ok n ∧
        project n = p) :
    IsCertified outcome encoded maximumError ideal scale interval ↔
      ¬ StartsBelowLeast interval := by
  have hordered : interval.1 ≤ interval.2 := by exact_mod_cast hlower.trans hupper
  have hsucceeds : (∃ p, outcome = .ok p) ↔ ∃ n,
      roundEnclosure (roundTiesEven truncation decrement increment) unresolved interval =
        .ok n := by
    simp only [houtcome]
    constructor
    · intro h
      obtain ⟨_, n, hn, -⟩ := h
      exact ⟨n, hn⟩
    · intro h
      obtain ⟨n, hn⟩ := h
      exact ⟨_, n, hn, rfl⟩
  have hcomplete : ((∃ n, roundEnclosure (roundTiesEven truncation decrement increment) unresolved
      interval = .ok n) ↔ ∃ n : Int64, RoundsTo interval n.toInt) ↔ ¬ StartsBelowLeast interval :=
    roundEnclosure_complete_iff hordered
  rw [← hcomplete, ← hsucceeds]
  constructor
  · intro h
    exact h.succeeds
  · intro h
    refine ⟨h, ?_, ?_⟩
    · intro p hp
      obtain ⟨n, hn, rfl⟩ := (houtcome p).1 hp
      rw [hencoded]
      exact roundsTo_of_roundEnclosure hordered hn
    · intro p hp
      obtain ⟨n, hn, rfl⟩ := (houtcome p).1 hp
      rw [hencoded, herror]
      exact error_le_of_enclosed hscale hlower hupper

/-- A rounding answers every number that it should unless the number rounds up to the least
integer. -/
theorem roundTiesEven_complete_iff {ε : Type} {truncation decrement increment : ε} (x : ℚ) :
    (∀ n, roundTiesEven truncation decrement increment x = .ok n ↔ IsHalfEven n.toInt x) ↔
      ¬ RoundsUpToLeast x := by
  simp only [roundTiesEven_eq_ok]
  constructor
  · intro h hleast
    exact ((h Int64.minValue).2 hleast.isHalfEven).2 hleast
  · intro hleast n
    exact and_iff_left hleast

/-- The lattice of a signal has a positive scale. -/
theorem Servo.latticeScale_pos {signal : ServoSignal} {scale : Int64}
    (h : Servo.latticeScale (Servo.fractionBits signal) = some scale) : 0 < scale.toInt := by
  cases signal <;> cases h <;> decide

section Code

variable [ExactReal]

/-- The projection of a coefficient that is encoded as a given integer. -/
def Direct.projected (idealSteps : ExactReal.Real) (interval : ℚ × ℚ) (n : Int64) :
    Direct.DirectCoefficientProjection2 where
  idealSteps
  scaledInterval := interval
  encodedQ31_32 := n
  maximumErrorSteps := maximumScaledError interval n / finiteDifferenceOneStep.toInt

/-- The unforced projection of a coefficient that is encoded as a given integer. -/
def Servo.projected (ideal : ExactReal.Real) (fractionalBits : UInt32) (scale : Int64)
    (interval : ℚ × ℚ) (n : Int64) : Servo.ServoCoefficientProjection where
  ideal
  scaledInterval := interval
  encodedBits := n
  fractionalBits
  maximumError := maximumScaledError interval n / scale.toInt
  continuityForced := false

variable [RealFunctions] [RationalEnclosures] {interval : ℚ × ℚ} {precisionBits : UInt16}

theorem Direct.projectCoefficient_eq_ok {idealSteps : ExactReal.Real}
    (hinterval : RationalEnclosures.certifiedRationalInterval (ExactReal.mul idealSteps
      (RealFunctions.integer finiteDifferenceOneStep.toInt)) (-precisionBits.toNat) =
        some interval) {p : Direct.DirectCoefficientProjection2} :
    Direct.projectCoefficient idealSteps precisionBits = .ok p ↔
      ∃ n, roundEnclosure Direct.roundRationalTiesEven
        (.coefficientProjectionUnresolved precisionBits) interval = .ok n ∧
          Direct.projected idealSteps interval n = p := by
  simp only [Direct.projectCoefficient, hinterval, Option.okOr_some, Except.bind_eq_ok,
    Except.pure_eq_ok]
  constructor
  · intro h
    obtain ⟨_, ⟨⟩, n, hn, hp⟩ := h
    exact ⟨n, hn, hp⟩
  · intro h
    obtain ⟨n, hn, hp⟩ := h
    exact ⟨_, rfl, n, hn, hp⟩

theorem Servo.projectCoefficient_eq_ok {ideal : ExactReal.Real} {fractionalBits : UInt32}
    {scale : Int64} {site : Servo.CoefficientSite}
    (hscale : Servo.latticeScale fractionalBits = some scale)
    (hinterval : RationalEnclosures.certifiedRationalInterval (ExactReal.mul ideal
      (RealFunctions.integer scale.toInt)) (-precisionBits.toNat) = some interval)
    {p : Servo.ServoCoefficientProjection} :
    Servo.projectCoefficient ideal fractionalBits precisionBits none site = .ok p ↔
      ∃ n, roundEnclosure Servo.roundRationalTiesEven
        (.projectionUnresolved site precisionBits) interval = .ok n ∧
          Servo.projected ideal fractionalBits scale interval n = p := by
  simp only [Servo.projectCoefficient, hscale, Option.okOr_some, Except.bind_eq_ok,
    Except.pure_eq_ok]
  constructor
  · intro h
    obtain ⟨_, ⟨⟩, _, hfound, n, hn, hp⟩ := h
    obtain rfl := Option.some.inj (hinterval.symm.trans (Option.okOr_eq_ok.1 hfound))
    exact ⟨n, hn, hp⟩
  · intro h
    obtain ⟨n, hn, hp⟩ := h
    exact ⟨_, rfl, _, by rw [hinterval]; rfl, n, hn, hp⟩

variable [RealMeaning] [LawfulEnclosures]

/-- A direct projection is certified unless its enclosure starts below the least integer. -/
theorem Direct.isCertified_projectCoefficient_iff {idealSteps : ExactReal.Real}
    (hinterval : RationalEnclosures.certifiedRationalInterval (ExactReal.mul idealSteps
      (RealFunctions.integer finiteDifferenceOneStep.toInt)) (-precisionBits.toNat) =
        some interval) :
    IsCertified (Direct.projectCoefficient idealSteps precisionBits) (·.encodedQ31_32)
      (·.maximumErrorSteps) (value idealSteps) finiteDifferenceOneStep interval ↔
      ¬ StartsBelowLeast interval := by
  obtain ⟨hlower, hupper⟩ := LawfulEnclosures.enclosed hinterval
  rw [RealMeaning.value_mul, RealMeaning.value_integer] at hlower hupper
  exact isCertified_iff (by decide) hlower hupper (fun _ => rfl) (fun _ => rfl)
    fun _ => Direct.projectCoefficient_eq_ok hinterval

/-- So is an unforced servo projection. -/
theorem Servo.isCertified_projectCoefficient_iff {ideal : ExactReal.Real}
    {fractionalBits : UInt32} {scale : Int64} {site : Servo.CoefficientSite}
    (hscale : Servo.latticeScale fractionalBits = some scale) (hpositive : 0 < scale.toInt)
    (hinterval : RationalEnclosures.certifiedRationalInterval (ExactReal.mul ideal
      (RealFunctions.integer scale.toInt)) (-precisionBits.toNat) = some interval) :
    IsCertified (Servo.projectCoefficient ideal fractionalBits precisionBits none site)
      (·.encodedBits) (·.maximumError) (value ideal) scale interval ↔
      ¬ StartsBelowLeast interval := by
  obtain ⟨hlower, hupper⟩ := LawfulEnclosures.enclosed hinterval
  rw [RealMeaning.value_mul, RealMeaning.value_integer] at hlower hupper
  exact isCertified_iff hpositive hlower hupper (fun _ => rfl) (fun _ => rfl)
    fun _ => Servo.projectCoefficient_eq_ok hscale hinterval

/-- The roundings and the projections of both stages do what they promise except around the least
integer: a rounding is refused exactly on the numbers that round up to it, and a projection is
certified exactly when its enclosure does not start with one of these and round to it. -/
theorem projection_certified_iff :
    (∀ x, (∀ n, Direct.roundRationalTiesEven x = .ok n ↔ IsHalfEven n.toInt x) ↔
      ¬ RoundsUpToLeast x) ∧
    (∀ x, (∀ n, Servo.roundRationalTiesEven x = .ok n ↔ IsHalfEven n.toInt x) ↔
      ¬ RoundsUpToLeast x) ∧
    (∀ (idealSteps : ExactReal.Real) (precisionBits : UInt16) (interval : ℚ × ℚ),
      RationalEnclosures.certifiedRationalInterval (ExactReal.mul idealSteps
        (RealFunctions.integer finiteDifferenceOneStep.toInt)) (-precisionBits.toNat) =
          some interval →
      (IsCertified (Direct.projectCoefficient idealSteps precisionBits) (·.encodedQ31_32)
        (·.maximumErrorSteps) (value idealSteps) finiteDifferenceOneStep interval ↔
          ¬ StartsBelowLeast interval)) ∧
    ∀ (ideal : ExactReal.Real) (precisionBits : UInt16) (site : Servo.CoefficientSite)
      (scale : Int64) (interval : ℚ × ℚ),
      Servo.latticeScale (Servo.fractionBits site.signal) = some scale →
      RationalEnclosures.certifiedRationalInterval (ExactReal.mul ideal
        (RealFunctions.integer scale.toInt)) (-precisionBits.toNat) = some interval →
      (IsCertified (Servo.projectCoefficient ideal (Servo.fractionBits site.signal) precisionBits
        none site) (·.encodedBits) (·.maximumError) (value ideal) scale interval ↔
          ¬ StartsBelowLeast interval) := by
  refine ⟨roundTiesEven_complete_iff, roundTiesEven_complete_iff, ?_, ?_⟩
  · intro idealSteps precisionBits interval hinterval
    exact Direct.isCertified_projectCoefficient_iff hinterval
  · intro ideal precisionBits site scale interval hscale hinterval
    exact Servo.isCertified_projectCoefficient_iff hscale (Servo.latticeScale_pos hscale) hinterval

end Code

/-! ## Concrete projections -/

section Samples

open HostLibrary

/-- A third of a step is projected onto the direct lattice with a certified bound. -/
theorem projection_certified_third :
    IsCertified (Direct.projectCoefficient (1 / 3 : ℚ) 40) (·.encodedQ31_32) (·.maximumErrorSteps)
      (value (1 / 3 : ℚ)) finiteDifferenceOneStep (gridInterval (1 / 3 * 2 ^ 32) (-40)) :=
  (projection_certified_iff.2.2.1 (1 / 3 : ℚ) 40 _ rfl).2 (by decide +kernel)

/-- A quarter below the least integer, the rounding and both projections are refused, although the
number and its enclosure round to that integer. -/
theorem projection_refused_belowLeast :
    IsHalfEven Int64.minValue.toInt (-2 ^ 63 - 1 / 4 : ℚ) ∧
      Direct.roundRationalTiesEven (-2 ^ 63 - 1 / 4) =
        .error (.integerOverflow "Q31.32 coefficient projection") ∧
      Servo.roundRationalTiesEven (-2 ^ 63 - 1 / 4) =
        .error (.arithmetic "servo coefficient projection floor") ∧
      ¬ IsCertified (Direct.projectCoefficient (-2 ^ 31 - 1 / 2 ^ 34 : ℚ) 40) (·.encodedQ31_32)
        (·.maximumErrorSteps) (value (-2 ^ 31 - 1 / 2 ^ 34 : ℚ)) finiteDifferenceOneStep
        (gridInterval (-2 ^ 63 - 1 / 4) (-40)) ∧
      ¬ IsCertified (Servo.projectCoefficient (-2 ^ 31 - 1 / 2 ^ 34 : ℚ) 32 40 none
        ⟨0, 0, .position, 0⟩) (·.encodedBits) (·.maximumError)
        (value (-2 ^ 31 - 1 / 2 ^ 34 : ℚ)) finiteDifferenceOneStep
        (gridInterval (-2 ^ 63 - 1 / 4) (-40)) := by
  have hleast : RoundsUpToLeast (-2 ^ 63 - 1 / 4) := ⟨by norm_num, by norm_num⟩
  have hstart : StartsBelowLeast (gridInterval (-2 ^ 63 - 1 / 4) (-40)) := by decide +kernel
  have hscaled : (-2 ^ 31 - 1 / 2 ^ 34 : ℚ) * (finiteDifferenceOneStep.toInt : ℚ) =
      -2 ^ 63 - 1 / 4 := by decide +kernel
  refine ⟨hleast.isHalfEven, by decide +kernel, by decide +kernel, ?_, ?_⟩
  · intro h
    refine (Direct.isCertified_projectCoefficient_iff ?_).1 h hstart
    exact congrArg (fun x => some (gridInterval x (-40))) hscaled
  · intro h
    refine (Servo.isCertified_projectCoefficient_iff (by decide) (by decide) ?_).1 h hstart
    exact congrArg (fun x => some (gridInterval x (-40))) hscaled

end Samples

end Alumina.Motion
