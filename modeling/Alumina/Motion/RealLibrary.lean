import Alumina.Motion.ChordCompiler
import Alumina.Motion.DirectRecords
import Alumina.Motion.Library

/-!
# Rational numbers as exact reals

The rationals stand for themselves, and a root is taken where it is rational. Concrete runs of the
planning and compilation models use them, together with lines and arcs that are given by their
vectors and radii, and source paths that are polylines already.
-/

namespace Alumina.Motion.HostLibrary

open Except (failIf)

/-! ## Roots -/

def naturalRoot (degree n : Nat) : Option Nat :=
  (List.range (n + 1)).find? fun root => root ^ degree = n

/-- The root of a nonnegative fraction, when its parts have roots. -/
def rationalRoot (degree : Nat) (x : ℚ) : Except RationalProblem ℚ := do
  failIf (x < 0) .irrationalRoot
  let numerator ← (naturalRoot degree x.num.toNat).okOr .irrationalRoot
  let denominator ← (naturalRoot degree x.den).okOr .irrationalRoot
  pure (numerator / denominator)

theorem naturalRoot_eq_some {degree n root : Nat} (h : naturalRoot degree n = some root) :
    root ^ degree = n := by
  simpa using List.find?_some h

theorem rationalRoot_eq_ok {degree : Nat} {x root : ℚ} (h : rationalRoot degree x = .ok root) :
    0 ≤ x ∧ 0 ≤ root ∧ root ^ degree = x := by
  simp only [rationalRoot, Except.bind_eq_ok, Except.exists_unit, Except.failIf_eq_ok, not_lt,
    Option.okOr_eq_ok, Except.pure_eq_ok] at h
  obtain ⟨hx, numerator, hnumerator, denominator, hdenominator, rfl⟩ := h
  refine ⟨hx, by positivity, ?_⟩
  have hnum : ((x.num.toNat : Int) : ℚ) = x.num := by
    rw [Int.toNat_of_nonneg (Rat.num_nonneg.mpr hx)]
  have hroot : (numerator : ℚ) ^ degree = x.num := by
    rw [← hnum, ← naturalRoot_eq_some hnumerator]
    push_cast
    rfl
  have hden : (denominator : ℚ) ^ degree = x.den := by
    exact_mod_cast congrArg (Nat.cast : Nat → ℚ) (naturalRoot_eq_some hdenominator)
  rw [div_pow, hroot, hden, Rat.num_div_den]

scoped instance realFunctions : RealFunctions where
  rationalFraction numerator denominator := divide numerator.toInt denominator.toNat
  ofRational q := q
  integer n := (n : ℚ)
  neg := fun x : ℚ => -x
  abs := (fun x => |x| : ℚ → ℚ)
  sqrt := rationalRoot 2
  cbrt := rationalRoot 3
  roundCertified := fun x : ℚ => .ok (round x)

theorem divide_eq_ok {dividend divisor quotient : ℚ} (h : divide dividend divisor = .ok quotient) :
    divisor ≠ 0 ∧ quotient = dividend / divisor := by
  simp only [divide, Except.bind_eq_ok, Except.exists_unit, Except.failIf_eq_ok,
    Except.pure_eq_ok] at h
  obtain ⟨hdivisor, rfl⟩ := h
  exact ⟨hdivisor, rfl⟩

noncomputable scoped instance realMeaning : RealMeaning where
  value x := ((x : ℚ) : ℝ)
  value_zero := Rat.cast_zero
  value_ofU64 n := Rat.cast_natCast n.toNat
  value_ofRational _ := rfl
  value_integer n := Rat.cast_intCast n
  value_add := Rat.cast_add
  value_sub := Rat.cast_sub
  value_mul := Rat.cast_mul
  value_neg := Rat.cast_neg
  value_abs := Rat.cast_abs
  rationalFraction_ok h := (divide_eq_ok h).2
  div_ok h := by
    obtain ⟨hdivisor, rfl⟩ := divide_eq_ok h
    exact ⟨Rat.cast_ne_zero.mpr hdivisor, Rat.cast_div _ _⟩
  sqrt_ok h := by
    obtain ⟨hx, hroot, rfl⟩ := rationalRoot_eq_ok h
    refine ⟨Rat.cast_nonneg.mpr hx, ?_⟩
    rw [Rat.cast_pow, Real.sqrt_sq (Rat.cast_nonneg.mpr hroot)]
  cbrt_ok h := by
    obtain ⟨-, -, rfl⟩ := rationalRoot_eq_ok h
    exact (Rat.cast_pow _ _).symm
  ceil_ok h := by
    cases h
    exact (Rat.ceil_cast _).symm
  round_ok := by
    intro (x : ℚ) n h
    obtain rfl : round x = n := Except.ok.inj h
    have hround : |(round x : ℚ) - x| ≤ 1 / 2 := by
      rw [abs_sub_comm]
      exact abs_sub_round x
    have hcast := (Rat.cast_le (K := ℝ)).mpr hround
    push_cast at hcast
    exact hcast
  compare_some := by
    intro (x : ℚ) (y : ℚ) order h
    obtain rfl := Option.some.inj h
    split
    · next hlt => exact Rat.cast_lt.mpr hlt
    · next hlt =>
      split
      · next heq => exact congrArg Rat.cast heq
      · next hne => exact Rat.cast_lt.mpr (lt_of_le_of_ne (not_lt.mp hlt) (Ne.symm hne))
  sign_some := by
    intro (x : ℚ) sign h
    obtain rfl := Option.some.inj h
    split
    · next hneg => exact (sign_neg (Rat.cast_lt_zero.mpr hneg)).symm
    · next hneg =>
      split
      · next hzero => rw [hzero, Rat.cast_zero, sign_zero]; rfl
      · next hne =>
        exact (sign_pos (Rat.cast_pos.mpr (lt_of_le_of_ne (not_lt.mp hneg) (Ne.symm hne)))).symm

def isRational (x q : ℚ) : Bool := x = q

theorem value_of_isRational {x q : ℚ} (h : isRational x q = true) : value (x : ExactReal.Real) = q :=
  congrArg Rat.cast (of_decide_eq_true h)

/-! ## Enclosures -/

/-- The neighbours of a number on the grid of a binary precision. -/
def gridInterval (x : ℚ) (precision : Int) : ℚ × ℚ :=
  let grid : ℚ := 2 ^ precision.natAbs
  (⌊x * grid⌋ / grid, ⌈x * grid⌉ / grid)

theorem gridInterval_encloses (x : ℚ) (precision : Int) :
    (gridInterval x precision).1 ≤ x ∧ x ≤ (gridInterval x precision).2 := by
  have hgrid : (0 : ℚ) < 2 ^ precision.natAbs := by positivity
  constructor
  · exact (div_le_iff₀ hgrid).2 (Int.floor_le _)
  · exact (le_div_iff₀ hgrid).2 (Int.le_ceil _)

scoped instance rationalEnclosures : RationalEnclosures where
  certifiedRationalInterval x precision := some (gridInterval x precision)

scoped instance lawfulEnclosures : LawfulEnclosures where
  enclosed := by
    intro (x : ℚ) precision interval h
    obtain rfl : gridInterval x precision = interval := Option.some.inj h
    obtain ⟨hlower, hupper⟩ := gridInterval_encloses x precision
    exact ⟨Rat.cast_le.mpr hlower, Rat.cast_le.mpr hupper⟩

/-! ## Direct records -/

inductive RecordProblem where
  | arithmetic | updateCount
  | directionReversal | tooManySteps
  deriving DecidableEq

def positionAfter (axis : FiniteDifferenceAxis) (updates : Nat) : Int :=
  axis.initialPosition.toInt + updates * axis.firstDifference.toInt +
    updates.choose 2 * axis.secondDifference.toInt + updates.choose 3 * axis.thirdDifference.toInt

/-- One update of one axis keeps the direction of the record and its bound on steps. -/
def checkUpdate (maximumSteps : UInt64) (axis : FiniteDifferenceAxis) (update : Nat) :
    Except RecordProblem Unit := do
  let delta := positionAfter axis (update + 1) - positionAfter axis update
  failIf (delta * axis.firstDifference.toInt < 0) .directionReversal
  failIf ((positionAfter axis (update + 1) - axis.initialPosition.toInt).natAbs >
    maximumSteps.toNat * 2 ^ 32) .tooManySteps

def checkUpdates (maximumSteps : UInt64) (axes : Axes FiniteDifferenceAxis) (update : Nat) :
    Except RecordProblem Unit := do
  checkUpdate maximumSteps axes.x update
  checkUpdate maximumSteps axes.y update

/-- Records are validated update by update. -/
scoped instance finiteDifferenceMachine : Direct.FiniteDifferenceMachine where
  FiniteDifferenceError := RecordProblem
  arithmetic := .arithmetic
  isDirectionReversal error := error = .directionReversal
  isTooManySteps error := error = .tooManySteps
  validate segment _ _ limits := do
    failIf (segment.updateCount = 0 ∨ limits.maximumUpdateCount < segment.updateCount) .updateCount
    Except.forEach (checkUpdates limits.maximumStepsPerSegment segment.axes)
      (List.range segment.updateCount.toNat)
  positionAt segment axis updates :=
    (toI64 (positionAfter (segment.axes.get axis) updates.toNat)).okOr .arithmetic

/-! ## Feed paths -/

structure Arc where
  radius : ℚ
  radius_pos : 0 < radius

/-- Lines are their direction vectors. Projections are not planned here. -/
scoped instance feedPaths : FeedPaths where
  RouteCertificationError := RationalProblem
  Line := Axes ℚ
  Arc := Arc
  CubicPh := Empty
  QuinticPh := Empty
  directionVector line := line
  euclideanLength line := rationalRoot 2 (line.x ^ 2 + line.y ^ 2)
  radius := Arc.radius
  planAxisProjectedMotionLimits _ _ := .error .divisionByZero

/-! ## Source paths -/

/-- Source paths that need no cutting. -/
scoped instance sourceCurves : SourceCurves where
  Path := CertifiedPolyline ℚ
  FlatteningOptions := ℚ × Nat
  CurveError := RationalProblem
  ExactCurveError := RationalProblem
  UncertaintyReason := Unit
  flatteningOptions maximumErrorMm maximumDepth := .ok (maximumErrorMm, maximumDepth)
  blocked _ := none
  segmentCertified path _ := .ok path

end Alumina.Motion.HostLibrary
