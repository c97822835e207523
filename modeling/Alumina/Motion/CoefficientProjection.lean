import Alumina.Machine.Profile
import Alumina.Motion.ServoMotion

/-!
# Coefficient projection

The coefficients of a recurrence are exact reals. Both lowering stages project them onto a lattice
of 64-bit integers: the scaled coefficient is enclosed between two rational numbers, both are
rounded half to even, and the projection is refused when the two roundings differ.

The enclosure comes from the exact reals, and is the parameter `RationalEnclosures`. A half is a
rational number whose denominator is not zero, so forming it does not fail.
-/

namespace Alumina.Motion

open Except (failIf)
open Alumina.Machine (absoluteRational maximumRational)

/-- Closed rational intervals around exact reals. -/
class RationalEnclosures [ExactReal] where
  /-- `Real::certified_rational_interval` at a binary precision. -/
  certifiedRationalInterval : ExactReal.Real → Int → Option (ℚ × ℚ)

/-- An enclosure holds the number that it was asked for. -/
class LawfulEnclosures [ExactReal] [RealFunctions] [RealMeaning] [RationalEnclosures] : Prop where
  enclosed {x : ExactReal.Real} {precision : Int} {interval : ℚ × ℚ} :
    RationalEnclosures.certifiedRationalInterval x precision = some interval →
      (interval.1 : ℝ) ≤ value x ∧ value x ≤ interval.2

/-! ## Rounding -/

/-- The integer part, towards zero (`Rational::trunc`). -/
def trunc (value : ℚ) : Int := if value < 0 then ⌈value⌉ else ⌊value⌋

/-- What the integer part leaves (`Rational::fract`). -/
def fract (value : ℚ) : ℚ := value - trunc value

section Rounding

variable {ε : Type}

/-- The floor, from the integer part by a checked decrement. -/
def checkedFloor (truncation decrement : ε) (value : ℚ) : Except ε Int64 := do
  let truncated ← (toI64 (trunc value)).okOr truncation
  if value < 0 ∧ fract value ≠ 0 then (toI64 (truncated.toInt - 1)).okOr decrement
  else pure truncated

/-- `round_rational_ties_even` of both stages, with the errors of its three checked steps. -/
def roundTiesEven (truncation decrement increment : ε) (value : ℚ) : Except ε Int64 := do
  let floor ← checkedFloor truncation decrement value
  let remainder := value - floor.toInt
  if remainder < 1 / 2 ∨ remainder = 1 / 2 ∧ floor.toInt.tmod 2 = 0 then pure floor
  else (toI64 (floor.toInt + 1)).okOr increment

/-- The integer that both ends of an enclosure round to. -/
def roundEnclosure (round : ℚ → Except ε Int64) (unresolved : ε) (interval : ℚ × ℚ) :
    Except ε Int64 := do
  let lower ← round interval.1
  let upper ← round interval.2
  failIf (lower ≠ upper) unresolved
  pure lower

end Rounding

/-- The greatest distance from an encoded value to a number of the enclosure. -/
def maximumScaledError (interval : ℚ × ℚ) (encoded : Int64) : ℚ :=
  maximumRational (absoluteRational (interval.1 - encoded.toInt))
    (absoluteRational (interval.2 - encoded.toInt))

/-! ## The direct lattice -/

/-- `FINITE_DIFFERENCE_ONE_STEP` -/
def finiteDifferenceOneStep : Int64 := .ofInt (2 ^ 32)

variable [ExactReal] [RealFunctions] [RationalEnclosures]

namespace Direct

/-- The variants of `DirectMotionError` that a projection can end in. -/
inductive ProjectionError where
  | coefficientApproximationAborted
  | coefficientProjectionUnresolved (precisionBits : UInt16)
  | integerOverflow (domain : String)
  deriving DecidableEq, Repr

/-- Certified projection of one exact coefficient onto signed Q31.32. -/
structure DirectCoefficientProjection2 where
  idealSteps : ExactReal.Real
  scaledInterval : ℚ × ℚ
  encodedQ31_32 : Int64
  maximumErrorSteps : ℚ

def roundRationalTiesEven : ℚ → Except ProjectionError Int64 :=
  roundTiesEven (.integerOverflow "Q31.32 coefficient projection")
    (.integerOverflow "Q31.32 coefficient projection")
    (.integerOverflow "Q31.32 coefficient projection")

def projectCoefficient (idealSteps : ExactReal.Real) (precisionBits : UInt16) :
    Except ProjectionError DirectCoefficientProjection2 := do
  let scaled := ExactReal.mul idealSteps (RealFunctions.integer finiteDifferenceOneStep.toInt)
  let interval ← (RationalEnclosures.certifiedRationalInterval scaled
    (-precisionBits.toNat)).okOr .coefficientApproximationAborted
  let encoded ← roundEnclosure roundRationalTiesEven
    (.coefficientProjectionUnresolved precisionBits) interval
  pure
    { idealSteps
      scaledInterval := interval
      encodedQ31_32 := encoded
      maximumErrorSteps := maximumScaledError interval encoded / finiteDifferenceOneStep.toInt }

end Direct

/-! ## The servo lattices -/

namespace Servo

/-- The fraction bits of a signal: Q31.32 for positions, Q2.30 for feed-forward. -/
def fractionBits : ServoSignal → UInt32
  | .position => 32
  | .velocityFeedForward => 30
  | .quadratureCurrentFeedForward => 30

/-- The coefficient that a projection is for. -/
structure CoefficientSite where
  span : Nat
  axis : Nat
  signal : ServoSignal
  coefficient : Nat
  deriving DecidableEq, Repr

/-- The variants of `ServoMotionError` that a projection can end in. -/
inductive ProjectionError where
  | arithmetic (domain : String)
  | projectionAborted (site : CoefficientSite)
  | projectionUnresolved (site : CoefficientSite) (precisionBits : UInt16)
  deriving DecidableEq, Repr

structure ServoCoefficientProjection where
  ideal : ExactReal.Real
  scaledInterval : ℚ × ℚ
  encodedBits : Int64
  fractionalBits : UInt32
  maximumError : ℚ
  continuityForced : Bool

def roundRationalTiesEven : ℚ → Except ProjectionError Int64 :=
  roundTiesEven (.arithmetic "servo coefficient projection")
    (.arithmetic "servo coefficient projection floor")
    (.arithmetic "servo coefficient ties-even increment")

/-- `1_i64.checked_shl(fractional_bits)` -/
def latticeScale (fractionalBits : UInt32) : Option Int64 :=
  if fractionalBits < 64 then some (.ofInt (2 ^ fractionalBits.toNat)) else none

/-- A coefficient that continues the record before it is forced to the value that record ends in. -/
def projectCoefficient (ideal : ExactReal.Real) (fractionalBits : UInt32) (precisionBits : UInt16)
    (forced : Option Int64) (site : CoefficientSite) :
    Except ProjectionError ServoCoefficientProjection := do
  let scale ← (latticeScale fractionalBits).okOr (.arithmetic "servo lattice scale")
  let scaled := ExactReal.mul ideal (RealFunctions.integer scale.toInt)
  let interval ← (RationalEnclosures.certifiedRationalInterval scaled
    (-precisionBits.toNat)).okOr (.projectionAborted site)
  let encodedBits ← match forced with
    | some forced => pure forced
    | none =>
      roundEnclosure roundRationalTiesEven (.projectionUnresolved site precisionBits) interval
  pure
    { ideal
      scaledInterval := interval
      encodedBits
      fractionalBits
      maximumError := maximumScaledError interval encodedBits / scale.toInt
      continuityForced := forced.isSome }

end Servo

end Alumina.Motion
