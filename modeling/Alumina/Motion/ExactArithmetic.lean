import Alumina.Motion.SharedTimer

/-!
# Exact arithmetic

Planning and compilation use more of the exact reals than timer retiming does: rationals, roots and
rounding. `RealMeaning` says what an exact real stands for, and what each operation does to it: an
operation or a predicate that answers answers correctly, and any of them may refuse.
-/

namespace Alumina.Motion

/-- Operations on the exact reals beyond those of timer retiming. -/
class RealFunctions [ExactReal] where
  /-- `Rational::fraction` -/
  rationalFraction : Int64 → UInt64 → Except ExactReal.Problem ℚ
  /-- `Real::from(Rational)` -/
  ofRational : ℚ → ExactReal.Real
  /-- `Real::integer` -/
  integer : Int → ExactReal.Real
  neg : ExactReal.Real → ExactReal.Real
  abs : ExactReal.Real → ExactReal.Real
  sqrt : ExactReal.Real → Except ExactReal.Problem ExactReal.Real
  cbrt : ExactReal.Real → Except ExactReal.Problem ExactReal.Real
  roundCertified : ExactReal.Real → Except ExactReal.Problem Int

/-- The real numbers that exact reals stand for. -/
class RealMeaning [ExactReal] [RealFunctions] where
  value : ExactReal.Real → ℝ
  value_zero : value ExactReal.zero = 0
  value_ofU64 (n : UInt64) : value (ExactReal.ofU64 n) = n.toNat
  value_ofRational (q : ℚ) : value (RealFunctions.ofRational q) = q
  value_integer (n : Int) : value (RealFunctions.integer n) = n
  value_add (x y : ExactReal.Real) : value (ExactReal.add x y) = value x + value y
  value_sub (x y : ExactReal.Real) : value (ExactReal.sub x y) = value x - value y
  value_mul (x y : ExactReal.Real) : value (ExactReal.mul x y) = value x * value y
  value_neg (x : ExactReal.Real) : value (RealFunctions.neg x) = -value x
  value_abs (x : ExactReal.Real) : value (RealFunctions.abs x) = |value x|
  rationalFraction_ok {numerator : Int64} {denominator : UInt64} {q : ℚ} :
    RealFunctions.rationalFraction numerator denominator = .ok q →
      q = numerator.toInt / denominator.toNat
  div_ok {x y quotient : ExactReal.Real} :
    ExactReal.div x y = .ok quotient → value y ≠ 0 ∧ value quotient = value x / value y
  sqrt_ok {x root : ExactReal.Real} :
    RealFunctions.sqrt x = .ok root → 0 ≤ value x ∧ value root = √(value x)
  cbrt_ok {x root : ExactReal.Real} :
    RealFunctions.cbrt x = .ok root → value root ^ 3 = value x
  ceil_ok {x : ExactReal.Real} {n : Int} : ExactReal.ceilCertified x = .ok n → n = ⌈value x⌉
  round_ok {x : ExactReal.Real} {n : Int} :
    RealFunctions.roundCertified x = .ok n → |(n : ℝ) - value x| ≤ 1 / 2
  compare_some {x y : ExactReal.Real} {order : Ordering} :
    ExactReal.compareReals x y = some order → order.Compares (value x) (value y)
  sign_some {x : ExactReal.Real} {sign : SignType} :
    ExactReal.classifyRealSign x = some sign → sign = SignType.sign (value x)

export RealMeaning (value)

attribute [simp] RealMeaning.value_zero RealMeaning.value_ofU64 RealMeaning.value_ofRational
  RealMeaning.value_integer RealMeaning.value_add RealMeaning.value_sub RealMeaning.value_mul
  RealMeaning.value_neg RealMeaning.value_abs

/-! ## The plane of two axes -/

/-- The plane of the two axes. -/
abbrev Plane := EuclideanSpace ℝ (Fin 2)

def Axes.get {α : Type} (axes : Axes α) (axis : Fin 2) : α := ![axes.x, axes.y] axis

theorem norm_plane (point : Plane) : ‖point‖ = √(point 0 ^ 2 + point 1 ^ 2) := by
  simp [EuclideanSpace.norm_eq]

/-- The point with given coordinates. -/
noncomputable def Plane.of (coordinates : Fin 2 → ℝ) : Plane :=
  (EuclideanSpace.equiv (Fin 2) ℝ).symm coordinates

@[simp] theorem Plane.of_apply (coordinates : Fin 2 → ℝ) (axis : Fin 2) :
    Plane.of coordinates axis = coordinates axis := rfl

/-- A point whose coordinates are within bounds is within the combination of the bounds. -/
theorem norm_plane_le {point : Plane} {x y : ℝ} (hx : |point 0| ≤ x) (hy : |point 1| ≤ y) :
    ‖point‖ ≤ √(x ^ 2 + y ^ 2) := by
  rw [norm_plane, ← sq_abs (point 0), ← sq_abs (point 1)]
  gcongr

end Alumina.Motion
