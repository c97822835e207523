import Alumina.ForStd.CurveMotion
import Alumina.ForStd.List
import Alumina.Motion.RealLibrary

/-!
# Scalar limits protect every axis

A point that keeps the scalar limits along an element of the route keeps the limits of both axes.
Along a line every derivative points one way, and the projection or the lesser axis bounds each
component. Along an arc the curvature adds a centripetal acceleration and two terms to the jerk: the
tangential limit is one half and one third of the ceiling, and the feed ceilings of the arc leave
each other term its own share.

## Key results

- `foldlM_lowerFeed`: the feed is within the ceilings of every arc of the route
- `ArcFeed.acceleration_le`, `ArcFeed.jerk_le`: the shares add up to the ceilings
- `scalarLimits_protect`: every motion along every line and arc is within the limits of the axes
-/

namespace Alumina.Motion

open Alumina.Machine (StepperAxisMachineProfile minimumRational)

/-! ## Ceilings of an arc -/

/-- A feed within the three ceilings of an arc. -/
structure ArcFeed (tangential spatialAcceleration spatialJerk radius feed : ℝ) : Prop where
  acceleration : 0 ≤ tangential * radius ∧ feed ≤ √(tangential * radius)
  divisor : spatialAcceleration ≠ 0
  mixedJerk : feed ≤ 2 * spatialJerk * radius / (9 * spatialAcceleration)
  curvatureJerk : ∃ root : ℝ, root ^ 3 = spatialJerk * radius * radius / 3 ∧ feed ≤ root

namespace ArcFeed

variable {tangential spatialAcceleration spatialJerk radius feed v a j : ℝ}

theorem mono (h : ArcFeed tangential spatialAcceleration spatialJerk radius feed) {lower : ℝ}
    (hle : lower ≤ feed) : ArcFeed tangential spatialAcceleration spatialJerk radius lower where
  acceleration := ⟨h.acceleration.1, hle.trans h.acceleration.2⟩
  divisor := h.divisor
  mixedJerk := hle.trans h.mixedJerk
  curvatureJerk := by
    obtain ⟨root, hroot, hfeed⟩ := h.curvatureJerk
    exact ⟨root, hroot, hle.trans hfeed⟩

/-- The centripetal acceleration is within the tangential limit. -/
theorem centripetal_le (h : ArcFeed tangential spatialAcceleration spatialJerk radius feed)
    (hradius : 0 < radius) (hv : |v| ≤ feed) : radius⁻¹ * |v| ^ 2 ≤ tangential := by
  obtain ⟨hnonneg, hfeed⟩ := h.acceleration
  have hsq : |v| ^ 2 ≤ tangential * radius := by
    calc |v| ^ 2 ≤ √(tangential * radius) ^ 2 := by gcongr; exact hv.trans hfeed
      _ = tangential * radius := Real.sq_sqrt hnonneg
  rw [inv_mul_le_iff₀ hradius, mul_comm]
  exact hsq

/-- The mixed term of the jerk is within a third of the ceiling. -/
theorem mixed_le (h : ArcFeed tangential spatialAcceleration spatialJerk radius feed)
    (hradius : 0 < radius) (hv : |v| ≤ feed) (ha : |a| ≤ spatialAcceleration / 2) :
    3 * radius⁻¹ * |v| * |a| ≤ spatialJerk / 3 := by
  have hdivisor := h.divisor
  have hmixed : |v| ≤ 2 * spatialJerk * radius / (9 * spatialAcceleration) := hv.trans h.mixedJerk
  have hproduct : |v| * |a| ≤
      2 * spatialJerk * radius / (9 * spatialAcceleration) * (spatialAcceleration / 2) :=
    mul_le_mul hmixed ha (abs_nonneg a) ((abs_nonneg v).trans hmixed)
  calc 3 * radius⁻¹ * |v| * |a| = 3 * radius⁻¹ * (|v| * |a|) := by ring
    _ ≤ 3 * radius⁻¹ *
        (2 * spatialJerk * radius / (9 * spatialAcceleration) * (spatialAcceleration / 2)) := by
      gcongr
    _ = spatialJerk / 3 := by
      field_simp
      ring

/-- The curvature term of the jerk is within a third of the ceiling. -/
theorem curvature_le (h : ArcFeed tangential spatialAcceleration spatialJerk radius feed)
    (hradius : 0 < radius) (hv : |v| ≤ feed) : radius⁻¹ ^ 2 * |v| ^ 3 ≤ spatialJerk / 3 := by
  obtain ⟨root, hroot, hfeed⟩ := h.curvatureJerk
  calc radius⁻¹ ^ 2 * |v| ^ 3 ≤ radius⁻¹ ^ 2 * root ^ 3 := by
        gcongr
        exact hv.trans hfeed
    _ = spatialJerk / 3 := by
        rw [hroot]
        field_simp

/-- The tangential and the centripetal share add up to the ceiling of the acceleration. -/
theorem acceleration_le
    (h : ArcFeed (spatialAcceleration / 2) spatialAcceleration spatialJerk radius feed)
    (hradius : 0 < radius) (hv : |v| ≤ feed) (ha : |a| ≤ spatialAcceleration / 2) :
    |a| + |radius⁻¹| * |v| ^ 2 ≤ spatialAcceleration := by
  have hcentripetal := h.centripetal_le hradius hv
  rw [abs_of_pos (inv_pos.mpr hradius)]
  linarith

/-- The three shares add up to the ceiling of the jerk. -/
theorem jerk_le (h : ArcFeed tangential spatialAcceleration spatialJerk radius feed)
    (hradius : 0 < radius) (hv : |v| ≤ feed) (ha : |a| ≤ spatialAcceleration / 2)
    (hj : |j| ≤ spatialJerk / 3) :
    |j| + |radius⁻¹| ^ 2 * |v| ^ 3 + 3 * |radius⁻¹| * |v| * |a| ≤ spatialJerk := by
  have hmixed := h.mixed_le hradius hv ha
  have hcurvature := h.curvature_le hradius hv
  rw [abs_of_pos (inv_pos.mpr hradius)]
  linarith

end ArcFeed

section Protection

variable [ExactReal] [RealFunctions] [RealMeaning] [FeedPaths]

/-! ## Meanings -/

/-- The direction of an axis. -/
noncomputable def axisDirection (axis : Fin 2) : Plane := EuclideanSpace.single axis 1

def AxisMotionLimits.meaning (limits : AxisMotionLimits ExactReal.Real) : AxisMotionLimits ℝ :=
  ⟨value limits.maximumVelocity, value limits.maximumAcceleration, value limits.maximumJerk⟩

def PlannedAxisProjectedMotionLimits.meaning
    (limits : PlannedAxisProjectedMotionLimits ExactReal.Real) : AxisMotionLimits ℝ :=
  ⟨value limits.maximumPathFeed, value limits.maximumPathAcceleration, value limits.maximumPathJerk⟩

/-- The effective limits of one axis, in millimetres. -/
noncomputable def axisCeilings (axis : StepperAxisMachineProfile) : AxisMotionLimits ℝ :=
  ⟨axis.effectiveVelocityLimitMetresPerSecond * (1000 : Nat),
    axis.effectiveAccelerationLimitMetresPerSecondSquared * (1000 : Nat),
    axis.effectiveJerkLimitMetresPerSecondCubed * (1000 : Nat)⟩

/-- A share of the ceilings along the path is within those of an axis. -/
structure Covers (share : ℝ) (path axis : AxisMotionLimits ℝ) : Prop where
  velocity : share * path.maximumVelocity ≤ axis.maximumVelocity
  acceleration : share * path.maximumAcceleration ≤ axis.maximumAcceleration
  jerk : share * path.maximumJerk ≤ axis.maximumJerk

/-- What the feed paths and their projection guarantee. -/
class LawfulFeedPaths : Prop where
  euclideanLength {line : FeedPaths.Line} {length : ExactReal.Real} :
    FeedPaths.euclideanLength line = .ok length →
      value length = √(value (FeedPaths.directionVector line).x ^ 2 +
        value (FeedPaths.directionVector line).y ^ 2)
  radius_pos (arc : FeedPaths.Arc) : 0 < value (FeedPaths.radius arc)
  projection {derivatives : List (Axes ExactReal.Real)}
      {axisLimits : Axes (AxisMotionLimits ExactReal.Real)}
      {planned : PlannedAxisProjectedMotionLimits ExactReal.Real} :
    FeedPaths.planAxisProjectedMotionLimits derivatives axisLimits = .ok planned →
      ∀ span ∈ derivatives, ∀ axis, Covers (value (span.get axis)) planned.meaning
        (axisLimits.get axis).meaning

/-- The direction vector of a line. -/
noncomputable def lineVector (line : FeedPaths.Line) : Plane :=
  Plane.of ![value (FeedPaths.directionVector line).x, value (FeedPaths.directionVector line).y]

noncomputable def lineDirection (line : FeedPaths.Line) : Plane :=
  ‖lineVector line‖⁻¹ • lineVector line

/-- The curves that an element may follow, by arc length: any line of its direction, and any circle
of its radius, run through either way. -/
inductive Traces : FeedPathElement → (ℝ → Plane) → Prop
  | line (line : FeedPaths.Line) (origin : Plane) :
    Traces (.line line) fun s => origin + s • lineDirection line
  | arc (arc : FeedPaths.Arc) (centre : Plane) (phase : ℝ) {orientation : ℝ}
    (horientation : orientation = 1 ∨ orientation = -1) :
    Traces (.explicitArc arc) (circle centre (axisDirection 0) (axisDirection 1)
      (value (FeedPaths.radius arc)) phase orientation)

/-- A scalar motion keeps the limits at an instant. -/
structure ScalarMotionLimits2.Admits (limits : ScalarMotionLimits2) {instants : Set ℝ}
    (progress : Trajectory instants ℝ) (t : ℝ) : Prop where
  speed : |progress.velocity t| ≤ value limits.maximumFeedMmPerSecond
  acceleration : |progress.acceleration t| ≤ value limits.maximumAccelerationMmPerSecondSquared
  jerk : |progress.jerk t| ≤ value limits.maximumJerkMmPerSecondCubed

/-- One component of a motion is within the limits of its axis. -/
structure WithinAxis (ceilings : AxisMotionLimits ℝ) (velocity acceleration jerk : ℝ) : Prop where
  velocity : |velocity| ≤ ceilings.maximumVelocity
  acceleration : |acceleration| ≤ ceilings.maximumAcceleration
  jerk : |jerk| ≤ ceilings.maximumJerk

/-! ## The arithmetic of the limits -/

theorem minimumReal_eq_ok {left right least : ExactReal.Real}
    (h : minimumReal left right = .ok least) :
    value least ≤ value left ∧ value least ≤ value right := by
  unfold minimumReal at h
  split at h
  · next hless =>
    cases h
    exact ⟨le_refl _, (RealMeaning.compare_some hless).le⟩
  · next hequal =>
    cases h
    exact ⟨le_refl _, (RealMeaning.compare_some hequal).le⟩
  · next hgreater =>
    cases h
    exact ⟨(RealMeaning.compare_some hgreater).le, le_refl _⟩
  · cases h

theorem absoluteReal_eq_ok {x magnitude : ExactReal.Real} {domain : String}
    (h : absoluteReal x domain = .ok magnitude) : value magnitude = |value x| := by
  unfold absoluteReal at h
  split at h
  · next hsign =>
    cases h
    have hneg : value x < 0 := sign_eq_neg_one_iff.mp (RealMeaning.sign_some hsign).symm
    rw [RealMeaning.value_neg, abs_of_neg hneg]
  · next hsign =>
    cases h
    have hzero : value x = 0 := sign_eq_zero_iff.mp (RealMeaning.sign_some hsign).symm
    rw [hzero, abs_zero]
  · next hsign =>
    cases h
    have hpos : 0 < value x := sign_eq_one_iff.mp (RealMeaning.sign_some hsign).symm
    rw [abs_of_pos hpos]
  · cases h

theorem divideReal_eq_ok {x y quotient : ExactReal.Real} (h : divideReal x y = .ok quotient) :
    value y ≠ 0 ∧ value quotient = value x / value y :=
  RealMeaning.div_ok (Except.mapError_eq_ok.mp h)

/-! ## The loop over the route -/

variable {tangential spatialAcceleration spatialJerk : ExactReal.Real}

/-- The ceilings that an element puts on the feed. -/
def ElementFeed (tangential spatialAcceleration spatialJerk : ExactReal.Real)
    (element : FeedPathElement) (feed : ℝ) : Prop :=
  ∀ arc, element = .explicitArc arc → ArcFeed (value tangential) (value spatialAcceleration)
    (value spatialJerk) (value (FeedPaths.radius arc)) feed

theorem lowerFeed_eq_ok {element : FeedPathElement} {feed next : ExactReal.Real}
    (h : lowerFeed tangential spatialAcceleration spatialJerk feed element = .ok next) :
    value next ≤ value feed ∧
      ElementFeed tangential spatialAcceleration spatialJerk element (value next) := by
  cases element with
  | explicitArc arc =>
    simp only [lowerFeed, Except.bind_eq_ok, Except.mapError_eq_ok] at h
    obtain ⟨accelerationFeed, hacceleration, mixedJerkFeed, hmixed, cube, hcube, root, hroot,
      jerkFeed, hjerk, curveFeed, hcurve, hnext⟩ := h
    obtain ⟨hfeed, hle⟩ := minimumReal_eq_ok hnext
    obtain ⟨hlea, hlej⟩ := minimumReal_eq_ok hcurve
    obtain ⟨hlem, hler⟩ := minimumReal_eq_ok hjerk
    obtain ⟨hnonneg, hsqrt⟩ := RealMeaning.sqrt_ok hacceleration
    obtain ⟨hdivisor, hquotient⟩ := divideReal_eq_ok hmixed
    obtain ⟨-, hcubeValue⟩ := divideReal_eq_ok hcube
    have hpower := RealMeaning.cbrt_ok hroot
    refine ⟨hfeed, fun other hother => ?_⟩
    cases hother
    simp only [RealMeaning.value_mul, RealMeaning.value_ofU64, UInt64.reduceToNat,
      Nat.cast_ofNat] at hnonneg hsqrt hdivisor hquotient hcubeValue
    exact
      { acceleration := ⟨hnonneg, by rw [← hsqrt]; exact hle.trans hlea⟩
        divisor := right_ne_zero_of_mul hdivisor
        mixedJerk := by rw [← hquotient]; exact (hle.trans hlej).trans hlem
        curvatureJerk := ⟨value root, by rw [hpower, hcubeValue], (hle.trans hlej).trans hler⟩ }
  | line | cubicPh | quinticPh =>
    cases h
    exact ⟨le_refl _, fun arc harc => by cases harc⟩

/-- The feed never rises, and ends within the ceilings of every element. -/
theorem foldlM_lowerFeed {route : List FeedPathElement} {feed result : ExactReal.Real}
    (h : route.foldlM (lowerFeed tangential spatialAcceleration spatialJerk) feed = .ok result) :
    value result ≤ value feed ∧ ∀ element ∈ route,
      ElementFeed tangential spatialAcceleration spatialJerk element (value result) := by
  induction route generalizing feed with
  | nil =>
    cases h
    exact ⟨le_refl _, by simp⟩
  | cons element route ih =>
    rw [List.foldlM_cons, Except.bind_eq_ok] at h
    obtain ⟨next, hnext, hrest⟩ := h
    obtain ⟨hle, hceilings⟩ := lowerFeed_eq_ok hnext
    obtain ⟨hresult, hall⟩ := ih hrest
    refine ⟨hresult.trans hle, List.forall_mem_cons.mpr ⟨fun arc harc => ?_, hall⟩⟩
    exact (hceilings arc harc).mono hresult

/-! ## Ceilings of the axes -/

omit [FeedPaths] in
theorem axisMotionLimits_meaning (axis : StepperAxisMachineProfile) :
    (axisMotionLimits axis).meaning = axisCeilings axis := by
  simp [AxisMotionLimits.meaning, axisMotionLimits, axisCeilings]

omit [ExactReal] [RealFunctions] [RealMeaning] [FeedPaths] in
/-- The lesser of two rational limits, in millimetres, is within both. -/
private theorem minimumRational_le (left right : ℚ) :
    ((minimumRational left right * 1000 : ℚ) : ℝ) ≤ left * 1000 ∧
      ((minimumRational left right * 1000 : ℚ) : ℝ) ≤ right * 1000 := by
  have hleft : minimumRational left right * 1000 ≤ left * 1000 := by
    unfold minimumRational
    split <;> linarith
  have hright : minimumRational left right * 1000 ≤ right * 1000 := by
    unfold minimumRational
    split <;> linarith
  exact_mod_cast And.intro hleft hright

omit [FeedPaths] in
/-- Without a projection the ceilings are within those of both axes. -/
theorem spatialLimits_none (axes : Axes StepperAxisMachineProfile) (axis : Fin 2) :
    Covers 1 (spatialLimits axes none).meaning (axisCeilings (axes.get axis)) := by
  have hvelocity := minimumRational_le axes.x.effectiveVelocityLimitMetresPerSecond
    axes.y.effectiveVelocityLimitMetresPerSecond
  have hacceleration := minimumRational_le axes.x.effectiveAccelerationLimitMetresPerSecondSquared
    axes.y.effectiveAccelerationLimitMetresPerSecondSquared
  have hjerk := minimumRational_le axes.x.effectiveJerkLimitMetresPerSecondCubed
    axes.y.effectiveJerkLimitMetresPerSecondCubed
  constructor <;>
    simp only [AxisMotionLimits.meaning, spatialLimits, RealMeaning.value_ofRational, one_mul] <;>
    fin_cases axis
  · exact hvelocity.1
  · exact hvelocity.2
  · exact hacceleration.1
  · exact hacceleration.2
  · exact hjerk.1
  · exact hjerk.2

variable {axes : Axes StepperAxisMachineProfile} {route : List FeedPathElement}
  {limits : ScalarMotionLimits2}

omit [RealMeaning] in
/-- What a successful derivation did. -/
theorem fromMachine_eq_ok (h : ScalarMotionLimits2.fromMachine axes route = .ok limits) :
    let spatial := spatialLimits axes limits.affineAxisProjection
    affineLineAxisProjection route ⟨axisMotionLimits axes.x, axisMotionLimits axes.y⟩ =
        .ok limits.affineAxisProjection ∧
      tangentialShare (route.any FeedPathElement.isArc) spatial.maximumAcceleration 2 =
        .ok limits.maximumAccelerationMmPerSecondSquared ∧
      tangentialShare (route.any FeedPathElement.isArc) spatial.maximumJerk 3 =
        .ok limits.maximumJerkMmPerSecondCubed ∧
      route.foldlM (lowerFeed limits.maximumAccelerationMmPerSecondSquared
        spatial.maximumAcceleration spatial.maximumJerk) spatial.maximumVelocity =
        .ok limits.maximumFeedMmPerSecond ∧
      limits.maximumSpatialAccelerationMmPerSecondSquared = spatial.maximumAcceleration := by
  simp only [ScalarMotionLimits2.fromMachine, Except.bind_eq_ok, Except.pure_eq_ok] at h
  obtain ⟨projection, hprojection, acceleration, hacceleration, jerk, hjerk, feed, hfeed, rfl⟩ := h
  exact ⟨hprojection, hacceleration, hjerk, hfeed, rfl⟩

/-- With an arc in the route, a limit is its share of the ceiling. -/
theorem tangentialShare_true {spatial share : ExactReal.Real} {shares : UInt64}
    (h : tangentialShare true spatial shares = .ok share) :
    value share = value spatial / shares.toNat := by
  have hquotient := (divideReal_eq_ok h).2
  rwa [RealMeaning.value_ofU64] at hquotient

/-- A magnitude within a limit is within its ceiling. -/
theorem tangentialShare_le {hasArc : Bool} {spatial share : ExactReal.Real} {shares : UInt64}
    (hshares : 1 ≤ shares.toNat) (h : tangentialShare hasArc spatial shares = .ok share) {x : ℝ}
    (hx : |x| ≤ value share) : |x| ≤ value spatial := by
  cases hasArc with
  | false =>
    cases h
    exact hx
  | true =>
    rw [tangentialShare_true h] at hx
    have hone : (1 : ℝ) ≤ shares.toNat := by exact_mod_cast hshares
    have hnonneg : 0 ≤ value spatial / shares.toNat := (abs_nonneg x).trans hx
    have hspatial : 0 ≤ value spatial := by
      by_contra hneg
      have := div_neg_of_neg_of_pos (not_le.mp hneg) (zero_lt_one.trans_le hone)
      linarith
    exact hx.trans (div_le_self hspatial hone)

/-! ## Lines -/

theorem norm_lineVector (line : FeedPaths.Line) :
    ‖lineVector line‖ = √(value (FeedPaths.directionVector line).x ^ 2 +
      value (FeedPaths.directionVector line).y ^ 2) := by
  simp [EuclideanSpace.norm_eq, lineVector]

theorem norm_lineDirection_le (line : FeedPaths.Line) : ‖lineDirection line‖ ≤ 1 := by
  rw [lineDirection, norm_smul, norm_inv, norm_norm]
  exact inv_mul_le_one

/-- The projection of a line takes the absolute components of its direction. -/
theorem spanAxisProjection_eq_ok [LawfulFeedPaths] {line : FeedPaths.Line}
    {span : Axes ExactReal.Real} (h : spanAxisProjection (.line line) = .ok span) (axis : Fin 2) :
    value (span.get axis) = |lineDirection line axis| := by
  simp only [spanAxisProjection, Except.bind_eq_ok, Except.mapError_eq_ok, Except.pure_eq_ok] at h
  obtain ⟨length, hlength, absoluteX, hx, absoluteY, hy, x, hdivx, y, hdivy, rfl⟩ := h
  have hnorm : value length = ‖lineVector line‖ := by
    rw [norm_lineVector, LawfulFeedPaths.euclideanLength hlength]
  have hxvalue : value x = |value (FeedPaths.directionVector line).x| / ‖lineVector line‖ := by
    rw [(divideReal_eq_ok hdivx).2, absoluteReal_eq_ok hx, hnorm]
  have hyvalue : value y = |value (FeedPaths.directionVector line).y| / ‖lineVector line‖ := by
    rw [(divideReal_eq_ok hdivy).2, absoluteReal_eq_ok hy, hnorm]
  have hscale : ∀ component : ℝ, |component| / ‖lineVector line‖ =
      |‖lineVector line‖⁻¹ * component| := fun component => by
    rw [abs_mul, abs_inv, abs_norm, inv_mul_eq_div]
  fin_cases axis
  · show value x = |‖lineVector line‖⁻¹ * value (FeedPaths.directionVector line).x|
    rw [hxvalue, hscale]
  · show value y = |‖lineVector line‖⁻¹ * value (FeedPaths.directionVector line).y|
    rw [hyvalue, hscale]

/-- The ceilings along a line, in an axis: the projection covers the component of the direction,
and without a projection the whole ceiling is covered. -/
theorem line_covers [LawfulFeedPaths]
    (h : ScalarMotionLimits2.fromMachine axes route = .ok limits) {line : FeedPaths.Line}
    (hline : .line line ∈ route) (axis : Fin 2) :
    let spatial := (spatialLimits axes limits.affineAxisProjection).meaning
    Covers |lineDirection line axis| spatial (axisCeilings (axes.get axis)) ∨
      Covers 1 spatial (axisCeilings (axes.get axis)) := by
  obtain ⟨hprojection, -⟩ := fromMachine_eq_ok h
  cases hplanned : limits.affineAxisProjection with
  | none => exact .inr (spatialLimits_none axes axis)
  | some planned =>
    left
    rw [hplanned, affineLineAxisProjection] at hprojection
    split at hprojection
    · simp only [Except.bind_eq_ok, Except.mapError_eq_ok, Except.pure_eq_ok,
        Option.some.injEq] at hprojection
      obtain ⟨projections, hspans, result, hplan, rfl⟩ := hprojection
      obtain ⟨span, hspan, hvalue⟩ := (Except.mapM_eq_ok hspans).exists_of_mem_left hline
      have hcovers := LawfulFeedPaths.projection hplan span hspan axis
      rw [spanAxisProjection_eq_ok hvalue axis] at hcovers
      have hceilings : (Axes.get (⟨axisMotionLimits axes.x, axisMotionLimits axes.y⟩ :
          Axes (AxisMotionLimits ExactReal.Real)) axis).meaning =
          axisCeilings (axes.get axis) := by
        fin_cases axis
        · exact axisMotionLimits_meaning axes.x
        · exact axisMotionLimits_meaning axes.y
      rw [hceilings] at hcovers
      exact hcovers
    · cases hprojection

omit [ExactReal] [RealFunctions] [RealMeaning] [FeedPaths] in
/-- One component of a derivative along a line. -/
private theorem component_le {x direction ceiling limit : ℝ} (hx : |x| ≤ ceiling)
    (hdirection : |direction| ≤ 1) (h : |direction| * ceiling ≤ limit ∨ 1 * ceiling ≤ limit) :
    |x * direction| ≤ limit := by
  rw [abs_mul]
  obtain h | h := h
  · calc |x| * |direction| ≤ ceiling * |direction| := by gcongr
      _ ≤ limit := by rwa [mul_comm]
  · calc |x| * |direction| ≤ |x| := mul_le_of_le_one_right (abs_nonneg x) hdirection
      _ ≤ limit := by linarith

/-! ## Motions -/

variable {instants : Set ℝ} {progress : Trajectory instants ℝ} {t : ℝ}

/-- The scalar motion keeps the spatial ceilings. -/
theorem Admits.within_spatial (h : ScalarMotionLimits2.fromMachine axes route = .ok limits)
    (hadmits : limits.Admits progress t) :
    WithinAxis (spatialLimits axes limits.affineAxisProjection).meaning (progress.velocity t)
      (progress.acceleration t) (progress.jerk t) := by
  obtain ⟨-, hacceleration, hjerk, hfeed, -⟩ := fromMachine_eq_ok h
  exact
    { velocity := hadmits.speed.trans (foldlM_lowerFeed hfeed).1
      acceleration := tangentialShare_le (by decide) hacceleration hadmits.acceleration
      jerk := tangentialShare_le (by decide) hjerk hadmits.jerk }

/-- A motion along a line of the route is within the limits. -/
theorem line_protected [LawfulFeedPaths]
    (h : ScalarMotionLimits2.fromMachine axes route = .ok limits) {line : FeedPaths.Line}
    (hline : .line line ∈ route) (hadmits : limits.Admits progress t) (origin : Plane) :
    let motion := (lineFrame origin (lineDirection line) (norm_lineDirection_le line)).along progress
    (∀ axis, WithinAxis (axisCeilings (axes.get axis)) (motion.velocity t axis)
        (motion.acceleration t axis) (motion.jerk t axis)) ∧
      ‖motion.acceleration t‖ ≤ value limits.maximumSpatialAccelerationMmPerSecondSquared := by
  have hspatial := Admits.within_spatial h hadmits
  have hdirection : ∀ axis, |lineDirection line axis| ≤ 1 := fun axis =>
    (PiLp.norm_apply_le (lineDirection line) axis).trans (norm_lineDirection_le line)
  intro motion
  constructor
  · intro axis
    have hcovers := line_covers h hline axis
    have hvelocity : motion.velocity t axis = progress.velocity t * lineDirection line axis := rfl
    have hacceleration : motion.acceleration t axis =
        progress.acceleration t * lineDirection line axis := by
      simp [motion, Frame.along, lineFrame]
    have hjerk : motion.jerk t axis = progress.jerk t * lineDirection line axis := by
      simp [motion, Frame.along, lineFrame]
    rw [hvelocity, hacceleration, hjerk]
    exact
      { velocity := component_le hspatial.velocity (hdirection axis)
          (hcovers.imp Covers.velocity Covers.velocity)
        acceleration := component_le hspatial.acceleration (hdirection axis)
          (hcovers.imp Covers.acceleration Covers.acceleration)
        jerk := component_le hspatial.jerk (hdirection axis)
          (hcovers.imp Covers.jerk Covers.jerk) }
  · have hnorm := (lineFrame origin (lineDirection line)
      (norm_lineDirection_le line)).norm_acceleration_le progress t
    rw [abs_zero, zero_mul, add_zero] at hnorm
    rw [(fromMachine_eq_ok h).2.2.2.2]
    exact hnorm.trans hspatial.acceleration

omit [RealMeaning] in
/-- A route with an arc has no projection. -/
theorem affineAxisProjection_of_arc
    (h : ScalarMotionLimits2.fromMachine axes route = .ok limits) {arc : FeedPaths.Arc}
    (harc : .explicitArc arc ∈ route) : limits.affineAxisProjection = none := by
  obtain ⟨hprojection, -⟩ := fromMachine_eq_ok h
  have hall : ¬ route.all FeedPathElement.isLine = true := fun hall => by
    have hline := List.all_eq_true.mp hall _ harc
    cases hline
  rw [affineLineAxisProjection, if_neg hall] at hprojection
  exact (Except.ok.inj hprojection).symm

/-- A motion along an arc of the route is within the limits. -/
theorem arc_protected [LawfulFeedPaths]
    (h : ScalarMotionLimits2.fromMachine axes route = .ok limits) {arc : FeedPaths.Arc}
    (harc : .explicitArc arc ∈ route) (hadmits : limits.Admits progress t)
    {curve : ℝ → Plane} (frame : Frame (value (FeedPaths.radius arc))⁻¹ curve) :
    (∀ axis, WithinAxis (axisCeilings (axes.get axis)) ((frame.along progress).velocity t axis)
        ((frame.along progress).acceleration t axis) ((frame.along progress).jerk t axis)) ∧
      ‖(frame.along progress).acceleration t‖ ≤
        value limits.maximumSpatialAccelerationMmPerSecondSquared := by
  have hradius := LawfulFeedPaths.radius_pos arc
  have hspatial := Admits.within_spatial h hadmits
  obtain ⟨-, hacceleration, hjerk, hfeed, hmaximum⟩ := fromMachine_eq_ok h
  have hany : route.any FeedPathElement.isArc = true := List.any_eq_true.mpr ⟨_, harc, rfl⟩
  have hnone := affineAxisProjection_of_arc h harc
  rw [hnone] at hacceleration hjerk hfeed hmaximum hspatial
  rw [hany] at hacceleration hjerk
  have hceilings := (foldlM_lowerFeed hfeed).2 _ harc arc rfl
  have htangential := tangentialShare_true hacceleration
  have hthird := tangentialShare_true hjerk
  have hv := hadmits.speed
  have ha := hadmits.acceleration
  have hj := hadmits.jerk
  simp only [UInt64.reduceToNat, Nat.cast_ofNat] at htangential hthird
  rw [htangential] at hceilings ha
  rw [hthird] at hj
  have hvelocityNorm := (frame.norm_velocity_le progress t).trans hspatial.velocity
  have haccelerationNorm := (frame.norm_acceleration_le progress t).trans
    (hceilings.acceleration_le hradius hv ha)
  have hjerkNorm := (frame.norm_jerk_le progress t).trans (hceilings.jerk_le hradius hv ha hj)
  constructor
  · intro axis
    have hcovers := spatialLimits_none axes axis
    have hcomponent : ∀ (x : Plane) {ceiling limit : ℝ}, ‖x‖ ≤ ceiling → 1 * ceiling ≤ limit →
        |x axis| ≤ limit := fun x _ _ hx hlimit =>
      (PiLp.norm_apply_le x axis).trans (hx.trans (by linarith))
    exact
      { velocity := hcomponent _ hvelocityNorm hcovers.velocity
        acceleration := hcomponent _ haccelerationNorm hcovers.acceleration
        jerk := hcomponent _ hjerkNorm hcovers.jerk }
  · rw [hmaximum]
    exact haccelerationNorm

omit [ExactReal] [RealFunctions] [RealMeaning] [FeedPaths] in
theorem norm_axisDirection (axis : Fin 2) : ‖axisDirection axis‖ = 1 := by
  simp [axisDirection]

omit [ExactReal] [RealFunctions] [RealMeaning] [FeedPaths] in
theorem inner_axisDirection : inner ℝ (axisDirection 0) (axisDirection 1) = 0 := by
  rw [axisDirection, EuclideanSpace.inner_single_left]
  simp [axisDirection]

/-- A motion along a line or an arc of the route that keeps the scalar limits keeps the limits of
every axis, and the spatial ceiling of the acceleration. -/
theorem scalarLimits_protect [LawfulFeedPaths]
    (h : ScalarMotionLimits2.fromMachine axes route = .ok limits) {element : FeedPathElement}
    (helement : element ∈ route) {curve : ℝ → Plane} (hcurve : Traces element curve)
    (hinstants : UniqueDiffOn ℝ instants) (motion : Trajectory instants Plane)
    (halong : ∀ t ∈ instants, motion.position t = curve (progress.position t))
    (hadmits : ∀ t ∈ instants, limits.Admits progress t) :
    ∀ t ∈ instants,
      (∀ axis, WithinAxis (axisCeilings (axes.get axis)) (motion.velocity t axis)
        (motion.acceleration t axis) (motion.jerk t axis)) ∧
      ‖motion.acceleration t‖ ≤ value limits.maximumSpatialAccelerationMmPerSecondSquared := by
  intro t ht
  cases hcurve with
  | line line origin =>
    obtain ⟨hvelocity, hacceleration, hjerk⟩ := (lineFrame origin (lineDirection line)
      (norm_lineDirection_le line)).along_unique progress hinstants halong ht
    rw [hvelocity, hacceleration, hjerk]
    exact line_protected h helement (hadmits t ht) origin
  | @arc arc centre phase orientation horientation =>
    have hsq : orientation ^ 2 = 1 := sq_eq_one_iff.mpr horientation
    have frame := circleFrame centre (norm_axisDirection 0) (norm_axisDirection 1)
      inner_axisDirection (LawfulFeedPaths.radius_pos arc) hsq phase
    obtain ⟨hvelocity, hacceleration, hjerk⟩ :=
      frame.along_unique progress hinstants halong ht
    rw [hvelocity, hacceleration, hjerk]
    exact arc_protected h helement (hadmits t ht) frame

end Protection

/-! ## A route with a line and an arc -/

open HostLibrary

private scoped instance lawfulFeedPaths : LawfulFeedPaths where
  euclideanLength {line length} h := by
    obtain ⟨-, hroot, hsq⟩ := rationalRoot_eq_ok h
    show ((length : ℚ) : ℝ) = √(((line.x : ℚ) : ℝ) ^ 2 + ((line.y : ℚ) : ℝ) ^ 2)
    rw [← Rat.cast_pow, ← Rat.cast_pow, ← Rat.cast_add, ← hsq, Rat.cast_pow,
      Real.sqrt_sq (Rat.cast_nonneg.mpr hroot)]
  radius_pos arc := Rat.cast_pos.mpr arc.radius_pos
  projection h := by cases h

def exactly (x : ℚ) : Machine.ExactInterval := ⟨x, x, x⟩

/-- An axis of one metre per second, with 8 mm/s² and 24 mm/s³. -/
def slowAxis : StepperAxisMachineProfile where
  instance' := 0
  step := ⟨1, 1, 1000⟩
  direction := ⟨1, 1, 1000⟩
  driverControl := ⟨1, 1, 1000⟩
  driverControlAction := .enable
  fullStepsPerTurn := exactly 200
  microsteps := exactly 1
  motorTurnsPerOutputTurn := exactly 1
  travelMetresPerOutputTurn := exactly 1
  calibrationScale := exactly 1
  commandDensityStepsPerMetre := exactly 200
  commandDensityStepsPerMillimetre := exactly (1 / 5)
  positionMinimumMetres := exactly 0
  positionMaximumMetres := exactly 1
  usablePositionMinimumMetres := 0
  usablePositionMaximumMetres := 1
  configuredVelocityLimitMetresPerSecond := exactly 1
  effectiveStepFrequencyHz := 1000
  stepRateVelocityLimitMetresPerSecond := 5
  effectiveVelocityLimitMetresPerSecond := 1
  accelerationLimitMetresPerSecondSquared := exactly (1 / 125)
  effectiveAccelerationLimitMetresPerSecondSquared := 1 / 125
  jerkLimitMetresPerSecondCubed := exactly (3 / 125)
  effectiveJerkLimitMetresPerSecondCubed := 3 / 125
  followingErrorMetres := exactly 0
  maximumFollowingErrorMetres := 0

def unitArc : Arc := ⟨1, by decide⟩

def mixedRoute : List FeedPathElement := [.line (⟨3, 4⟩ : Axes ℚ), .explicitArc unitArc]

/-- Half a millimetre per second. -/
noncomputable def steadyProgress : Trajectory (Set.Icc 0 1) ℝ where
  position t := t / (2 : Nat)
  velocity _ := 1 / (2 : Nat)
  acceleration _ := 0
  jerk _ := 0
  hasVelocity t _ := ((hasDerivAt_id t).div_const _).hasDerivWithinAt
  hasAcceleration t _ := (hasDerivAt_const t _).hasDerivWithinAt
  hasJerk t _ := (hasDerivAt_const t _).hasDerivWithinAt

/-- The limits of the route: 2/3 of a millimetre per second, 4 mm/s², 8 mm/s³. -/
def isUnitArcLimits (limits : ScalarMotionLimits2) : Bool :=
  isRational limits.maximumFeedMmPerSecond (2 / 3) &&
    isRational limits.maximumAccelerationMmPerSecondSquared 4 &&
    isRational limits.maximumJerkMmPerSecondCubed 8

theorem fromMachine_mixedRoute : ∃ limits,
    ScalarMotionLimits2.fromMachine ⟨slowAxis, slowAxis⟩ mixedRoute = .ok limits ∧
      isUnitArcLimits limits = true := by
  have h : (ScalarMotionLimits2.fromMachine ⟨slowAxis, slowAxis⟩ mixedRoute).toOption.any
      isUnitArcLimits = true := by
    decide +kernel
  obtain ⟨limits, hlimits, hvalues⟩ := (Option.any_eq_true _ _).mp h
  exact ⟨limits, Except.toOption_eq_some.mp hlimits, hvalues⟩

theorem admits_steadyProgress {limits : ScalarMotionLimits2} (h : isUnitArcLimits limits = true)
    (t : ℝ) : limits.Admits steadyProgress t := by
  simp only [isUnitArcLimits, Bool.and_eq_true] at h
  obtain ⟨⟨hfeed, hacceleration⟩, hjerk⟩ := h
  constructor
  · rw [value_of_isRational hfeed]
    show |(1 / 2 : ℝ)| ≤ _
    norm_num
  · rw [value_of_isRational hacceleration]
    show |(0 : ℝ)| ≤ _
    norm_num
  · rw [value_of_isRational hjerk]
    show |(0 : ℝ)| ≤ _
    norm_num

/-- The frame of the arc about the origin. -/
noncomputable def unitArcFrame : Frame (value (FeedPaths.radius unitArc))⁻¹
    (circle 0 (axisDirection 0) (axisDirection 1) (value (FeedPaths.radius unitArc)) 0 1) :=
  circleFrame 0 (norm_axisDirection ⟨0, Nat.two_pos⟩) (norm_axisDirection ⟨1, Nat.one_lt_two⟩)
    inner_axisDirection (LawfulFeedPaths.radius_pos unitArc) (one_pow 2) 0

theorem scalarLimits_protect_unitArc : ∃ limits,
    ScalarMotionLimits2.fromMachine ⟨slowAxis, slowAxis⟩ mixedRoute = .ok limits ∧
      ∀ t ∈ Set.Icc (0 : ℝ) 1,
        (∀ axis, WithinAxis (axisCeilings (Axes.get ⟨slowAxis, slowAxis⟩ axis))
          ((unitArcFrame.along steadyProgress).velocity t axis)
          ((unitArcFrame.along steadyProgress).acceleration t axis)
          ((unitArcFrame.along steadyProgress).jerk t axis)) ∧
        ‖(unitArcFrame.along steadyProgress).acceleration t‖ ≤
          value limits.maximumSpatialAccelerationMmPerSecondSquared := by
  obtain ⟨limits, h, hvalues⟩ := fromMachine_mixedRoute
  have helement : .explicitArc unitArc ∈ mixedRoute := by simp [mixedRoute]
  exact ⟨limits, h, scalarLimits_protect h helement (.arc unitArc 0 0 (.inl rfl))
    (uniqueDiffOn_Icc zero_lt_one) (unitArcFrame.along steadyProgress) (fun _ _ => rfl)
    fun t _ => admits_steadyProgress hvalues t⟩

end Alumina.Motion
