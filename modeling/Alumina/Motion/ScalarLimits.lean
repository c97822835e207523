import Alumina.Machine.Profile

/-!
# Scalar motion limits

A route is planned with one speed, one acceleration and one jerk along it. `fromMachine` derives
them from the limits of the two axes: for a route of lines only by projecting every direction on the
axes, otherwise from the lesser axis, shared out between the tangential and the curvature terms when
the route has an arc.

Feed paths and the projection belong to a library outside this code and are the parameter
`FeedPaths`.
-/

namespace Alumina.Motion

open Alumina.Machine (StepperAxisMachineProfile minimumRational)

/-! ## Feed paths -/

/-- The ceilings of one axis. -/
structure AxisMotionLimits (Real : Type) where
  maximumVelocity : Real
  maximumAcceleration : Real
  maximumJerk : Real

/-- What the projection finds for the whole route. -/
structure PlannedAxisProjectedMotionLimits (Real : Type) where
  maximumPathFeed : Real
  maximumPathAcceleration : Real
  maximumPathJerk : Real

/-- The elements of certified routes and the per-axis projection of affine ones. -/
class FeedPaths [ExactReal] where
  RouteCertificationError : Type
  /-- `LinePathSegment` -/
  Line : Type
  /-- `ExplicitCircularArc` -/
  Arc : Type
  CubicPh : Type
  QuinticPh : Type
  directionVector : Line → Axes ExactReal.Real
  euclideanLength : Line → Except RouteCertificationError ExactReal.Real
  radius : Arc → ExactReal.Real
  /-- The absolute axis derivatives of every span, and the ceilings of every axis. -/
  planAxisProjectedMotionLimits : List (Axes ExactReal.Real) →
    Axes (AxisMotionLimits ExactReal.Real) →
    Except RouteCertificationError (PlannedAxisProjectedMotionLimits ExactReal.Real)

variable [ExactReal] [RealFunctions] [FeedPaths]

inductive FeedPathElement where
  | line (line : FeedPaths.Line)
  | explicitArc (arc : FeedPaths.Arc)
  | cubicPh (curve : FeedPaths.CubicPh)
  | quinticPh (curve : FeedPaths.QuinticPh)

def FeedPathElement.isLine : FeedPathElement → Bool
  | .line _ => true
  | _ => false

def FeedPathElement.isArc : FeedPathElement → Bool
  | .explicitArc _ => true
  | _ => false

/-- The variants of `MotionScheduleError` that limits can end in. -/
inductive ScalarLimitError where
  | route (error : FeedPaths.RouteCertificationError)
  | arithmetic (problem : ExactReal.Problem)
  | unsupportedMetricElement
  | predicateUnresolved (domain : String)

abbrev ScalarLimitResult := Except ScalarLimitError

/-! ## Limits -/

structure ScalarMotionLimits2 where
  maximumFeedMmPerSecond : ExactReal.Real
  maximumAccelerationMmPerSecondSquared : ExactReal.Real
  maximumJerkMmPerSecondCubed : ExactReal.Real
  maximumSpatialAccelerationMmPerSecondSquared : ExactReal.Real
  affineAxisProjection : Option (PlannedAxisProjectedMotionLimits ExactReal.Real)

def minimumReal (left right : ExactReal.Real) : ScalarLimitResult ExactReal.Real :=
  match ExactReal.compareReals left right with
  | some .lt | some .eq => .ok left
  | some .gt => .ok right
  | none => .error (.predicateUnresolved "curved-path scalar limit minimum")

def absoluteReal (value : ExactReal.Real) (domain : String) : ScalarLimitResult ExactReal.Real :=
  match ExactReal.classifyRealSign value with
  | some .neg => .ok (RealFunctions.neg value)
  | some .zero | some .pos => .ok value
  | none => .error (.predicateUnresolved domain)

def divideReal (dividend divisor : ExactReal.Real) : ScalarLimitResult ExactReal.Real :=
  (ExactReal.div dividend divisor).mapError .arithmetic

/-- The absolute derivatives of the two axes along one affine element. -/
def spanAxisProjection : FeedPathElement → ScalarLimitResult (Axes ExactReal.Real)
  | .line line => do
    let direction := FeedPaths.directionVector line
    let length ← (FeedPaths.euclideanLength line).mapError .route
    let absoluteX ←
      absoluteReal direction.x "affine line X derivative sign for axis projection"
    let absoluteY ←
      absoluteReal direction.y "affine line Y derivative sign for axis projection"
    let x ← divideReal absoluteX length
    let y ← divideReal absoluteY length
    pure ⟨x, y⟩
  | _ => .error .unsupportedMetricElement

def affineLineAxisProjection (route : List FeedPathElement)
    (axisLimits : Axes (AxisMotionLimits ExactReal.Real)) :
    ScalarLimitResult (Option (PlannedAxisProjectedMotionLimits ExactReal.Real)) :=
  if route.all FeedPathElement.isLine then do
    let projections ← route.mapM spanAxisProjection
    let planned ←
      (FeedPaths.planAxisProjectedMotionLimits projections axisLimits).mapError .route
    pure (some planned)
  else .ok none

/-- The ceilings of one axis in millimetres. -/
def axisMotionLimits (axis : StepperAxisMachineProfile) : AxisMotionLimits ExactReal.Real where
  maximumVelocity := RealFunctions.ofRational (axis.effectiveVelocityLimitMetresPerSecond * 1000)
  maximumAcceleration :=
    RealFunctions.ofRational (axis.effectiveAccelerationLimitMetresPerSecondSquared * 1000)
  maximumJerk := RealFunctions.ofRational (axis.effectiveJerkLimitMetresPerSecondCubed * 1000)

/-- A share of a spatial ceiling, when the route has an arc. -/
def tangentialShare (hasArc : Bool) (spatial : ExactReal.Real) (shares : UInt64) :
    ScalarLimitResult ExactReal.Real :=
  if hasArc then divideReal spatial (ExactReal.ofU64 shares) else .ok spatial

/-- Lower the feed to what one element's curvature admits. -/
def lowerFeed (maximumAcceleration spatialAcceleration spatialJerk : ExactReal.Real)
    (maximumFeed : ExactReal.Real) : FeedPathElement → ScalarLimitResult ExactReal.Real
  | .explicitArc arc => do
    let radius := FeedPaths.radius arc
    let accelerationFeed ←
      (RealFunctions.sqrt (ExactReal.mul maximumAcceleration radius)).mapError .arithmetic
    let mixedJerkFeed ← divideReal
      (ExactReal.mul (ExactReal.mul (ExactReal.ofU64 2) spatialJerk) radius)
      (ExactReal.mul (ExactReal.ofU64 9) spatialAcceleration)
    let curvatureJerkCube ← divideReal
      (ExactReal.mul (ExactReal.mul spatialJerk radius) radius) (ExactReal.ofU64 3)
    let curvatureJerkFeed ← (RealFunctions.cbrt curvatureJerkCube).mapError .arithmetic
    let jerkFeed ← minimumReal mixedJerkFeed curvatureJerkFeed
    let curveFeed ← minimumReal accelerationFeed jerkFeed
    minimumReal maximumFeed curveFeed
  | _ => .ok maximumFeed

/-- The spatial ceilings: those of the projection, or the lesser ones of the two axes. -/
def spatialLimits (axes : Axes StepperAxisMachineProfile) :
    Option (PlannedAxisProjectedMotionLimits ExactReal.Real) → AxisMotionLimits ExactReal.Real
  | some projection =>
    ⟨projection.maximumPathFeed, projection.maximumPathAcceleration, projection.maximumPathJerk⟩
  | none =>
    { maximumVelocity := RealFunctions.ofRational
        (minimumRational axes.x.effectiveVelocityLimitMetresPerSecond
          axes.y.effectiveVelocityLimitMetresPerSecond * 1000)
      maximumAcceleration := RealFunctions.ofRational
        (minimumRational axes.x.effectiveAccelerationLimitMetresPerSecondSquared
          axes.y.effectiveAccelerationLimitMetresPerSecondSquared * 1000)
      maximumJerk := RealFunctions.ofRational
        (minimumRational axes.x.effectiveJerkLimitMetresPerSecondCubed
          axes.y.effectiveJerkLimitMetresPerSecondCubed * 1000) }

def ScalarMotionLimits2.fromMachine (axes : Axes StepperAxisMachineProfile)
    (route : List FeedPathElement) : ScalarLimitResult ScalarMotionLimits2 := do
  let axisLimits : Axes (AxisMotionLimits ExactReal.Real) :=
    ⟨axisMotionLimits axes.x, axisMotionLimits axes.y⟩
  let affineAxisProjection ← affineLineAxisProjection route axisLimits
  let spatial := spatialLimits axes affineAxisProjection
  let hasArc := route.any FeedPathElement.isArc
  let maximumAcceleration ← tangentialShare hasArc spatial.maximumAcceleration 2
  let maximumJerk ← tangentialShare hasArc spatial.maximumJerk 3
  let maximumFeed ← route.foldlM
    (lowerFeed maximumAcceleration spatial.maximumAcceleration spatial.maximumJerk)
    spatial.maximumVelocity
  pure
    { maximumFeedMmPerSecond := maximumFeed
      maximumAccelerationMmPerSecondSquared := maximumAcceleration
      maximumJerkMmPerSecondCubed := maximumJerk
      maximumSpatialAccelerationMmPerSecondSquared := spatial.maximumAcceleration
      affineAxisProjection }

end Alumina.Motion
