import Alumina.Machine.Profile

/-!
# Certified chord compilation

A source path is cut into exact chords. The chord ends are rounded to the step lattice and the
cumulative path time to the timer lattice, each with a bound that is checked again afterwards.

Cutting the source belongs to the curve library, the parameter `SourceCurves`. Errors of vector
allocation are left out.
-/

namespace Alumina.Motion

open Except (failIf)
open Alumina.Graph (Digest)
open Alumina.Machine (MachineResolutionBudget2)

/-! ## Source curves -/

/-- The certified chords of a source path. -/
structure CertifiedPolyline (Real : Type) where
  points : List (Axes Real)
  sourceFragmentCount : Nat
  segmentCount : Nat
  maximumDepth : Nat

class SourceCurves [ExactReal] where
  /-- `CurvePath2` -/
  Path : Type
  FlatteningOptions : Type
  CurveError : Type
  ExactCurveError : Type
  UncertaintyReason : Type
  /-- `BezierFlatteningOptions::try_new` -/
  flatteningOptions : ExactReal.Real → Nat → Except CurveError FlatteningOptions
  /-- `ExactCurveError::Blocked`, with its reason. -/
  blocked : ExactCurveError → Option UncertaintyReason
  segmentCertified : Path → FlatteningOptions →
    Except ExactCurveError (CertifiedPolyline ExactReal.Real)

variable [ExactReal] [RealFunctions] [SourceCurves]

/-- The variants of `MachineCompileError` that compilation can end in. -/
inductive MachineCompileError where
  | invalidPolicy (reason : String)
  | curveConstruction (error : SourceCurves.CurveError)
  | exactCurve (error : SourceCurves.ExactCurveError)
  | segmentationUncertain (reason : SourceCurves.UncertaintyReason)
  | arithmetic (problem : ExactReal.Problem)
  | integerOverflow (domain : String) (index : Nat) (axis : Option Nat)
  | spatialChordCollapsed (segmentIndex : Nat)
  | tickBoundaryCollapsed (segmentIndex : Nat)
  | stepDeltaOverflow (segmentIndex axis : Nat)
  | spatialBoundViolated (pointIndex axis : Nat)
  | timerBoundViolated (segmentIndex : Nat)
  | quantizationPredicateUnresolved
  /-- `BoundaryError::EmptyOrReversedCycleRange` -/
  | canonicalBoundary

abbrev MachineCompileResult := Except MachineCompileError

/-! ## Policies and programs -/

/-- The lattice and the approximation facts of a compilation. -/
structure MotionCompilePolicy2 where
  machineConfigurationDigest : Digest
  capabilityDigest : Digest
  resolutionBudget : Option MachineResolutionBudget2
  stepsPerMillimetre : Axes ℚ
  timerTicksPerSecond : UInt64
  feedMillimetresPerSecond : ℚ
  maximumSourceChordErrorMm : ℚ
  maximumSubdivisionDepth : Nat
  x_pos : 0 < stepsPerMillimetre.x
  y_pos : 0 < stepsPerMillimetre.y
  timer_pos : 0 < timerTicksPerSecond.toNat
  feed_pos : 0 < feedMillimetresPerSecond

/-- `MotionCompilePolicy2::try_new` -/
def MotionCompilePolicy2.tryNew (stepsPerMillimetre : Axes ℚ) (timerTicksPerSecond : UInt64)
    (feedMillimetresPerSecond maximumSourceChordErrorMm : ℚ) (maximumSubdivisionDepth : Nat) :
    MachineCompileResult MotionCompilePolicy2 :=
  if hsteps : stepsPerMillimetre.x ≤ 0 ∨ stepsPerMillimetre.y ≤ 0 then
    .error (.invalidPolicy "steps per millimetre must be positive")
  else if htimer : timerTicksPerSecond.toNat = 0 then
    .error (.invalidPolicy "timer ticks per second must be nonzero")
  else if hfeed : feedMillimetresPerSecond ≤ 0 then
    .error (.invalidPolicy "feed rate must be positive")
  else if maximumSourceChordErrorMm ≤ 0 then
    .error (.invalidPolicy "source chord error must be positive")
  else if maximumSubdivisionDepth = 0 then
    .error (.invalidPolicy "subdivision depth must be nonzero")
  else .ok
    { machineConfigurationDigest := .replicate 32 0
      capabilityDigest := .replicate 32 0
      resolutionBudget := none
      stepsPerMillimetre, timerTicksPerSecond, feedMillimetresPerSecond
      maximumSourceChordErrorMm, maximumSubdivisionDepth
      x_pos := not_le.mp fun h => hsteps (.inl h)
      y_pos := not_le.mp fun h => hsteps (.inr h)
      timer_pos := Nat.pos_of_ne_zero htimer
      feed_pos := not_le.mp hfeed }

/-- One exact chord end and its canonical coordinate. -/
structure CanonicalPathPoint2 where
  chordPointMm : Axes ExactReal.Real
  steps : Axes Int64
  signedQuantizationErrorMm : Axes ExactReal.Real

/-- One ideal cumulative time and its canonical tick. -/
structure CanonicalTimeBoundary where
  idealSeconds : ExactReal.Real
  tick : UInt64
  signedQuantizationErrorSeconds : ExactReal.Real

structure MotionApproximationEvidence2 where
  maximumSourceChordErrorMm : ExactReal.Real
  sourceFragmentCount : Nat
  chordSegmentCount : Nat
  maximumSubdivisionDepth : Nat
  maximumAxisQuantizationErrorMm : Axes ExactReal.Real
  maximumPositionQuantizationErrorMm : ExactReal.Real
  maximumCurveToCanonicalChordErrorMm : ExactReal.Real
  maximumTimerBoundaryErrorSeconds : ExactReal.Real
  maximumSegmentDurationErrorSeconds : ExactReal.Real

structure CanonicalPathProgram2 where
  source : SourceCurves.Path
  policy : MotionCompilePolicy2
  points : List CanonicalPathPoint2
  timeBoundaries : List CanonicalTimeBoundary
  segments : List ExecutionSegment
  idealChordPathLengthMm : ExactReal.Real
  evidence : MotionApproximationEvidence2

/-! ## Quantization -/

/-- A division of exact reals, with its rejection as a compile error. -/
def divideMm (dividend divisor : ExactReal.Real) : MachineCompileResult ExactReal.Real :=
  (ExactReal.div dividend divisor).mapError .arithmetic

def halfLatticeUnit (stepsPerMillimetre : ℚ) : MachineCompileResult ExactReal.Real :=
  divideMm (ExactReal.ofU64 1)
    (ExactReal.mul (ExactReal.ofU64 2) (RealFunctions.ofRational stepsPerMillimetre))

def certifyBound (magnitude bound : ExactReal.Real) (violated : MachineCompileError) :
    MachineCompileResult Unit :=
  match ExactReal.compareReals magnitude bound with
  | some .lt | some .eq => .ok ()
  | some .gt => .error violated
  | none => .error .quantizationPredicateUnresolved

def quantizeAxis (coordinateMm : ExactReal.Real) (stepsPerMillimetre : ℚ)
    (maximumErrorMm : ExactReal.Real) (pointIndex axis : Nat) :
    MachineCompileResult (Int64 × ExactReal.Real) := do
  let density := RealFunctions.ofRational stepsPerMillimetre
  let steps ←
    (RealFunctions.roundCertified (ExactReal.mul coordinateMm density)).mapError .arithmetic
  failIf (steps < -(2 ^ 63) ∨ 2 ^ 63 ≤ steps) (.integerOverflow "axis step" pointIndex (some axis))
  let canonicalCoordinateMm ← divideMm (RealFunctions.integer steps) density
  let signedErrorMm := ExactReal.sub canonicalCoordinateMm coordinateMm
  certifyBound (RealFunctions.abs signedErrorMm) maximumErrorMm
    (.spatialBoundViolated pointIndex axis)
  pure (.ofInt steps, signedErrorMm)

def certifiedU64Round (value : ExactReal.Real) (domain : String) (index : Nat) :
    MachineCompileResult UInt64 := do
  let integer ← (RealFunctions.roundCertified value).mapError .arithmetic
  failIf (integer < 0 ∨ 2 ^ 64 ≤ integer) (.integerOverflow domain index none)
  pure (.ofNat integer.toNat)

/-- Round one chord end to the step lattice. -/
def quantizePoint (policy : MotionCompilePolicy2) (maximumErrorMm : Axes ExactReal.Real)
    (point : Axes ExactReal.Real) (pointIndex : Nat) :
    MachineCompileResult CanonicalPathPoint2 := do
  let x ← quantizeAxis point.x policy.stepsPerMillimetre.x maximumErrorMm.x pointIndex 0
  let y ← quantizeAxis point.y policy.stepsPerMillimetre.y maximumErrorMm.y pointIndex 1
  pure
    { chordPointMm := point
      steps := ⟨x.1, y.1⟩
      signedQuantizationErrorMm := ⟨x.2, y.2⟩ }

/-! ## Chords -/

/-- `i64::checked_sub` on one axis of a chord. -/
def chordDelta (segmentIndex axis : Nat) (next previous : Int64) : MachineCompileResult Int64 := do
  let delta := next.toInt - previous.toInt
  failIf (delta < -(2 ^ 63) ∨ 2 ^ 63 ≤ delta) (.stepDeltaOverflow segmentIndex axis)
  pure (.ofInt delta)

/-- The exact length of a chord. -/
def chordLength (start finish : Axes ExactReal.Real) : MachineCompileResult ExactReal.Real :=
  let dx := ExactReal.sub finish.x start.x
  let dy := ExactReal.sub finish.y start.y
  (RealFunctions.sqrt (ExactReal.add (ExactReal.mul dx dx) (ExactReal.mul dy dy))).mapError
    .arithmetic

/-- What the pass of the loop over one chord produces. -/
structure CompiledChord where
  pathLengthMm : ExactReal.Real
  segment : ExecutionSegment
  boundary : CanonicalTimeBoundary

/-- The pass of the loop over one chord. -/
def compileChord (policy : MotionCompilePolicy2) (maximumTimerErrorSeconds : ExactReal.Real)
    (segmentIndex : Nat) (pathLengthMm : ExactReal.Real) (start : UInt64)
    (first second : CanonicalPathPoint2) : MachineCompileResult CompiledChord := do
  let timerFrequency := ExactReal.ofU64 policy.timerTicksPerSecond
  let length ← chordLength first.chordPointMm second.chordPointMm
  let pathLengthMm := ExactReal.add pathLengthMm length
  let idealSeconds ←
    divideMm pathLengthMm (RealFunctions.ofRational policy.feedMillimetresPerSecond)
  let tick ← certifiedU64Round (ExactReal.mul idealSeconds timerFrequency) "timer boundary"
    segmentIndex
  failIf (tick ≤ start) (.tickBoundaryCollapsed segmentIndex)
  let x ← chordDelta segmentIndex 0 second.steps.x first.steps.x
  let y ← chordDelta segmentIndex 1 second.steps.y first.steps.y
  failIf (x = 0 ∧ y = 0) (.spatialChordCollapsed segmentIndex)
  failIf (tick ≤ start) .canonicalBoundary
  let canonicalSeconds ← divideMm (ExactReal.ofU64 tick) timerFrequency
  let signedErrorSeconds := ExactReal.sub canonicalSeconds idealSeconds
  certifyBound (RealFunctions.abs signedErrorSeconds) maximumTimerErrorSeconds
    (.timerBoundViolated segmentIndex)
  pure
    { pathLengthMm
      segment := ⟨start, tick, ⟨x, y⟩, 0⟩
      boundary := ⟨idealSeconds, tick, signedErrorSeconds⟩ }

/-- The loop over the chords: the whole path length, the boundaries after the first, and the
segments. -/
def compileChords (policy : MotionCompilePolicy2) (maximumTimerErrorSeconds : ExactReal.Real) :
    Nat → ExactReal.Real → UInt64 → List CanonicalPathPoint2 →
    MachineCompileResult (ExactReal.Real × List CanonicalTimeBoundary × List ExecutionSegment)
  | segmentIndex, pathLengthMm, start, first :: second :: rest => do
    let chord ← compileChord policy maximumTimerErrorSeconds segmentIndex pathLengthMm start first
      second
    let (total, boundaries, segments) ← compileChords policy maximumTimerErrorSeconds
      (segmentIndex + 1) chord.pathLengthMm chord.boundary.tick (second :: rest)
    pure (total, chord.boundary :: boundaries, chord.segment :: segments)
  | _, pathLengthMm, _, _ => .ok (pathLengthMm, [], [])

/-- Cut the source into certified chords. -/
def segmentSource (source : SourceCurves.Path) (maximumErrorMm : ExactReal.Real)
    (maximumDepth : Nat) : MachineCompileResult (CertifiedPolyline ExactReal.Real) := do
  let options ← (SourceCurves.flatteningOptions maximumErrorMm maximumDepth).mapError
    .curveConstruction
  match SourceCurves.segmentCertified source options with
  | .ok polyline => pure polyline
  | .error error =>
    match SourceCurves.blocked error with
    | some reason => .error (.segmentationUncertain reason)
    | none => .error (.exactCurve error)

def compileCertifiedChordProgram (source : SourceCurves.Path) (policy : MotionCompilePolicy2) :
    MachineCompileResult CanonicalPathProgram2 := do
  let maximumSourceChordErrorMm := RealFunctions.ofRational policy.maximumSourceChordErrorMm
  let polyline ← segmentSource source maximumSourceChordErrorMm policy.maximumSubdivisionDepth
  let x ← halfLatticeUnit policy.stepsPerMillimetre.x
  let y ← halfLatticeUnit policy.stepsPerMillimetre.y
  let maximumPosition ← (RealFunctions.sqrt (ExactReal.add (ExactReal.mul x x)
    (ExactReal.mul y y))).mapError .arithmetic
  let maximumTimer ← divideMm (ExactReal.ofU64 1) (ExactReal.mul (ExactReal.ofU64 2)
    (ExactReal.ofU64 policy.timerTicksPerSecond))
  let maximumDuration ← divideMm (ExactReal.ofU64 1) (ExactReal.ofU64 policy.timerTicksPerSecond)
  let points ← polyline.points.zipIdx.mapM fun (point, pointIndex) =>
    quantizePoint policy ⟨x, y⟩ point pointIndex
  let (total, boundaries, segments) ← compileChords policy maximumTimer 0 ExactReal.zero 0 points
  pure
    { source, policy, points
      timeBoundaries := ⟨ExactReal.zero, 0, ExactReal.zero⟩ :: boundaries
      segments
      idealChordPathLengthMm := total
      evidence :=
        { maximumSourceChordErrorMm
          sourceFragmentCount := polyline.sourceFragmentCount
          chordSegmentCount := polyline.segmentCount
          maximumSubdivisionDepth := polyline.maximumDepth
          maximumAxisQuantizationErrorMm := ⟨x, y⟩
          maximumPositionQuantizationErrorMm := maximumPosition
          maximumCurveToCanonicalChordErrorMm :=
            ExactReal.add maximumSourceChordErrorMm maximumPosition
          maximumTimerBoundaryErrorSeconds := maximumTimer
          maximumSegmentDurationErrorSeconds := maximumDuration } }

end Alumina.Motion
