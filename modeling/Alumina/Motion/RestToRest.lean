import Alumina.Motion.ScalarLimits

/-!
# Rest-to-rest jerk profiles

An element that starts and ends at rest is driven in four phases of equal duration and constant
jerk. `symmetricRestToRestPhases` takes the shortest duration in timer ticks that the scalar limits
admit; `buildGridPhases` rebuilds the phases on a longer duration of the output grid.
-/

namespace Alumina.Motion

open Except (failIf)

/-! ## Phases -/

/-- One ramp of constant jerk. -/
structure JerkRampSpanProposal (Real : Type) where
  startFeed : Real
  endFeed : Real
  startAcceleration : Real
  endAcceleration : Real
  traversalTime : Real

structure JerkRampPhaseProposal (Real : Type) where
  pathLength : Real
  ramp : JerkRampSpanProposal Real

/-- The four phases of a profile, from its peaks and its lengths. -/
def fourPhases {Real : Type} (zero : Real) (neg : Real → Real)
    (unitLength fiveUnits halfPeakFeed peakFeed peakAcceleration phaseTime : Real) :
    List (JerkRampPhaseProposal Real) :=
  [ { pathLength := unitLength, ramp :=
      { startFeed := zero
        endFeed := halfPeakFeed
        startAcceleration := zero
        endAcceleration := peakAcceleration
        traversalTime := phaseTime } },
    { pathLength := fiveUnits, ramp :=
      { startFeed := halfPeakFeed
        endFeed := peakFeed
        startAcceleration := peakAcceleration
        endAcceleration := zero
        traversalTime := phaseTime } },
    { pathLength := fiveUnits, ramp :=
      { startFeed := peakFeed
        endFeed := halfPeakFeed
        startAcceleration := zero
        endAcceleration := neg peakAcceleration
        traversalTime := phaseTime } },
    { pathLength := unitLength, ramp :=
      { startFeed := halfPeakFeed
        endFeed := zero
        startAcceleration := neg peakAcceleration
        endAcceleration := zero
        traversalTime := phaseTime } } ]

section Model

variable [ExactReal] [RealFunctions]

/-- The distance travelled within a phase after some time. -/
def jerkPhaseDistance (phase : JerkRampSpanProposal ExactReal.Real) (localTime : ExactReal.Real) :
    Except MotionScheduleError ExactReal.Real := do
  let jerk ← (ExactReal.div (ExactReal.sub phase.endAcceleration phase.startAcceleration)
    phase.traversalTime).mapError .arithmetic
  let timeSquared := ExactReal.mul localTime localTime
  let timeCubed := ExactReal.mul timeSquared localTime
  let accelerated ← (ExactReal.div (ExactReal.mul phase.startAcceleration timeSquared)
    (ExactReal.ofU64 2)).mapError .arithmetic
  let jerked ← (ExactReal.div (ExactReal.mul jerk timeCubed)
    (ExactReal.ofU64 6)).mapError .arithmetic
  pure (ExactReal.add (ExactReal.add (ExactReal.mul phase.startFeed localTime) accelerated) jerked)

/-- The phases of a profile that covers a length in four times a phase duration. -/
def phasesAtTime (length phaseTime : ExactReal.Real) :
    Except ExactReal.Problem (List (JerkRampPhaseProposal ExactReal.Real)) := do
  let peakFeed ← ExactReal.div length (ExactReal.mul (ExactReal.ofU64 2) phaseTime)
  let halfPeakFeed ← ExactReal.div peakFeed (ExactReal.ofU64 2)
  let peakAcceleration ← ExactReal.div peakFeed phaseTime
  let unitLength ← ExactReal.div length (ExactReal.ofU64 12)
  let fiveUnits := ExactReal.mul (ExactReal.ofU64 5) unitLength
  pure (fourPhases ExactReal.zero RealFunctions.neg unitLength fiveUnits halfPeakFeed peakFeed
    peakAcceleration phaseTime)

/-- The shortest phase that the limits admit, before it is rounded up to whole ticks. -/
def requiredPhaseTime [FeedPaths] (length : ExactReal.Real) (limits : ScalarMotionLimits2) :
    Except MotionScheduleError ExactReal.Real := do
  let feedTime ← (ExactReal.div length (ExactReal.mul (ExactReal.ofU64 2)
    limits.maximumFeedMmPerSecond)).mapError .arithmetic
  let accelerationSquare ← (ExactReal.div length (ExactReal.mul (ExactReal.ofU64 2)
    limits.maximumAccelerationMmPerSecondSquared)).mapError .arithmetic
  let accelerationTime ← (RealFunctions.sqrt accelerationSquare).mapError .arithmetic
  let jerkCube ← (ExactReal.div length (ExactReal.mul (ExactReal.ofU64 2)
    limits.maximumJerkMmPerSecondCubed)).mapError .arithmetic
  let jerkTime ← (RealFunctions.cbrt jerkCube).mapError .arithmetic
  let slower ← maximumReal accelerationTime jerkTime
  maximumReal feedTime slower

def symmetricRestToRestPhases [FeedPaths] (length : ExactReal.Real) (limits : ScalarMotionLimits2)
    (timerTicksPerSecond : UInt64) :
    Except MotionScheduleError (List (JerkRampPhaseProposal ExactReal.Real)) := do
  requirePositive length "retained element length"
  let required ← requiredPhaseTime length limits
  let phaseTicks ← (ExactReal.ceilCertified
    (ExactReal.mul required (ExactReal.ofU64 timerTicksPerSecond))).mapError .arithmetic
  let phaseTime ← (ExactReal.div (RealFunctions.integer phaseTicks)
    (ExactReal.ofU64 timerTicksPerSecond)).mapError .arithmetic
  requirePositive phaseTime "selected jerk phase time"
  (phasesAtTime length phaseTime).mapError .arithmetic

/-! ## The output grid -/

/-- The variants of `DirectMotionError` that rebuilding phases can end in. -/
inductive DirectMotionError [FeedPaths] where
  | unsupportedRouteElement (elementIndex : Nat)
  | unsupportedNonstopSchedule (elementIndex : Nat)
  | gridTimeUncertified
  | arithmetic (problem : ExactReal.Problem)
  | route (error : FeedPaths.RouteCertificationError)
  | integerOverflow (domain : String)

/-- Exact output-grid replacement of one certified phase duration. -/
structure DirectGridPhaseEvidence2 where
  elementIndex : Nat
  phaseIndex : Nat
  originalDurationSeconds : ExactReal.Real
  gridDurationSeconds : ℚ
  nonnegativePaddingSeconds : ExactReal.Real
  updateCount : UInt64

variable [FeedPaths]

def isExactZero (value : ExactReal.Real) : Bool :=
  ExactReal.compareReals value ExactReal.zero = some .eq

def symmetricPhasesAtTime (length phaseTime : ExactReal.Real) :
    Except DirectMotionError (List (JerkRampPhaseProposal ExactReal.Real)) :=
  (phasesAtTime length phaseTime).mapError .arithmetic

/-- Four phases of one duration that start and end at rest. -/
def isRestToRest : List (JerkRampPhaseProposal ExactReal.Real) → Bool
  | [first, second, third, last] =>
    isExactZero first.ramp.startFeed && isExactZero first.ramp.startAcceleration &&
      isExactZero last.ramp.endFeed && isExactZero last.ramp.endAcceleration &&
      [second, third, last].all fun phase => decide
        (ExactReal.compareReals phase.ramp.traversalTime first.ramp.traversalTime = some .eq)
  | _ => false

/-- The whole number of output frames that covers a phase. -/
def gridFrames (traversalTime : ExactReal.Real) (timerTicksPerSecond : UInt64)
    (outputQuantumCycles : UInt32) : Except DirectMotionError UInt64 := do
  let exactFrames ← (ExactReal.div
    (ExactReal.mul traversalTime (ExactReal.ofU64 timerTicksPerSecond))
    (ExactReal.ofU64 outputQuantumCycles.toUInt64)).mapError .arithmetic
  let frames ← (ExactReal.ceilCertified exactFrames).mapError .arithmetic
  failIf (frames < 0 ∨ 2 ^ 64 ≤ frames) (.integerOverflow "grid phase update count")
  failIf (frames = 0) (.integerOverflow "grid phase update count")
  pure (.ofNat frames.toNat)

/-- Rebuild one element on the output grid. -/
def gridElement (timerTicksPerSecond : UInt64) (outputQuantumCycles : UInt32) (elementIndex : Nat)
    (element : FeedPathElement) (original : List (JerkRampPhaseProposal ExactReal.Real)) :
    Except DirectMotionError
      (List (JerkRampPhaseProposal ExactReal.Real) × List DirectGridPhaseEvidence2) :=
  match element, original with
  | .line line, first :: rest => do
    failIf (¬ isRestToRest (first :: rest)) (.unsupportedNonstopSchedule elementIndex)
    let frames ← gridFrames first.ramp.traversalTime timerTicksPerSecond outputQuantumCycles
    let phaseCycles := frames.toNat * outputQuantumCycles.toNat
    failIf (2 ^ 64 ≤ phaseCycles) (.integerOverflow "grid phase cycles")
    let phaseDuration : ℚ := phaseCycles / timerTicksPerSecond.toNat
    let exactDuration := RealFunctions.ofRational phaseDuration
    let padding := ExactReal.sub exactDuration first.ramp.traversalTime
    failIf (ExactReal.compareReals padding ExactReal.zero ≠ some .eq ∧
      ExactReal.compareReals padding ExactReal.zero ≠ some .gt) .gridTimeUncertified
    let length ← (FeedPaths.euclideanLength line).mapError .route
    let rebuilt ← symmetricPhasesAtTime length exactDuration
    let evidence := (first :: rest).zipIdx.map fun (phase, phaseIndex) =>
      { elementIndex, phaseIndex
        originalDurationSeconds := phase.ramp.traversalTime
        gridDurationSeconds := phaseDuration
        nonnegativePaddingSeconds := ExactReal.sub exactDuration phase.ramp.traversalTime
        updateCount := frames }
    pure (rebuilt, evidence)
  | .line _, [] => .error (.unsupportedNonstopSchedule elementIndex)
  | _, _ => .error (.unsupportedRouteElement elementIndex)

/-- Rebuild every element of a route on the output grid. -/
def buildGridPhases (timerTicksPerSecond : UInt64) (outputQuantumCycles : UInt32)
    (elements : List (FeedPathElement × List (JerkRampPhaseProposal ExactReal.Real))) :
    Except DirectMotionError
      (List (List (JerkRampPhaseProposal ExactReal.Real)) × List DirectGridPhaseEvidence2) := do
  let rebuilt ← elements.zipIdx.mapM fun ((element, original), elementIndex) =>
    gridElement timerTicksPerSecond outputQuantumCycles elementIndex element original
  pure (rebuilt.map (·.1), (rebuilt.map (·.2)).flatten)

end Model

end Alumina.Motion
