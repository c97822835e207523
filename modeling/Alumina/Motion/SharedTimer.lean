import Alumina.Client.DistributedSchedule

/-!
# Shared timer-lattice retiming

`selectSharedTimerLatticeSchedule` slows the streams of several controllers down by one common
factor: the least one of a rational lattice at which every controller's production preflight
accepts its stream. Factor one and the largest factor are tried first, a bisection narrows the
factors between them, and the selected factor and its predecessor are replayed at the end.

Exact reals and the stepper executor belong to crates that are not part of this code. They are the
parameters `ExactReal` and `StepperExecutor`.
-/

namespace Alumina.Motion

open Except (failIf)
open Alumina.Client (deviceKey)
open Alumina.Graph (DeviceId Digest)

/-! ## Libraries -/

/-- The exact real numbers, with strict predicates that may stay undecided. -/
class ExactReal where
  Real : Type
  /-- `hyperreal::Problem` -/
  Problem : Type
  zero : Real
  ofU64 : UInt64 → Real
  fraction : Int64 → UInt64 → Except Problem Real
  add : Real → Real → Real
  sub : Real → Real → Real
  mul : Real → Real → Real
  div : Real → Real → Except Problem Real
  ceilCertified : Real → Except Problem Int
  compareReals : Real → Real → Option Ordering
  classifyRealSign : Real → Option SignType
  /-- The structural serialization, when there is one. -/
  serialize : Real → Option (List UInt8)

/-- Rejection by the stepper executor. -/
inductive MotionError where
  | axisCount | timing | state | segmentFlags | segmentOrder | emptySegment
  | positionOverflow (axis : Nat)
  | epochOverflow | arithmetic
  | outputGrid (cycle : UInt64) (quantumCycles : UInt32)
  | rate (axis : Nat)
  | pulseBoundary (axis : Nat)
  | pulseLow (axis : Nat)
  | directionSetup (axis : Nat)
  | directionHold (axis : Nat)
  | enableSetup (axis : Nat)
  | enableHold (axis : Nat)
  | configurationAxisCount (configured : UInt8) (expected : Nat)
  | configurationAxisLayout (axis : Nat)
  | deadline (scheduled observed : UInt64) (maximumLatenessCycles : UInt32)
  | outputInvariant
  deriving DecidableEq, Repr

/-- Two coordinates, one for each axis. -/
structure Axes (α : Type) where
  x : α
  y : α
  deriving DecidableEq, Repr

/-- Complete result of the production preflight of one stream. -/
structure StepperPreflightSummary where
  endTick : UInt64
  position : Axes Int64
  emittedSteps : Axes UInt64
  segmentCount : UInt32
  earliestFinishCycle : UInt64
  deriving DecidableEq, Repr

/-- One constant-velocity segment of the firmware stream. -/
structure ExecutionSegment where
  startTick : UInt64
  endTick : UInt64
  deltaSteps : Axes Int64
  flags : UInt32
  deriving DecidableEq, Repr

/-- The stepper executor. -/
class StepperExecutor where
  /-- `StepperTiming` -/
  Timing : Type
  /-- `MotionError::is_time_dilation_candidate` -/
  isTimeDilationCandidate : MotionError → Bool
  /-- `preflight_stepper_segments` -/
  preflightStepperSegments : Timing → Axes Int64 → List ExecutionSegment →
    Except MotionError StepperPreflightSummary

/-- What a program retains of its planning and lowering. -/
class LoweringProvenance where
  Provenance : Type

section Model

variable [ExactReal] [StepperExecutor] [LoweringProvenance]

/-! ## Programs and profiles -/

structure ScheduledMachinePoint2 where
  idealTimeSeconds : ExactReal.Real
  steps : Axes Int64

structure CanonicalScheduledProgram2 where
  configurationDigest : Digest
  capabilityDigest : Digest
  timerTicksPerSecond : UInt64
  outputQuantumCycles : UInt32
  points : List ScheduledMachinePoint2
  provenance : LoweringProvenance.Provenance

structure MachineDynamicsProfile2 where
  configurationDigest : Digest
  capabilityDigest : Digest
  timerTicksPerSecond : UInt64
  outputQuantumCycles : UInt32
  /-- `stepper_timing(0)` -/
  stepperTiming : StepperExecutor.Timing

/-- One machine-bound program participating in a common timer-lattice search. -/
structure SharedTimerParticipant2 where
  deviceId : DeviceId
  program : CanonicalScheduledProgram2
  profile : MachineDynamicsProfile2

inductive SharedTimerCandidateOutcome2 where
  | accepted (preflight : StepperPreflightSummary)
  | rejected (error : MotionError)
  deriving DecidableEq, Repr

namespace SharedTimerCandidateOutcome2

def isAccepted : SharedTimerCandidateOutcome2 → Bool
  | accepted _ => true
  | rejected _ => false

def rejection : SharedTimerCandidateOutcome2 → Option MotionError
  | accepted _ => none
  | rejected error => some error

end SharedTimerCandidateOutcome2

/-- All-participant outcomes for one searched numerator. -/
structure SharedTimerCandidateRoundReport2 where
  factorNumerator : UInt32
  outcomes : List SharedTimerCandidateOutcome2
  deriving DecidableEq, Repr

structure SharedRetimedParticipant2 where
  deviceId : DeviceId
  configurationDigest : Digest
  capabilityDigest : Digest
  timerTicksPerSecond : UInt64
  outputQuantumCycles : UInt32
  ticks : List UInt64
  segments : List ExecutionSegment
  executorPreflight : StepperPreflightSummary
  unitFactorOutcome : SharedTimerCandidateOutcome2
  predecessorOutcome : Option SharedTimerCandidateOutcome2
  idealTotalTimeSeconds : ExactReal.Real
  scheduledTotalTimeSeconds : ExactReal.Real
  maximumCumulativeDelaySeconds : ExactReal.Real
  maximumSegmentExtensionSeconds : ExactReal.Real
  maximumOutputGridPaddingSeconds : ExactReal.Real

structure SharedTimerLatticeSchedule2 where
  selectedFactorNumerator : UInt32
  selectedFactorDenominator : UInt32
  maximumFactorNumerator : UInt32
  candidateRounds : UInt32
  participantReplays : UInt64
  timerTicksPerSecond : UInt64
  outputQuantumCycles : UInt32
  terminalTick : UInt64
  idealTotalTimeSeconds : ExactReal.Real
  scheduledTotalTimeSeconds : ExactReal.Real
  candidateReports : List SharedTimerCandidateRoundReport2
  participants : List SharedRetimedParticipant2

/-- Rational lattice and search ceiling; factor one is always the first candidate. -/
structure TimerDilationPolicy where
  factorDenominator : UInt32
  maximumFactorNumerator : UInt32
  positive : 0 < factorDenominator
  ordered : factorDenominator ≤ maximumFactorNumerator

inductive MotionScheduleError where
  | arithmetic (problem : ExactReal.Problem)
  | nonPositiveValue (domain : String)
  | predicateUnresolved (domain : String)
  | emptyOrReversedCycleRange
  | metricPathMismatch
  | invalidTimerDilationPolicy
  | integerOverflow (domain : String)
  | tickBoundaryCollapsed (segmentIndex : Nat)
  | timerQuantizationUncertified
  | sharedTimerParticipantsEmpty
  | duplicateSharedTimerParticipant (deviceId : DeviceId)
  | sharedTimerParticipantIdentityMismatch (deviceId : DeviceId)
  | sharedTimerFrequencyMismatch (deviceId : DeviceId) (expected actual : UInt64)
  | sharedTimerOutputQuantumMismatch (deviceId : DeviceId) (expected actual : UInt32)
  | sharedTimerPointCountMismatch (deviceId : DeviceId) (expected actual : Nat)
  | sharedTimerPointGridMismatch (deviceId : DeviceId) (pointIndex : Nat)
  | sharedTimerParticipantPreflight (deviceId : DeviceId) (rejection : MotionError)
  | sharedTimerDilationBudgetExceeded (maximumFactorNumerator factorDenominator : UInt32)
    (deviceId : DeviceId) (rejection : MotionError)
  | sharedTimerSelectionReplayRejected (selectedFactorNumerator factorDenominator : UInt32)
    (deviceId : DeviceId) (rejection : MotionError)
  | sharedTimerDilationMinimalityUncertified (selectedFactorNumerator factorDenominator : UInt32)
  | sharedTimerGridDiverged (deviceId : DeviceId)

/-! ## Candidates -/

structure TimerCandidate2 where
  ticks : List UInt64
  segments : List ExecutionSegment
  executorPreflight : Except MotionError StepperPreflightSummary
  idealTotalTimeSeconds : ExactReal.Real
  scheduledTotalTimeSeconds : ExactReal.Real
  maximumCumulativeDelaySeconds : ExactReal.Real
  maximumSegmentExtensionSeconds : ExactReal.Real
  maximumOutputGridPaddingSeconds : ExactReal.Real

def requirePositive (value : ExactReal.Real) (domain : String) : Except MotionScheduleError Unit :=
  match ExactReal.classifyRealSign value with
  | some .pos => .ok ()
  | some .neg | some .zero => .error (.nonPositiveValue domain)
  | none => .error (.predicateUnresolved domain)

def maximumReal (left right : ExactReal.Real) : Except MotionScheduleError ExactReal.Real :=
  match ExactReal.compareReals left right with
  | some .lt => .ok right
  | some .eq | some .gt => .ok left
  | none => .error (.predicateUnresolved "jerk phase time maximum")

def certifyNonnegativeTimerValue (value : ExactReal.Real) : Except MotionScheduleError Unit :=
  match ExactReal.classifyRealSign value with
  | some .zero | some .pos => .ok ()
  | some .neg | none => .error .timerQuantizationUncertified

def canonicalMotionSegment (start stop : UInt64) (delta : Axes Int64) :
    Except MotionScheduleError ExecutionSegment := do
  failIf (stop ≤ start) .emptyOrReversedCycleRange
  pure ⟨start, stop, delta, 0⟩

/-- `i64::checked_sub` -/
def stepDelta (next previous : Int64) : Except MotionScheduleError Int64 := do
  let delta := next.toInt - previous.toInt
  failIf (delta < -(2 ^ 63) ∨ 2 ^ 63 ≤ delta) (.integerOverflow "axis step delta")
  pure (.ofInt delta)

/-- `u64::try_from` on a certified ceiling. -/
def frameCount (frames : Int) : Except MotionScheduleError UInt64 := do
  failIf (frames < 0 ∨ 2 ^ 64 ≤ frames) (.integerOverflow "timer-lattice segment frame count")
  pure (.ofNat frames.toNat)

/-- The lattice of one candidate: its factor, the timer and the output quantum. -/
structure TimerLattice where
  factor : ExactReal.Real
  timerFrequency : ExactReal.Real
  outputQuantum : UInt64
  oneQuantumSeconds : ExactReal.Real

structure TimerAccumulator where
  ticks : List UInt64
  segments : List ExecutionSegment
  cumulativeTick : UInt64
  scheduledTime : ExactReal.Real
  maximumCumulativeDelay : ExactReal.Real
  maximumSegmentExtension : ExactReal.Real
  maximumOutputGridPadding : ExactReal.Real

/-- Round one ideal interval up to the output grid and append its segment. -/
def pushTimerInterval (lattice : TimerLattice) (acc : TimerAccumulator)
    (pair : (ScheduledMachinePoint2 × ScheduledMachinePoint2) × Nat) :
    Except MotionScheduleError TimerAccumulator := do
  let ((previous, next), segmentIndex) := pair
  let outputQuantumReal := ExactReal.ofU64 lattice.outputQuantum
  let idealDuration := ExactReal.sub next.idealTimeSeconds previous.idealTimeSeconds
  requirePositive idealDuration "retained ideal segment duration"
  let scaledIdealDuration := ExactReal.mul idealDuration lattice.factor
  let requiredOutput ← (ExactReal.div (ExactReal.mul scaledIdealDuration lattice.timerFrequency)
    outputQuantumReal).mapError .arithmetic
  let requiredOutputFrames ← (ExactReal.ceilCertified requiredOutput).mapError .arithmetic
  let outputFrames ← frameCount requiredOutputFrames
  let duration ← (outputFrames.checkedMul lattice.outputQuantum).okOr
    (.integerOverflow "timer-lattice segment duration")
  failIf (duration = 0) (.tickBoundaryCollapsed segmentIndex)
  let nextTick ← (acc.cumulativeTick.checkedAdd duration).okOr
    (.integerOverflow "timer-lattice cumulative tick")
  let actualDuration ← (ExactReal.div (ExactReal.ofU64 duration)
    lattice.timerFrequency).mapError .arithmetic
  let gridPadding := ExactReal.sub actualDuration scaledIdealDuration
  certifyNonnegativeTimerValue gridPadding
  failIf (ExactReal.compareReals gridPadding lattice.oneQuantumSeconds ≠ some .lt)
    .timerQuantizationUncertified
  let segmentExtension := ExactReal.sub actualDuration idealDuration
  certifyNonnegativeTimerValue segmentExtension
  let scheduledTime := ExactReal.add acc.scheduledTime actualDuration
  let cumulativeDelay := ExactReal.sub scheduledTime next.idealTimeSeconds
  certifyNonnegativeTimerValue cumulativeDelay
  let maximumOutputGridPadding ← maximumReal acc.maximumOutputGridPadding gridPadding
  let maximumSegmentExtension ← maximumReal acc.maximumSegmentExtension segmentExtension
  let maximumCumulativeDelay ← maximumReal acc.maximumCumulativeDelay cumulativeDelay
  let deltaX ← stepDelta next.steps.x previous.steps.x
  let deltaY ← stepDelta next.steps.y previous.steps.y
  let segment ← canonicalMotionSegment acc.cumulativeTick nextTick ⟨deltaX, deltaY⟩
  pure
    { ticks := acc.ticks ++ [nextTick]
      segments := acc.segments ++ [segment]
      cumulativeTick := nextTick
      scheduledTime, maximumCumulativeDelay, maximumSegmentExtension, maximumOutputGridPadding }

/-- The complete stream of one participant at one factor, and its production preflight. -/
def buildTimerCandidate (points : List ScheduledMachinePoint2) (profile : MachineDynamicsProfile2)
    (initialPosition : Axes Int64) (factorNumerator factorDenominator : UInt32) :
    Except MotionScheduleError TimerCandidate2 := do
  failIf (points.length < 2 ∨ factorDenominator = 0 ∨ factorNumerator < factorDenominator)
    .invalidTimerDilationPolicy
  let factor ← (ExactReal.fraction factorNumerator.toUInt64.toInt64
    factorDenominator.toUInt64).mapError .arithmetic
  let timerFrequency := ExactReal.ofU64 profile.timerTicksPerSecond
  let outputQuantum := profile.outputQuantumCycles.toUInt64
  let oneQuantumSeconds ← (ExactReal.div (ExactReal.ofU64 outputQuantum)
    timerFrequency).mapError .arithmetic
  let acc ← ((points.zip points.tail).zipIdx).foldlM
    (pushTimerInterval ⟨factor, timerFrequency, outputQuantum, oneQuantumSeconds⟩)
    ⟨[0], [], 0, ExactReal.zero, ExactReal.zero, ExactReal.zero, ExactReal.zero⟩
  let last ← points.getLast?.okOr .metricPathMismatch
  pure
    { ticks := acc.ticks
      segments := acc.segments
      executorPreflight := StepperExecutor.preflightStepperSegments profile.stepperTiming
        initialPosition acc.segments
      idealTotalTimeSeconds := last.idealTimeSeconds
      scheduledTotalTimeSeconds := acc.scheduledTime
      maximumCumulativeDelaySeconds := acc.maximumCumulativeDelay
      maximumSegmentExtensionSeconds := acc.maximumSegmentExtension
      maximumOutputGridPaddingSeconds := acc.maximumOutputGridPadding }

/-! ## Participants -/

def validateSharedTimerParticipantIdentity (participant : SharedTimerParticipant2) :
    Except MotionScheduleError Unit :=
  failIf (participant.deviceId.isZero ∨
    participant.program.configurationDigest ≠ participant.profile.configurationDigest ∨
    participant.program.capabilityDigest ≠ participant.profile.capabilityDigest ∨
    participant.program.timerTicksPerSecond ≠ participant.profile.timerTicksPerSecond ∨
    participant.program.outputQuantumCycles ≠ participant.profile.outputQuantumCycles)
    (.sharedTimerParticipantIdentityMismatch participant.deviceId)

/-- Neighbours in canonical order differ. -/
def rejectDuplicates : List SharedTimerParticipant2 → Except MotionScheduleError Unit
  | first :: second :: rest => do
    failIf (first.deviceId = second.deviceId) (.duplicateSharedTimerParticipant first.deviceId)
    rejectDuplicates (second :: rest)
  | _ => .ok ()

/-- One participant runs on the clock and the ideal event grid of the first one. -/
def validateSharedTimerGrid (first participant : SharedTimerParticipant2) :
    Except MotionScheduleError Unit := do
  validateSharedTimerParticipantIdentity participant
  failIf (participant.program.timerTicksPerSecond ≠ first.program.timerTicksPerSecond)
    (.sharedTimerFrequencyMismatch participant.deviceId first.program.timerTicksPerSecond
      participant.program.timerTicksPerSecond)
  failIf (participant.program.outputQuantumCycles ≠ first.program.outputQuantumCycles)
    (.sharedTimerOutputQuantumMismatch participant.deviceId first.program.outputQuantumCycles
      participant.program.outputQuantumCycles)
  failIf (participant.program.points.length ≠ first.program.points.length)
    (.sharedTimerPointCountMismatch participant.deviceId first.program.points.length
      participant.program.points.length)
  Except.forEach (fun pair : (ScheduledMachinePoint2 × ScheduledMachinePoint2) × Nat =>
    failIf (ExactReal.compareReals pair.1.1.idealTimeSeconds pair.1.2.idealTimeSeconds ≠ some .eq)
      (.sharedTimerPointGridMismatch participant.deviceId pair.2))
    ((first.program.points.zip participant.program.points).zipIdx)

/-- Sort the participants and check that they share one clock and one event grid. -/
def validateSharedTimerParticipants (participants : List SharedTimerParticipant2) :
    Except MotionScheduleError (List SharedTimerParticipant2) := do
  let participants := Table.sortByKey (fun participant => deviceKey participant.deviceId)
    participants
  let first ← participants.head?.okOr .sharedTimerParticipantsEmpty
  rejectDuplicates participants
  validateSharedTimerParticipantIdentity first
  failIf (first.program.points.length < 2 ∨ (first.program.points.head?.map fun point =>
    ExactReal.compareReals point.idealTimeSeconds ExactReal.zero) ≠ some (some .eq))
    (.sharedTimerPointGridMismatch first.deviceId 0)
  Except.forEach (validateSharedTimerGrid first) participants.tail
  pure participants

/-! ## Rounds -/

/-- Every complete round so far. -/
structure SearchTrace where
  candidateRounds : UInt32
  candidateReports : List SharedTimerCandidateRoundReport2

structure SharedTimerCandidateRound2 where
  candidates : List TimerCandidate2
  outcomes : List SharedTimerCandidateOutcome2
  firstRejection : Option (DeviceId × MotionError)

/-- Timing pressure is an outcome, any other rejection ends the search. -/
def candidateOutcome (participant : SharedTimerParticipant2) (candidate : TimerCandidate2) :
    Except MotionScheduleError SharedTimerCandidateOutcome2 :=
  match candidate.executorPreflight with
  | .ok preflight => .ok (.accepted preflight)
  | .error error =>
    if StepperExecutor.isTimeDilationCandidate error then .ok (.rejected error)
    else .error (.sharedTimerParticipantPreflight participant.deviceId error)

def replayParticipant (factorNumerator factorDenominator : UInt32)
    (participant : SharedTimerParticipant2) :
    Except MotionScheduleError (TimerCandidate2 × SharedTimerCandidateOutcome2) := do
  let firstPoint ← participant.program.points.head?.okOr .metricPathMismatch
  let candidate ← buildTimerCandidate participant.program.points participant.profile
    firstPoint.steps factorNumerator factorDenominator
  let outcome ← candidateOutcome participant candidate
  pure (candidate, outcome)

/-- The first participant that rejects, with its rejection. -/
def firstRejectionOf (participants : List SharedTimerParticipant2)
    (outcomes : List SharedTimerCandidateOutcome2) : Option (DeviceId × MotionError) :=
  (participants.zip outcomes).findSome? fun pair =>
    pair.2.rejection.map fun error => (pair.1.deviceId, error)

/-- Replay every stream at one factor and report the round. -/
def replaySharedTimerRound (participants : List SharedTimerParticipant2)
    (factorNumerator factorDenominator : UInt32) (trace : SearchTrace) :
    Except MotionScheduleError (SharedTimerCandidateRound2 × SearchTrace) := do
  let replays ← participants.mapM (replayParticipant factorNumerator factorDenominator)
  let outcomes := replays.map Prod.snd
  failIf (2 ^ 32 ≤ trace.candidateRounds.toNat + 1)
    (.integerOverflow "shared timer candidate round count")
  pure
    (⟨replays.map Prod.fst, outcomes, firstRejectionOf participants outcomes⟩,
      ⟨trace.candidateRounds + 1,
        trace.candidateReports ++ [⟨factorNumerator, outcomes⟩]⟩)

/-! ## Selection -/

structure SharedTimerSelectionEvidence2 where
  selectedFactorNumerator : UInt32
  selectedFactorDenominator : UInt32
  maximumFactorNumerator : UInt32
  trace : SearchTrace
  unitOutcomes : List SharedTimerCandidateOutcome2
  predecessorOutcomes : Option (List SharedTimerCandidateOutcome2)

/-- The selected stream of one participant, beside its outcomes at the boundary factors. -/
def retimedParticipant (selection : SharedTimerSelectionEvidence2)
    (first : SharedTimerParticipant2) (firstCandidate : TimerCandidate2)
    (entry : (SharedTimerParticipant2 × TimerCandidate2) × Nat) :
    Except MotionScheduleError SharedRetimedParticipant2 := do
  let ((participant, candidate), index) := entry
  failIf (candidate.ticks ≠ firstCandidate.ticks ∨
    ExactReal.compareReals candidate.idealTotalTimeSeconds firstCandidate.idealTotalTimeSeconds ≠
      some .eq ∨
    ExactReal.compareReals candidate.scheduledTotalTimeSeconds
      firstCandidate.scheduledTotalTimeSeconds ≠ some .eq)
    (.sharedTimerGridDiverged participant.deviceId)
  let executorPreflight ← candidate.executorPreflight.mapError
    (.sharedTimerSelectionReplayRejected selection.selectedFactorNumerator
      selection.selectedFactorDenominator participant.deviceId)
  -- Indexing panics outside the outcomes.
  let unitFactorOutcome ← (selection.unitOutcomes[index]?).okOr .metricPathMismatch
  let predecessorOutcome ← (selection.predecessorOutcomes.map (·[index]?)).elim (.ok none)
    fun outcome => (outcome.okOr .metricPathMismatch).map some
  pure
    { deviceId := participant.deviceId
      configurationDigest := participant.program.configurationDigest
      capabilityDigest := participant.program.capabilityDigest
      timerTicksPerSecond := first.program.timerTicksPerSecond
      outputQuantumCycles := first.program.outputQuantumCycles
      ticks := candidate.ticks
      segments := candidate.segments
      executorPreflight, unitFactorOutcome, predecessorOutcome
      idealTotalTimeSeconds := candidate.idealTotalTimeSeconds
      scheduledTotalTimeSeconds := candidate.scheduledTotalTimeSeconds
      maximumCumulativeDelaySeconds := candidate.maximumCumulativeDelaySeconds
      maximumSegmentExtensionSeconds := candidate.maximumSegmentExtensionSeconds
      maximumOutputGridPaddingSeconds := candidate.maximumOutputGridPaddingSeconds }

def finishSharedTimerSelection (participants : List SharedTimerParticipant2)
    (selectedRound : SharedTimerCandidateRound2) (selection : SharedTimerSelectionEvidence2) :
    Except MotionScheduleError SharedTimerLatticeSchedule2 := do
  let firstCandidate ← selectedRound.candidates.head?.okOr .sharedTimerParticipantsEmpty
  let terminalTick ← firstCandidate.ticks.getLast?.okOr .metricPathMismatch
  let first ← participants.head?.okOr .sharedTimerParticipantsEmpty
  failIf (2 ^ 64 ≤ participants.length) (.integerOverflow "shared timer participant count")
  let participantReplays ← (selection.trace.candidateRounds.toUInt64.checkedMul
    (.ofNat participants.length)).okOr (.integerOverflow "shared timer participant replay count")
  let retimed ← ((participants.zip selectedRound.candidates).zipIdx).mapM
    (retimedParticipant selection first firstCandidate)
  pure
    { selectedFactorNumerator := selection.selectedFactorNumerator
      selectedFactorDenominator := selection.selectedFactorDenominator
      maximumFactorNumerator := selection.maximumFactorNumerator
      candidateRounds := selection.trace.candidateRounds
      participantReplays
      timerTicksPerSecond := first.program.timerTicksPerSecond
      outputQuantumCycles := first.program.outputQuantumCycles
      terminalTick
      idealTotalTimeSeconds := firstCandidate.idealTotalTimeSeconds
      scheduledTotalTimeSeconds := firstCandidate.scheduledTotalTimeSeconds
      candidateReports := selection.trace.candidateReports
      participants := retimed }

/-- The middle of two factors, rounded down. -/
def midpoint (rejected admitted : UInt32) : UInt32 := rejected + (admitted - rejected) / 2

/-- Halve the factors between a rejected and an admitted one until they are neighbours. The fuel is
their distance. -/
def bisect (participants : List SharedTimerParticipant2) (denominator : UInt32) :
    Nat → UInt32 → UInt32 → SearchTrace →
      Except MotionScheduleError (UInt32 × UInt32 × SearchTrace)
  | 0, rejected, admitted, trace => .ok (rejected, admitted, trace)
  | fuel + 1, rejected, admitted, trace =>
    if 1 < admitted - rejected then do
      let candidate := midpoint rejected admitted
      let (round, trace) ← replaySharedTimerRound participants candidate denominator trace
      if round.firstRejection.isSome then
        bisect participants denominator fuel candidate admitted trace
      else bisect participants denominator fuel rejected candidate trace
    else .ok (rejected, admitted, trace)

/-- Reject with what the first rejection of a round becomes. -/
def requireAccepted (round : SharedTimerCandidateRound2)
    (error : DeviceId → MotionError → MotionScheduleError) : Except MotionScheduleError Unit :=
  match round.firstRejection with
  | none => .ok ()
  | some (deviceId, rejection) => .error (error deviceId rejection)

/-- A rejected unit round leaves nothing to search when the ceiling is factor one. -/
def requireCeiling (maximum denominator : UInt32) (unitRound : SharedTimerCandidateRound2) :
    Except MotionScheduleError Unit :=
  if maximum = denominator then
    requireAccepted unitRound (.sharedTimerDilationBudgetExceeded maximum denominator)
  else .ok ()

/-- Search the factors above one once the unit round was rejected. -/
def selectDilated (participants : List SharedTimerParticipant2) (policy : TimerDilationPolicy)
    (unitRound : SharedTimerCandidateRound2) (trace : SearchTrace) :
    Except MotionScheduleError SharedTimerLatticeSchedule2 := do
  let denominator := policy.factorDenominator
  let maximum := policy.maximumFactorNumerator
  requireCeiling maximum denominator unitRound
  let (maximumRound, trace) ← replaySharedTimerRound participants maximum denominator trace
  requireAccepted maximumRound (.sharedTimerDilationBudgetExceeded maximum denominator)
  let (_, admitted, trace) ← bisect participants denominator (maximum - denominator).toNat
    denominator maximum trace
  let (selectedRound, trace) ← replaySharedTimerRound participants admitted denominator trace
  requireAccepted selectedRound (.sharedTimerSelectionReplayRejected admitted denominator)
  let (predecessorRound, trace) ← replaySharedTimerRound participants (admitted - 1) denominator
    trace
  failIf (predecessorRound.firstRejection.isNone)
    (.sharedTimerDilationMinimalityUncertified admitted denominator)
  finishSharedTimerSelection participants selectedRound
    ⟨admitted, denominator, maximum, trace, unitRound.outcomes, some predecessorRound.outcomes⟩

/-- Select the smallest lattice factor accepted by every controller. -/
def selectSharedTimerLatticeSchedule (participants : List SharedTimerParticipant2)
    (policy : TimerDilationPolicy) : Except MotionScheduleError SharedTimerLatticeSchedule2 := do
  let participants ← validateSharedTimerParticipants participants
  let denominator := policy.factorDenominator
  let (unitRound, trace) ← replaySharedTimerRound participants denominator denominator ⟨0, []⟩
  if unitRound.firstRejection.isNone then
    finishSharedTimerSelection participants unitRound
      ⟨denominator, denominator, policy.maximumFactorNumerator, trace, unitRound.outcomes, none⟩
  else selectDilated participants policy unitRound trace

end Model

end Alumina.Motion
