import Alumina.ForStd.Encoder
import Alumina.Client.Upload
import Alumina.Motion.SharedTimer

/-!
# Evidence of a shared retiming

`buildSharedTimingEvidence` commits a retimed schedule to one digest: it replays the recorded search
against the selection rule, checks every participant against its partition, and streams the search,
the streams and their preflights into a transcript that is hashed.

The digests of the planning and lowering transcripts come from the canonical schedule evidence; they
are the parameter `DerivationDigests`. SHA-256 is the parameter `Sha256`.
-/

namespace Alumina.Motion

open Codec (Encoder leBytes)
open Except (failIf)
open Alumina.Client (deviceKey)
open Alumina.Graph (DeviceId Digest Sha256)

/-! ## Transcripts -/

inductive ScheduleEvidenceError where
  | plannerMismatch | loweringMismatch | identityMismatch | emptyProgram | terminalMismatch
  | unsupportedSource (element : Nat)
  | nonRationalSource (element : Nat)
  | counterOverflow | sourceApproximationMismatch | allocationOverflow | exactRealEncoding
  | exactRealEncodingTooLarge | subtranscriptTooLarge | replayMismatch | digestMismatch
  deriving DecidableEq, Repr

def maximumExactRealEncodingBytes : Nat := 1048576

def maximumSubtranscriptBytes : Nat := 64 * 1048576

/-- The bytes streamed into the hasher. -/
abbrev Transcript := Encoder ScheduleEvidenceError Unit

namespace Transcript

/-- The whole transcript stays within its bound. -/
def checkLength (length : Nat) : Except ScheduleEvidenceError Unit := do
  failIf (2 ^ 64 ≤ length) .counterOverflow
  failIf (maximumSubtranscriptBytes < length) .subtranscriptTooLarge

def raw (bytes : List UInt8) : Transcript := Encoder.append checkLength bytes

def u8 (value : UInt8) : Transcript := raw [value]

def u16 (value : UInt16) : Transcript := raw (leBytes 2 value.toNat)

def u32 (value : UInt32) : Transcript := raw (leBytes 4 value.toNat)

def u64 (value : UInt64) : Transcript := raw (leBytes 8 value.toNat)

def i64 (value : Int64) : Transcript := u64 value.toUInt64

/-- A count that fits 32 bits. -/
def usize (value : Nat) : Transcript := do
  (failIf (2 ^ 32 ≤ value) .counterOverflow : Except ScheduleEvidenceError Unit)
  u32 (.ofNat value)

def bytes (value : List UInt8) : Transcript := do
  usize value.length
  raw value

/-- `BigUint::to_bytes_le`: zero is one byte. -/
def magnitudeBytes (value : Nat) : List UInt8 :=
  if value = 0 then [0] else (Nat.digits 256 value).map .ofNat

def rational (value : ℚ) : Transcript := do
  u8 (if value = 0 then 0 else if value < 0 then 2 else 1)
  bytes (magnitudeBytes value.num.natAbs)
  bytes (magnitudeBytes value.den)

/-- The bounded structural serialization of an exact real. -/
def encodeReal [ExactReal] (value : ExactReal.Real) :
    Except ScheduleEvidenceError (List UInt8) := do
  let encoded ← (ExactReal.serialize value).okOr .exactRealEncoding
  failIf (maximumExactRealEncodingBytes < encoded.length) .exactRealEncodingTooLarge
  pure encoded

def real [ExactReal] (value : ExactReal.Real) : Transcript := do
  let encoded ← (encodeReal value : Except ScheduleEvidenceError (List UInt8))
  bytes encoded

end Transcript

open Transcript

def pushMotionError : MotionError → Transcript
  | .axisCount => u8 0
  | .timing => u8 1
  | .state => u8 2
  | .segmentFlags => u8 3
  | .segmentOrder => u8 4
  | .emptySegment => u8 5
  | .positionOverflow axis => do u8 6; usize axis
  | .epochOverflow => u8 7
  | .arithmetic => u8 8
  | .outputGrid cycle quantumCycles => do u8 9; u64 cycle; u32 quantumCycles
  | .rate axis => do u8 10; usize axis
  | .pulseBoundary axis => do u8 11; usize axis
  | .pulseLow axis => do u8 12; usize axis
  | .directionSetup axis => do u8 13; usize axis
  | .directionHold axis => do u8 14; usize axis
  | .enableSetup axis => do u8 15; usize axis
  | .enableHold axis => do u8 16; usize axis
  | .configurationAxisCount configured expected => do u8 17; u8 configured; usize expected
  | .configurationAxisLayout axis => do u8 18; usize axis
  | .deadline scheduled observed maximumLatenessCycles => do
    u8 19; u64 scheduled; u64 observed; u32 maximumLatenessCycles
  | .outputInvariant => u8 20

def pushExecutionSegment (segment : ExecutionSegment) : Transcript := do
  u64 segment.startTick
  u64 segment.endTick
  i64 segment.deltaSteps.x
  i64 segment.deltaSteps.y
  u32 segment.flags

def pushPreflight (preflight : StepperPreflightSummary) : Transcript := do
  u64 preflight.endTick
  i64 preflight.position.x
  i64 preflight.position.y
  u64 preflight.emittedSteps.x
  u64 preflight.emittedSteps.y
  u32 preflight.segmentCount
  u64 preflight.earliestFinishCycle

def pushCandidateOutcome : SharedTimerCandidateOutcome2 → Transcript
  | .accepted preflight => do u8 1; pushPreflight preflight
  | .rejected error => do u8 0; pushMotionError error

def pushOptionalCandidateOutcome : Option SharedTimerCandidateOutcome2 → Transcript
  | some outcome => do u8 1; pushCandidateOutcome outcome
  | none => u8 0

/-! ## Participants -/

structure CanonicalDerivationDigests3 where
  sourceDigest : Digest
  metricPathDigest : Digest
  sourceApproximationDigest : Digest
  plannerTranscriptDigest : Digest
  plannerTranscriptByteLen : UInt64
  loweringTranscriptDigest : Digest
  loweringTranscriptByteLen : UInt64

structure MachineStreamProgress where
  blockDigest : Digest
  endTick : UInt64

/-- What the evidence reads of an immutable machine partition and its policy. -/
structure CanonicalMachinePartition2 where
  streamId : Graph.FixedArray UInt8 16
  capabilityDigest : Digest
  configDigest : Digest
  publication : Client.PublishedObject
  blockCount : UInt32
  localTimerHz : UInt64
  initialPosition : Axes Int64
  finalPosition : Axes Int64
  terminalProgress : MachineStreamProgress

/-- The canonical schedule evidence: certified schedules and the digests of their derivation. -/
class DerivationDigests [ExactReal] [LoweringProvenance] where
  /-- `CertifiedJerkSchedule2` -/
  Schedule : Type
  buildCanonicalDerivationDigests : Schedule → CanonicalScheduledProgram2 →
    Except ScheduleEvidenceError CanonicalDerivationDigests3

inductive SharedTimingEvidenceError where
  | participantSetMismatch
  | identityMismatch (deviceId : DeviceId)
  | terminalMismatch (deviceId : DeviceId)
  | searchTraceMismatch
  | derivation (error : ScheduleEvidenceError)
  | counterOverflow | encoding | replayMismatch | digestMismatch
  deriving DecidableEq, Repr

section Model

variable [ExactReal] [StepperExecutor] [LoweringProvenance] [DerivationDigests]

/-- Upstream exact derivation plus final immutable partition for one controller. -/
structure SharedTimingEvidenceParticipant2 where
  deviceId : DeviceId
  schedule : DerivationDigests.Schedule
  program : CanonicalScheduledProgram2
  partition : CanonicalMachinePartition2

/-- Compact outer record committing the full streamed exact retiming transcript. -/
structure CanonicalSharedTimingEvidence1 where
  encoded : List UInt8
  digest : Digest
  transcriptDigest : Digest
  transcriptByteLen : UInt64
  selectedFactorNumerator : UInt32
  selectedFactorDenominator : UInt32
  maximumFactorNumerator : UInt32
  candidateRounds : UInt32
  participantReplays : UInt64
  timerTicksPerSecond : UInt64
  outputQuantumCycles : UInt32
  terminalTick : UInt64
  participantCount : UInt32
  deriving DecidableEq

/-! ## Validation -/

/-- Neighbours in canonical order differ. -/
def distinctNeighbours : List SharedTimingEvidenceParticipant2 →
    Except SharedTimingEvidenceError Unit
  | first :: second :: rest => do
    failIf (first.deviceId = second.deviceId) .participantSetMismatch
    distinctNeighbours (second :: rest)
  | _ => .ok ()

/-- One input carries the identities and terminal facts of its retimed stream. -/
def validateParticipant (shared : SharedTimerLatticeSchedule2)
    (pair : SharedTimingEvidenceParticipant2 × SharedRetimedParticipant2) :
    Except SharedTimingEvidenceError Unit := do
  let (input, retimed) := pair
  failIf (input.deviceId ≠ retimed.deviceId ∨
    input.program.configurationDigest ≠ retimed.configurationDigest ∨
    input.program.capabilityDigest ≠ retimed.capabilityDigest ∨
    input.program.timerTicksPerSecond ≠ retimed.timerTicksPerSecond ∨
    input.program.outputQuantumCycles ≠ retimed.outputQuantumCycles ∨
    input.partition.configDigest ≠ retimed.configurationDigest ∨
    input.partition.capabilityDigest ≠ retimed.capabilityDigest)
    (.identityMismatch input.deviceId)
  let first ← input.program.points.head?.okOr (.terminalMismatch input.deviceId)
  let last ← input.program.points.getLast?.okOr (.terminalMismatch input.deviceId)
  let preflight := retimed.executorPreflight
  failIf (input.partition.initialPosition ≠ first.steps ∨
    input.partition.finalPosition ≠ last.steps ∨
    input.partition.localTimerHz ≠ shared.timerTicksPerSecond ∨
    input.partition.terminalProgress.endTick ≠ preflight.endTick ∨
    preflight.endTick ≠ shared.terminalTick ∨
    preflight.position ≠ last.steps ∨
    preflight.segmentCount.toNat ≠ retimed.segments.length)
    (.terminalMismatch input.deviceId)

def validateParticipants (shared : SharedTimerLatticeSchedule2)
    (participants : List SharedTimingEvidenceParticipant2) :
    Except SharedTimingEvidenceError Unit := do
  failIf (participants = [] ∨ participants.length ≠ shared.participants.length)
    .participantSetMismatch
  distinctNeighbours participants
  Except.forEach (validateParticipant shared) (participants.zip shared.participants)

def allAccepted (outcomes : List SharedTimerCandidateOutcome2) : Bool :=
  outcomes.all SharedTimerCandidateOutcome2.isAccepted

def acceptedPreflight :
    SharedTimerCandidateOutcome2 → Except SharedTimingEvidenceError StepperPreflightSummary
  | .accepted preflight => .ok preflight
  | .rejected _ => .error .searchTraceMismatch

/-- The recorded streams carry the outcomes of the boundary rounds. -/
def validateBoundary (unit : SharedTimerCandidateRoundReport2)
    (predecessor : Option SharedTimerCandidateRoundReport2)
    (selected : SharedTimerCandidateRoundReport2)
    (entry : SharedRetimedParticipant2 × Nat) : Except SharedTimingEvidenceError Unit := do
  let (participant, index) := entry
  failIf (some participant.unitFactorOutcome ≠ unit.outcomes[index]?) .searchTraceMismatch
  failIf (participant.predecessorOutcome ≠ predecessor.bind (·.outcomes[index]?))
    .searchTraceMismatch
  let outcome ← (selected.outcomes[index]?).okOr .searchTraceMismatch
  let preflight ← acceptedPreflight outcome
  failIf (participant.executorPreflight ≠ preflight) .searchTraceMismatch

/-- The bisection that the rounds between the boundary rounds record. -/
def replayBisection (rejected admitted : UInt32) :
    List SharedTimerCandidateRoundReport2 → Except SharedTimingEvidenceError (UInt32 × UInt32)
  | [] => .ok (rejected, admitted)
  | report :: reports => do
    let expected := midpoint rejected admitted
    failIf (report.factorNumerator ≠ expected) .searchTraceMismatch
    if allAccepted report.outcomes then replayBisection rejected expected reports
    else replayBisection expected admitted reports

/-- Every round is complete, on the lattice, and rejects for timing pressure only. -/
def validateRounds (shared : SharedTimerLatticeSchedule2) :
    Except SharedTimingEvidenceError Unit := do
  let participantCount := shared.participants.length
  failIf (shared.candidateRounds.toNat ≠ shared.candidateReports.length) .searchTraceMismatch
  failIf (2 ^ 64 ≤ participantCount) .counterOverflow
  let replays ← (shared.candidateRounds.toUInt64.checkedMul (.ofNat participantCount)).okOr
    .counterOverflow
  failIf (shared.participantReplays ≠ replays ∨
    shared.candidateReports.any fun report => report.outcomes.length ≠ participantCount)
    .searchTraceMismatch
  failIf (shared.candidateReports.any fun report =>
    report.factorNumerator < shared.selectedFactorDenominator ∨
    shared.maximumFactorNumerator < report.factorNumerator ∨
    report.outcomes.any fun outcome => outcome.rejection.any fun error =>
      !StepperExecutor.isTimeDilationCandidate error) .searchTraceMismatch

/-- The trace of a search that stopped at factor one. -/
def validateUnitTrace (shared : SharedTimerLatticeSchedule2) :
    Except SharedTimingEvidenceError Unit :=
  match shared.candidateReports with
  | [unit] => do
    failIf (unit.factorNumerator ≠ shared.selectedFactorDenominator ∨
      ¬ allAccepted unit.outcomes) .searchTraceMismatch
    Except.forEach (validateBoundary unit none unit) shared.participants.zipIdx
  | _ => .error .searchTraceMismatch

/-- The trace of a search above factor one: unit and ceiling, a bisection, the selected factor and
its predecessor. -/
def validateDilatedTrace (shared : SharedTimerLatticeSchedule2) :
    Except SharedTimingEvidenceError Unit :=
  match shared.candidateReports, shared.candidateReports.reverse with
  | unit :: maximum :: rest, predecessor :: selected :: _ => do
    failIf (rest.length < 2 ∨ unit.factorNumerator ≠ shared.selectedFactorDenominator ∨
      allAccepted unit.outcomes ∨ maximum.factorNumerator ≠ shared.maximumFactorNumerator ∨
      ¬ allAccepted maximum.outcomes) .searchTraceMismatch
    let (_, admitted) ← replayBisection shared.selectedFactorDenominator
      shared.maximumFactorNumerator rest.dropLast.dropLast
    failIf (admitted ≠ shared.selectedFactorNumerator ∨
      selected.factorNumerator ≠ shared.selectedFactorNumerator ∨
      ¬ allAccepted selected.outcomes ∨
      predecessor.factorNumerator ≠ shared.selectedFactorNumerator - 1 ∨
      allAccepted predecessor.outcomes) .searchTraceMismatch
    Except.forEach (validateBoundary unit (some predecessor) selected) shared.participants.zipIdx
  | _, _ => .error .searchTraceMismatch

/-- The recorded rounds are those of the selection rule. -/
def validateSearchTrace (shared : SharedTimerLatticeSchedule2) :
    Except SharedTimingEvidenceError Unit := do
  validateRounds shared
  if shared.selectedFactorNumerator = shared.selectedFactorDenominator then
    validateUnitTrace shared
  else validateDilatedTrace shared

/-! ## Evidence -/

/-- `b"ALMSYN01"` -/
def evidenceMagic : List UInt8 := [65, 76, 77, 83, 89, 78, 48, 49]

def evidenceVersion : UInt16 := 1

/-- `b"ALMSRT01"` -/
def transcriptMagic : List UInt8 := [65, 76, 77, 83, 82, 84, 48, 49]

def transcriptVersion : UInt16 := 1

def exactRealFormatVersion : UInt16 := 1

def axesCount : UInt16 := 2

/-- Common event grid, complete candidate replay, shared minimality and partition replay. -/
def certificationFlags : UInt32 := 0b1111

def evidenceWireBytes : Nat := 104

def pushReport (report : SharedTimerCandidateRoundReport2) : Transcript := do
  u32 report.factorNumerator
  usize report.outcomes.length
  report.outcomes.forM pushCandidateOutcome

def pushDerivation (derivation : CanonicalDerivationDigests3) : Transcript := do
  raw derivation.sourceDigest.val
  raw derivation.metricPathDigest.val
  raw derivation.sourceApproximationDigest.val
  raw derivation.plannerTranscriptDigest.val
  u64 derivation.plannerTranscriptByteLen
  raw derivation.loweringTranscriptDigest.val
  u64 derivation.loweringTranscriptByteLen

def pushPartition (partition : CanonicalMachinePartition2) : Transcript := do
  raw partition.streamId.val
  raw partition.publication.object.content.digest.val
  raw partition.publication.manifest.digest.val
  u64 partition.publication.object.byteLen
  u32 partition.blockCount
  u64 partition.localTimerHz
  i64 partition.initialPosition.x
  i64 partition.initialPosition.y
  i64 partition.finalPosition.x
  i64 partition.finalPosition.y
  raw partition.terminalProgress.blockDigest.val
  u64 partition.terminalProgress.endTick

def pushRetimed (retimed : SharedRetimedParticipant2) : Transcript := do
  pushCandidateOutcome retimed.unitFactorOutcome
  pushOptionalCandidateOutcome retimed.predecessorOutcome
  real retimed.idealTotalTimeSeconds
  real retimed.scheduledTotalTimeSeconds
  real retimed.maximumCumulativeDelaySeconds
  real retimed.maximumSegmentExtensionSeconds
  real retimed.maximumOutputGridPaddingSeconds
  usize retimed.ticks.length
  retimed.ticks.forM u64
  usize retimed.segments.length
  retimed.segments.forM pushExecutionSegment
  pushPreflight retimed.executorPreflight

def pushParticipant (pair : SharedTimingEvidenceParticipant2 × SharedRetimedParticipant2) :
    Transcript := do
  let (input, retimed) := pair
  let derivation ← (DerivationDigests.buildCanonicalDerivationDigests input.schedule
    input.program : Except ScheduleEvidenceError CanonicalDerivationDigests3)
  raw input.deviceId.val
  raw retimed.configurationDigest.val
  raw retimed.capabilityDigest.val
  pushDerivation derivation
  pushPartition input.partition
  pushRetimed retimed

/-- The exact selected common time-dilation factor. -/
def SharedTimerLatticeSchedule2.selectedFactor (shared : SharedTimerLatticeSchedule2) : ℚ :=
  (shared.selectedFactorNumerator.toNat : ℚ) / shared.selectedFactorDenominator.toNat

def pushTranscriptHeader (shared : SharedTimerLatticeSchedule2) : Transcript := do
  raw transcriptMagic
  u16 transcriptVersion
  u16 exactRealFormatVersion
  u16 axesCount
  u16 0
  u32 certificationFlags
  u32 shared.selectedFactorNumerator
  u32 shared.selectedFactorDenominator
  u32 shared.maximumFactorNumerator
  rational shared.selectedFactor
  u32 shared.candidateRounds
  u64 shared.participantReplays
  u64 shared.timerTicksPerSecond
  u32 shared.outputQuantumCycles
  u64 shared.terminalTick
  real shared.idealTotalTimeSeconds
  real shared.scheduledTotalTimeSeconds

/-- The full streamed transcript of a schedule and its participants in canonical order. -/
def pushTranscript (shared : SharedTimerLatticeSchedule2)
    (participants : List SharedTimingEvidenceParticipant2) : Transcript := do
  pushTranscriptHeader shared
  usize participants.length
  usize shared.candidateReports.length
  shared.candidateReports.forM pushReport
  (participants.zip shared.participants).forM pushParticipant

/-- The bytes the transcript hashes to its digest. -/
def sharedTimingTranscript (shared : SharedTimerLatticeSchedule2)
    (participants : List SharedTimingEvidenceParticipant2) :
    Except SharedTimingEvidenceError (List UInt8) := do
  let participants := Table.sortByKey (fun participant => deviceKey participant.deviceId)
    participants
  validateParticipants shared participants
  validateSearchTrace shared
  let ((), transcript) ← ((pushTranscript shared participants) []).mapError .derivation
  pure transcript

/-- Build a deterministic retiming record from validated participants and a replayed search. -/
def buildSharedTimingEvidence [Sha256] (shared : SharedTimerLatticeSchedule2)
    (participants : List SharedTimingEvidenceParticipant2) :
    Except SharedTimingEvidenceError CanonicalSharedTimingEvidence1 := do
  let transcript ← sharedTimingTranscript shared participants
  let transcriptDigest := Sha256.sha256 transcript
  failIf (2 ^ 32 ≤ participants.length) .counterOverflow
  let participantCount := UInt32.ofNat participants.length
  let encoded := evidenceMagic ++ leBytes 2 evidenceVersion.toNat ++ leBytes 2 axesCount.toNat ++
    leBytes 4 certificationFlags.toNat ++ transcriptDigest.val ++ leBytes 8 transcript.length ++
    leBytes 4 shared.selectedFactorNumerator.toNat ++
    leBytes 4 shared.selectedFactorDenominator.toNat ++
    leBytes 4 shared.maximumFactorNumerator.toNat ++ leBytes 4 shared.candidateRounds.toNat ++
    leBytes 8 shared.participantReplays.toNat ++ leBytes 8 shared.timerTicksPerSecond.toNat ++
    leBytes 8 shared.terminalTick.toNat ++ leBytes 4 shared.outputQuantumCycles.toNat ++
    leBytes 4 participantCount.toNat
  failIf (encoded.length ≠ evidenceWireBytes) .encoding
  pure
    { encoded
      digest := Sha256.sha256 encoded
      transcriptDigest
      transcriptByteLen := .ofNat transcript.length
      selectedFactorNumerator := shared.selectedFactorNumerator
      selectedFactorDenominator := shared.selectedFactorDenominator
      maximumFactorNumerator := shared.maximumFactorNumerator
      candidateRounds := shared.candidateRounds
      participantReplays := shared.participantReplays
      timerTicksPerSecond := shared.timerTicksPerSecond
      outputQuantumCycles := shared.outputQuantumCycles
      terminalTick := shared.terminalTick
      participantCount }

end Model

end Alumina.Motion
