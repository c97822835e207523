import Alumina.Client.Upload
import Alumina.Motion.ServoMotion
import Alumina.Motion.SharedTimer

/-!
# Partitioning into execution blocks

A stream of canonical records is cut into blocks, each filled with as many records as its capacity
and its tick horizon allow. The blocks are chained by their digests, replayed through the stream
validator of their record family, and stored as one content-addressed object.

Block encoding, block decoding and the stream validators belong to the machine IR, a library outside
this code, and are the parameters `MachineBlocks` and `RecordFamily`. The manifest hasher of the
storage library is `ManifestHashing`. Errors of vector allocation are left out.
-/

namespace Alumina.Partition

open Except (failIf)
open Alumina.Client (CacheLimits ContentId PublishedObject StorageWire StoredObject UploadId
  UploadPlan contentOf)
open Alumina.Graph (Digest Sha256)
open Alumina.Motion (Axes ExecutionSegment FiniteDifferenceAxis ServoFiniteDifferenceSegment
  ServoFiniteDifferenceState ServoSegmentLimits)

/-! ## The machine IR -/

/-- One record of a stream and the ticks that it occupies. -/
class TimedRecord (Record : Type) where
  startTick : Record → Nat
  endTick : Record → Nat

export TimedRecord (startTick endTick)

instance : TimedRecord ExecutionSegment where
  startTick segment := segment.startTick.toNat
  endTick segment := segment.endTick.toNat

/-- A direct recurrence record of a two-axis stream. -/
structure FiniteDifferenceSegment where
  startTick : UInt64
  endTick : UInt64
  updatePeriodTicks : UInt32
  updateCount : UInt32
  axes : Axes FiniteDifferenceAxis
  flags : UInt32
  deriving DecidableEq

instance : TimedRecord FiniteDifferenceSegment where
  startTick segment := segment.startTick.toNat
  endTick segment := segment.endTick.toNat

instance {axes : Nat} : TimedRecord (ServoFiniteDifferenceSegment axes) where
  startTick segment := segment.startTick
  endTick segment := segment.endTick

structure ValidationLimits where
  maximumSegmentTicks : UInt64
  maximumStepsPerSegment : UInt64
  deriving DecidableEq

structure BlockValidationLimits where
  maximumBlockTicks : UInt64
  segment : ValidationLimits
  deriving DecidableEq

structure FiniteDifferenceValidationLimits where
  maximumSegmentTicks : UInt64
  maximumUpdateCount : UInt32
  requiredUpdatePeriodTicks : UInt32
  maximumStepsPerSegment : UInt64
  maximumAbsoluteFirstDifference : Axes UInt64

structure FiniteDifferenceBlockValidationLimits where
  maximumBlockTicks : UInt64
  segment : FiniteDifferenceValidationLimits

structure ServoBlockValidationLimits (axes : Nat) where
  maximumBlockTicks : UInt64
  maximumSegmentTicks : UInt64
  maximumUpdateCount : UInt32
  requiredUpdatePeriodTicks : UInt32
  segment : ServoSegmentLimits axes

/-- The facts that every block of a stream repeats. -/
structure StreamIdentity where
  streamId : Vector UInt8 16
  capabilityDigest : Digest
  configDigest : Digest

structure BlockHeader where
  startTick : UInt64
  endTick : UInt64
  blockDigest : Digest

/-- What the first block of a stream must show. -/
structure BlockExpectation where
  identity : StreamIdentity
  sequence : UInt32
  startTick : UInt64
  previousDigest : Digest

/-- Execution blocks of 512 bytes. -/
class MachineBlocks where
  BlockError : Type
  payloadLength : BlockError
  sequenceOverflow : BlockError
  blockTooLong (duration maximum : UInt64) : BlockError
  /-- `FINITE_DIFFERENCE_ONE_STEP` -/
  finiteDifferenceOneStep : Int64
  newStreamId : Vector UInt8 16 → Except BlockError (Vector UInt8 16)
  ExecutionBlock : Type
  header : ExecutionBlock → BlockHeader
  asBytes : ExecutionBlock → Vector UInt8 512
  decode : Vector UInt8 512 → Except BlockError ExecutionBlock

/-- One family of records: how many fit a block, how a block encodes them, and how a stream of
blocks is replayed. -/
class RecordFamily [MachineBlocks] (Record : Type) (Start Limits Progress : outParam Type) where
  maximumPerBlock : Except MachineBlocks.BlockError Nat
  encode : StreamIdentity → UInt32 → Digest → List Record →
    Except MachineBlocks.BlockError MachineBlocks.ExecutionBlock
  Validator : Type
  newValidator : UInt32 → BlockExpectation → Start → Limits →
    Except MachineBlocks.BlockError Validator
  accept : Validator → MachineBlocks.ExecutionBlock → Except MachineBlocks.BlockError Validator
  finish : Validator → Except MachineBlocks.BlockError Progress

/-- The tick horizon that the limits of a family allow to one block. -/
class HorizonLimits (Limits : Type) where
  maximumBlockTicks : Limits → UInt64

instance : HorizonLimits BlockValidationLimits := ⟨(·.maximumBlockTicks)⟩

instance : HorizonLimits FiniteDifferenceBlockValidationLimits := ⟨(·.maximumBlockTicks)⟩

instance {axes : Nat} : HorizonLimits (ServoBlockValidationLimits axes) := ⟨(·.maximumBlockTicks)⟩

/-- What the packagers rely on: a header shows the ticks of its records, the bytes of a block decode
to it, and a validator accepts no block that is longer than its limits allow. -/
class LawfulRecords [MachineBlocks] (Record : Type) [TimedRecord Record]
    {Start Limits Progress : outParam Type} [HorizonLimits Limits]
    [family : RecordFamily Record Start Limits Progress] where
  maximumBlockTicks : family.Validator → UInt64
  header_ok {identity : StreamIdentity} {sequence : UInt32} {previous : Digest} {record : Record}
    {rest : List Record} {block : MachineBlocks.ExecutionBlock} :
    family.encode identity sequence previous (record :: rest) = .ok block →
      (MachineBlocks.header block).startTick.toNat = startTick record ∧
        (MachineBlocks.header block).endTick.toNat = endTick (rest.getLastD record)
  decode_ok {identity : StreamIdentity} {sequence : UInt32} {previous : Digest}
    {records : List Record} {block : MachineBlocks.ExecutionBlock} :
    family.encode identity sequence previous records = .ok block →
      MachineBlocks.decode (MachineBlocks.asBytes block) = .ok block
  newValidator_ok {count : UInt32} {expectation : BlockExpectation} {start : Start}
    {limits : Limits} {validator : family.Validator} :
    family.newValidator count expectation start limits = .ok validator →
      maximumBlockTicks validator = HorizonLimits.maximumBlockTicks limits
  accept_ok {validator next : family.Validator} {block : MachineBlocks.ExecutionBlock} :
    family.accept validator block = .ok next →
      (MachineBlocks.header block).endTick.toNat - (MachineBlocks.header block).startTick.toNat ≤
          (maximumBlockTicks validator).toNat ∧
        maximumBlockTicks next = maximumBlockTicks validator

/-- What replaying a motion stream ends with. -/
structure MotionStreamProgress where
  endTick : UInt64
  position : Axes Int64
  blockDigest : Digest

structure FiniteDifferenceStreamProgress where
  endTick : UInt64
  position : Axes Int64
  finitePosition : Axes Int64
  updateCount : UInt64
  blockDigest : Digest

structure ServoStreamProgress (axes : Nat) where
  endTick : UInt64
  terminalState : ServoFiniteDifferenceState axes
  updateCount : UInt64
  blockDigest : Digest

abbrev MotionRecords [MachineBlocks] :=
  RecordFamily ExecutionSegment Unit BlockValidationLimits MotionStreamProgress

abbrev FiniteDifferenceRecords [MachineBlocks] :=
  RecordFamily FiniteDifferenceSegment Unit FiniteDifferenceBlockValidationLimits
    FiniteDifferenceStreamProgress

abbrev ServoRecords [MachineBlocks] (axes : Nat) :=
  RecordFamily (ServoFiniteDifferenceSegment axes) (Vector Int64 axes)
    (ServoBlockValidationLimits axes) (ServoStreamProgress axes)

/-- `ManifestHasher` -/
class ManifestHashing [StorageWire] where
  Hasher : Type
  new : StoredObject → UInt32 → UInt32 → CacheLimits → Except StorageWire.StorageError Hasher
  push : Hasher → UInt32 → ContentId → UInt32 → Except StorageWire.StorageError Hasher
  finalize : Hasher → Except StorageWire.StorageError ContentId

/-! ## Policies -/

section Model

variable [MachineBlocks] [StorageWire]

/-- The rejections of packaging. `unfinished` is none of the source: it says that a loop did not end
within the passes that it was given. -/
inductive MachinePartitionError where
  | invalidPolicy (reason : String)
  | programIdentityMismatch
  | emptyProgram
  | programMustStartAtZero
  | programTiming (segment : Nat)
  | counterOverflow
  | terminalMismatch
  | machine (source : MachineBlocks.BlockError)
  | storage (source : StorageWire.StorageError)
  | unfinished

abbrev MachinePartitionResult := Except MachinePartitionError

/-- Identities and limits of one partition. -/
structure MachinePartitionPolicy2 where
  streamId : Vector UInt8 16
  capabilityDigest : Digest
  configDigest : Digest
  blockLimits : BlockValidationLimits
  uploadId : UploadId
  storageChunkBytes : UInt32
  cacheLimits : CacheLimits

/-- `MachinePartitionPolicy2::try_new` -/
def MachinePartitionPolicy2.tryNew (streamId : Vector UInt8 16)
    (capabilityDigest configDigest : Digest) (blockLimits : BlockValidationLimits)
    (uploadId : UploadId) (storageChunkBytes : UInt32) (cacheLimits : CacheLimits) :
    MachinePartitionResult MachinePartitionPolicy2 := do
  let streamId ← (MachineBlocks.newStreamId streamId).mapError .machine
  failIf capabilityDigest.isZero (.invalidPolicy "capability digest must be nonzero")
  failIf configDigest.isZero (.invalidPolicy "configuration digest must be nonzero")
  failIf (blockLimits.maximumBlockTicks = 0 ∨ blockLimits.segment.maximumSegmentTicks = 0 ∨
      blockLimits.segment.maximumStepsPerSegment = 0)
    (.invalidPolicy "all block and segment limits must be nonzero")
  failIf (uploadId.get = 0) (.invalidPolicy "upload identity must be nonzero")
  failIf (cacheLimits.maximumObjectBytes = 0 ∨ cacheLimits.maximumChunkBytes = 0 ∨
      cacheLimits.maximumChunks = 0)
    (.invalidPolicy "all cache limits must be nonzero")
  failIf (storageChunkBytes = 0 ∨ cacheLimits.maximumChunkBytes < storageChunkBytes)
    (.invalidPolicy "storage chunk bytes exceed the cache policy")
  pure ⟨streamId, capabilityDigest, configDigest, blockLimits, uploadId, storageChunkBytes,
    cacheLimits⟩

def MachinePartitionPolicy2.identity (policy : MachinePartitionPolicy2) : StreamIdentity :=
  ⟨policy.streamId, policy.capabilityDigest, policy.configDigest⟩

/-! ## Cutting -/

section Cutting

variable {Record : Type} [TimedRecord Record]

/-- The horizon of a block that would end with a record: `end_tick - block_start_tick`. -/
def candidateTicks (blockStartTick : Nat) (segment : Nat) (record : Record) :
    MachinePartitionResult Nat := do
  failIf (endTick record < blockStartTick) (.programTiming segment)
  pure (endTick record - blockStartTick)

/-- The inner loop of the motion and the direct packager over the records from the cursor on: how
many of them the block takes. A first record that is too long is taken alone. -/
def recordsInBlock (maximumPerBlock maximumBlockTicks blockStartTick cursor : Nat) :
    Nat → List Record → MachinePartitionResult Nat
  | taken, [] => .ok taken
  | taken, record :: rest =>
    if taken < maximumPerBlock then do
      let ticks ← candidateTicks blockStartTick (cursor + taken) record
      if taken > 0 ∧ ticks > maximumBlockTicks then .ok taken
      else if ticks > maximumBlockTicks then .ok (taken + 1)
      else recordsInBlock maximumPerBlock maximumBlockTicks blockStartTick cursor (taken + 1) rest
    else .ok taken

/-- The inner loop of the servo packager. A first record that is too long is refused. -/
def servoRecordsInBlock (maximumPerBlock : Nat) (maximumBlockTicks : UInt64)
    (blockStartTick cursor : Nat) : Nat → List Record → MachinePartitionResult Nat
  | taken, [] => .ok taken
  | taken, record :: rest =>
    if taken < maximumPerBlock then do
      let ticks ← candidateTicks blockStartTick (cursor + taken) record
      if taken > 0 ∧ ticks > maximumBlockTicks.toNat then .ok taken
      else if ticks > maximumBlockTicks.toNat then
        .error (.machine (MachineBlocks.blockTooLong (.ofNat ticks) maximumBlockTicks))
      else
        servoRecordsInBlock maximumPerBlock maximumBlockTicks blockStartTick cursor (taken + 1) rest
    else .ok taken

/-- What the packaging loop carries from block to block. The bytes are kept in blocks. -/
structure PackagedBlocks where
  cursor : Nat
  bytes : List (Vector UInt8 512)
  sequence : UInt32
  previousDigest : Digest
  maximumObservedBlockTicks : UInt64

def PackagedBlocks.empty : PackagedBlocks := ⟨0, [], 0, .replicate 32 0, 0⟩

variable {Start Limits Progress : Type} [RecordFamily Record Start Limits Progress]

/-- Encode the records of one block and chain it to the blocks before. -/
def encodeBlock (identity : StreamIdentity) (state : PackagedBlocks) (records : List Record) :
    MachinePartitionResult PackagedBlocks := do
  let block ← (RecordFamily.encode identity state.sequence state.previousDigest records).mapError
    .machine
  let header := MachineBlocks.header block
  failIf (header.endTick < header.startTick) (.programTiming state.cursor)
  let blockTicks := header.endTick - header.startTick
  failIf (state.sequence.toNat + 1 = 2 ^ 32) (.machine MachineBlocks.sequenceOverflow)
  pure
    { cursor := state.cursor + records.length
      bytes := state.bytes ++ [MachineBlocks.asBytes block]
      sequence := state.sequence + 1
      previousDigest := header.blockDigest
      maximumObservedBlockTicks := max state.maximumObservedBlockTicks blockTicks }

/-- `while cursor < segments.len()`, for at most the given number of blocks, over the records from
the cursor on. The first argument is the inner loop. -/
def packageLoop (inBlock : Nat → Nat → Nat → List Record → MachinePartitionResult Nat)
    (identity : StreamIdentity) :
    Nat → PackagedBlocks → List Record → MachinePartitionResult PackagedBlocks
  | _, state, [] => .ok state
  | 0, _, _ :: _ => .error .unfinished
  | passes + 1, state, record :: rest => do
    let taken ← inBlock (startTick record) state.cursor 0 (record :: rest)
    let next ← encodeBlock identity state ((record :: rest).take taken)
    packageLoop inBlock identity passes next ((record :: rest).drop taken)

/-- The loop of the motion and the direct packager. -/
def packageBlocks (maximumPerBlock : Nat) (maximumBlockTicks : UInt64) (identity : StreamIdentity)
    (records : List Record) : MachinePartitionResult PackagedBlocks :=
  packageLoop (recordsInBlock maximumPerBlock maximumBlockTicks.toNat) identity records.length .empty
    records

/-- The loop of the servo packager. -/
def packageServoBlocks (maximumPerBlock : Nat) (maximumBlockTicks : UInt64)
    (identity : StreamIdentity) (records : List Record) : MachinePartitionResult PackagedBlocks :=
  packageLoop (servoRecordsInBlock maximumPerBlock maximumBlockTicks) identity records.length .empty
    records

end Cutting

/-- Decode one block and let the validator accept it. -/
def replayBlock {Record Start Limits Progress : Type}
    [family : RecordFamily Record Start Limits Progress] (validator : family.Validator)
    (encoded : Vector UInt8 512) : MachinePartitionResult family.Validator := do
  let block ← (MachineBlocks.decode encoded).mapError .machine
  (family.accept validator block).mapError .machine

/-- Replay a stream of blocks through the validator of its family. -/
def replayBlocks (Record : Type) {Start Limits Progress : Type}
    [family : RecordFamily Record Start Limits Progress] (policy : MachinePartitionPolicy2)
    (start : Start) (limits : Limits) (packaged : PackagedBlocks) :
    MachinePartitionResult Progress := do
  let validator ← (family.newValidator packaged.sequence
    ⟨policy.identity, 0, 0, .replicate 32 0⟩ start limits).mapError .machine
  let validator ← packaged.bytes.foldlM replayBlock validator
  (family.finish validator).mapError .machine

/-! ## Storage -/

/-- One content-addressed slice of the partition object. -/
structure CanonicalPartitionChunk where
  offset : Nat
  byteLen : UInt32
  content : ContentId

structure PartitionStorage where
  bytes : List UInt8
  chunks : List CanonicalPartitionChunk
  uploadPlan : UploadPlan
  publication : PublishedObject

section Storage

variable [ManifestHashing] [Sha256]

/-- The loop over the chunks: their hashes enter the manifest in order. -/
def pushChunks (manifest : ManifestHashing.Hasher) (index offset : Nat) :
    List (List UInt8) →
    MachinePartitionResult (ManifestHashing.Hasher × List CanonicalPartitionChunk)
  | [] => .ok (manifest, [])
  | chunk :: rest => do
    failIf (2 ^ 32 ≤ index) .counterOverflow
    failIf (2 ^ 32 ≤ chunk.length) .counterOverflow
    let byteLen := UInt32.ofNat chunk.length
    let content := contentOf chunk
    let manifest ← (ManifestHashing.push manifest (.ofNat index) content byteLen).mapError .storage
    let (manifest, chunks) ← pushChunks manifest (index + 1) (offset + chunk.length) rest
    pure (manifest, ⟨offset, byteLen, content⟩ :: chunks)

def buildPartitionStorage (bytes : List UInt8) (policy : MachinePartitionPolicy2) :
    MachinePartitionResult PartitionStorage := do
  failIf (2 ^ 64 ≤ bytes.length) .counterOverflow
  let object : StoredObject := ⟨.machineJobPartition, contentOf bytes, .ofNat bytes.length⟩
  let chunkBytes := policy.storageChunkBytes.toNat
  let chunkCount := (bytes.length + chunkBytes - 1) / chunkBytes
  failIf (2 ^ 32 ≤ chunkCount) .counterOverflow
  let manifest ← (ManifestHashing.new object policy.storageChunkBytes (.ofNat chunkCount)
    policy.cacheLimits).mapError .storage
  let (manifest, chunks) ← pushChunks manifest 0 0 (bytes.toChunks chunkBytes)
  let manifest ← (ManifestHashing.finalize manifest).mapError .storage
  let uploadPlan : UploadPlan :=
    ⟨policy.uploadId, object, manifest, policy.storageChunkBytes, .ofNat chunkCount⟩
  (StorageWire.validatePlan uploadPlan policy.cacheLimits).mapError .storage
  pure ⟨bytes, chunks, uploadPlan, ⟨object, manifest⟩⟩

/-! ## Packaging -/

/-- `i64::checked_add` -/
def checkedPosition (initial displacement : Int64) : MachinePartitionResult Int64 := do
  let position := initial.toInt + displacement.toInt
  failIf (position < -(2 ^ 63) ∨ 2 ^ 63 ≤ position) .terminalMismatch
  pure (.ofInt position)

inductive ExecutionKind where
  | motion | finiteDifference | servoFiniteDifference
  deriving DecidableEq, Repr

/-- The cached artifact of one two-axis stream. -/
structure CanonicalMachinePartition2 where
  policy : MachinePartitionPolicy2
  storage : PartitionStorage
  blockCount : UInt32
  maximumSegmentsPerBlock : Nat
  maximumObservedBlockTicks : UInt64
  localTimerHz : UInt64
  initialPosition : Axes Int64
  finalPosition : Axes Int64
  executionKind : ExecutionKind
  maximumDenseUpdates : UInt32
  denseUpdatePeriodTicks : UInt32
  terminalFinitePosition : Option (Axes Int64)
  finiteDifferenceUpdateCount : Option UInt64

def packageCanonicalSegments [MotionRecords] (segments : List ExecutionSegment)
    (initialPosition expectedFinal : Axes Int64) (localTimerHz : UInt64)
    (policy : MachinePartitionPolicy2) : MachinePartitionResult CanonicalMachinePartition2 := do
  let first ← segments.head?.okOr .emptyProgram
  failIf (first.startTick ≠ 0) .programMustStartAtZero
  let maximumSegmentsPerBlock ←
    (RecordFamily.maximumPerBlock ExecutionSegment).mapError .machine
  failIf (maximumSegmentsPerBlock = 0) (.machine MachineBlocks.payloadLength)
  let packaged ← packageBlocks maximumSegmentsPerBlock policy.blockLimits.maximumBlockTicks
    policy.identity segments
  let progress ← replayBlocks ExecutionSegment policy () policy.blockLimits packaged
  let x ← checkedPosition initialPosition.x progress.position.x
  let y ← checkedPosition initialPosition.y progress.position.y
  let last ← segments.getLast?.okOr .emptyProgram
  failIf (⟨x, y⟩ ≠ expectedFinal ∨ progress.endTick ≠ last.endTick ∨
    progress.blockDigest ≠ packaged.previousDigest) .terminalMismatch
  let storage ← buildPartitionStorage (packaged.bytes.flatMap Vector.toList) policy
  pure
    { policy, storage
      blockCount := packaged.sequence
      maximumSegmentsPerBlock
      maximumObservedBlockTicks := packaged.maximumObservedBlockTicks
      localTimerHz, initialPosition
      finalPosition := ⟨x, y⟩
      executionKind := .motion
      maximumDenseUpdates := 0
      denseUpdatePeriodTicks := 0
      terminalFinitePosition := none
      finiteDifferenceUpdateCount := none }

def packageCanonicalFiniteDifferenceSegments [FiniteDifferenceRecords]
    (segments : List FiniteDifferenceSegment)
    (initialPosition expectedFinal expectedTerminalFinitePosition : Axes Int64)
    (expectedUpdateCount localTimerHz : UInt64) (policy : MachinePartitionPolicy2) :
    MachinePartitionResult CanonicalMachinePartition2 := do
  let first ← segments.head?.okOr .emptyProgram
  failIf (first.startTick ≠ 0 ∨ first.axes.x.initialPosition ≠ 0 ∨
    first.axes.y.initialPosition ≠ 0) .programMustStartAtZero
  let maximumSegmentsPerBlock ←
    (RecordFamily.maximumPerBlock FiniteDifferenceSegment).mapError .machine
  failIf (maximumSegmentsPerBlock = 0) (.machine MachineBlocks.payloadLength)
  let maximumDenseUpdates ← (segments.map (·.updateCount)).max?.okOr .emptyProgram
  let packaged ← packageBlocks maximumSegmentsPerBlock policy.blockLimits.maximumBlockTicks
    policy.identity segments
  let maximumDifference : UInt64 :=
    .ofNat (MachineBlocks.finiteDifferenceOneStep.toInt.natAbs - 1)
  let limits : FiniteDifferenceBlockValidationLimits :=
    { maximumBlockTicks := policy.blockLimits.maximumBlockTicks
      segment :=
        { maximumSegmentTicks := policy.blockLimits.segment.maximumSegmentTicks
          maximumUpdateCount := maximumDenseUpdates
          requiredUpdatePeriodTicks := first.updatePeriodTicks
          maximumStepsPerSegment := policy.blockLimits.segment.maximumStepsPerSegment
          maximumAbsoluteFirstDifference := ⟨maximumDifference, maximumDifference⟩ } }
  let progress ← replayBlocks FiniteDifferenceSegment policy () limits packaged
  let x ← checkedPosition initialPosition.x progress.position.x
  let y ← checkedPosition initialPosition.y progress.position.y
  let last ← segments.getLast?.okOr .emptyProgram
  failIf (⟨x, y⟩ ≠ expectedFinal ∨ progress.endTick ≠ last.endTick ∨
    progress.finitePosition ≠ expectedTerminalFinitePosition ∨
    progress.updateCount ≠ expectedUpdateCount ∨
    progress.blockDigest ≠ packaged.previousDigest) .terminalMismatch
  let storage ← buildPartitionStorage (packaged.bytes.flatMap Vector.toList) policy
  pure
    { policy, storage
      blockCount := packaged.sequence
      maximumSegmentsPerBlock
      maximumObservedBlockTicks := packaged.maximumObservedBlockTicks
      localTimerHz, initialPosition
      finalPosition := ⟨x, y⟩
      executionKind := .finiteDifference
      maximumDenseUpdates
      denseUpdatePeriodTicks := first.updatePeriodTicks
      terminalFinitePosition := some progress.finitePosition
      finiteDifferenceUpdateCount := some progress.updateCount }

/-! ## Servo packaging -/

section Servo

variable {axes : Nat}

/-- `CachedServoAdmissionProfile`, with the identity and the period of its setpoints. -/
structure CachedServoAdmissionProfile (axes : Nat) where
  limits : ServoBlockValidationLimits axes
  setpointConfigurationDigest : Digest
  setpointUpdatePeriodTicks : UInt32

structure CanonicalServoFiniteDifferenceProgram (axes : Nat) where
  capabilityDigest : Digest
  configurationDigest : Digest
  timerTicksPerSecond : UInt64
  admission : CachedServoAdmissionProfile axes
  initialPosition : Vector Int64 axes
  finalState : ServoFiniteDifferenceState axes
  records : List (ServoFiniteDifferenceSegment axes)
  totalUpdateCount : UInt64

structure CanonicalServoMachinePartition (axes : Nat) where
  policy : MachinePartitionPolicy2
  storage : PartitionStorage
  blockCount : UInt32
  maximumSegmentsPerBlock : Nat
  maximumObservedBlockTicks : UInt64
  localTimerHz : UInt64
  initialPosition : Vector Int64 axes
  terminalState : ServoFiniteDifferenceState axes
  maximumDenseUpdates : UInt32
  denseUpdatePeriodTicks : UInt32
  totalUpdateCount : UInt64

def packageCanonicalServoProgram [ServoRecords axes]
    (program : CanonicalServoFiniteDifferenceProgram axes) (policy : MachinePartitionPolicy2) :
    MachinePartitionResult (CanonicalServoMachinePartition axes) := do
  failIf (program.configurationDigest ≠ policy.configDigest ∨
    program.capabilityDigest ≠ policy.capabilityDigest) .programIdentityMismatch
  let admission := program.admission
  let maximumPositionDelta ← admission.limits.segment.maximumPositionDeltaBits.toList.max?.okOr
    (.invalidPolicy "servo axis vector must be nonempty")
  failIf (admission.limits.maximumBlockTicks ≠ policy.blockLimits.maximumBlockTicks ∨
      admission.limits.maximumSegmentTicks ≠ policy.blockLimits.segment.maximumSegmentTicks ∨
      maximumPositionDelta ≠ policy.blockLimits.segment.maximumStepsPerSegment ∨
      admission.setpointConfigurationDigest ≠ policy.configDigest ∨
      admission.setpointUpdatePeriodTicks ≠ admission.limits.requiredUpdatePeriodTicks)
    (.invalidPolicy "servo partition limits must exactly match the FOC admission profile")
  let first ← program.records.head?.okOr .emptyProgram
  failIf (first.startTick ≠ 0) .programMustStartAtZero
  let maximumSegmentsPerBlock ←
    (RecordFamily.maximumPerBlock (ServoFiniteDifferenceSegment axes)).mapError .machine
  failIf (maximumSegmentsPerBlock = 0) (.machine MachineBlocks.payloadLength)
  let packaged ← packageServoBlocks maximumSegmentsPerBlock admission.limits.maximumBlockTicks
    policy.identity program.records
  let progress ← replayBlocks (ServoFiniteDifferenceSegment axes) policy program.initialPosition
    admission.limits packaged
  let last ← program.records.getLast?.okOr .emptyProgram
  failIf (progress.endTick.toNat ≠ last.endTick ∨ progress.terminalState ≠ program.finalState ∨
    progress.updateCount ≠ program.totalUpdateCount ∨
    progress.blockDigest ≠ packaged.previousDigest) .terminalMismatch
  let storage ← buildPartitionStorage (packaged.bytes.flatMap Vector.toList) policy
  pure
    { policy, storage
      blockCount := packaged.sequence
      maximumSegmentsPerBlock
      maximumObservedBlockTicks := packaged.maximumObservedBlockTicks
      localTimerHz := program.timerTicksPerSecond
      initialPosition := program.initialPosition
      terminalState := progress.terminalState
      maximumDenseUpdates := admission.limits.maximumUpdateCount
      denseUpdatePeriodTicks := admission.limits.requiredUpdatePeriodTicks
      totalUpdateCount := progress.updateCount }

end Servo

end Storage

end Model

end Alumina.Partition
