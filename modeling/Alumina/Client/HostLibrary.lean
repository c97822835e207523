import Mathlib
import Alumina.Client.Clock
import Alumina.Client.Schedule
import Alumina.Client.Upload
import Alumina.Graph.HostLibrary
import Alumina.Spec.WirePrimitives

/-!
# Concrete storage and job codecs

The model takes the storage crate and the job crate as parameters. This file supplies
executable codecs of fixed-width little-endian fields, with the round trip of each storage
body. Concrete runs use them; no result about all uploads or all schedules does.
-/

namespace Alumina.Client.HostLibrary

open Codec
open Alumina.Graph (Digest WireDecoder GraphWireError decodeArray decodeU8 decodeU32 decodeU64
  encodeU32 encodeU64 reads_array reads_tag reads_u32 reads_u64)
open Except (failIf)

/-! ## Bodies -/

def kindTag : ObjectKind → UInt8
  | .machineJobPartition => 0
  | .machineJobManifest => 1
  | .deployedGraph => 2
  | .opaqueData => 3

def kindOfTag : UInt8 → Option ObjectKind
  | 0 => some .machineJobPartition
  | 1 => some .machineJobManifest
  | 2 => some .deployedGraph
  | 3 => some .opaqueData
  | _ => none

def encodePublished (object : PublishedObject) : List UInt8 :=
  kindTag object.object.kind :: (object.object.content.digest.val ++
    (encodeU64 object.object.byteLen ++ object.manifest.digest.val))

def decodePublished : WireDecoder PublishedObject := do
  let tag ← decodeU8
  let kind ← (kindOfTag tag).okOr (GraphWireError.invalidTag "object kind" tag)
  let digest ← decodeArray 32
  let byteLen ← decodeU64
  let manifest ← decodeArray 32
  return ⟨⟨kind, ⟨.sha256, digest⟩, byteLen⟩, ⟨.sha256, manifest⟩⟩

def encodePlan (plan : UploadPlan) : List UInt8 :=
  encodePublished plan.publication ++
    (encodeU64 plan.uploadId.get ++ (encodeU32 plan.chunkBytes ++ encodeU32 plan.chunkCount))

def decodePlan : WireDecoder UploadPlan := do
  let published ← decodePublished
  let uploadId ← decodeU64
  let chunkBytes ← decodeU32
  let chunkCount ← decodeU32
  return ⟨⟨uploadId⟩, published.object, published.manifest, chunkBytes, chunkCount⟩

def encodeHeader (header : ChunkUploadHeader) : List UInt8 :=
  encodeU64 header.uploadId.get ++ (encodeU32 header.index ++ (encodeU32 header.byteLen ++
    header.content.digest.val))

def decodeHeader : WireDecoder ChunkUploadHeader := do
  let uploadId ← decodeU64
  let index ← decodeU32
  let byteLen ← decodeU32
  let digest ← decodeArray 32
  return ⟨⟨uploadId⟩, index, byteLen, ⟨.sha256, digest⟩⟩

def encodeFinalize (request : FinalizeUploadRequest) : List UInt8 :=
  encodeU64 request.uploadId.get

def decodeFinalize : WireDecoder FinalizeUploadRequest := do
  let uploadId ← decodeU64
  return ⟨⟨uploadId⟩⟩

def phaseTag : UploadPhase → UInt8
  | .receiving => 0
  | .publishPending => 1
  | .complete => 2

def phaseOfTag : UInt8 → Option UploadPhase
  | 0 => some .receiving
  | 1 => some .publishPending
  | 2 => some .complete
  | _ => none

def encodeProgress (progress : UploadProgress) : List UInt8 :=
  phaseTag progress.phase :: (encodeU64 progress.uploadId.get ++ (encodeU32 progress.nextChunk ++
    (encodeU64 progress.acceptedBytes ++ encodeU64 progress.totalBytes)))

def decodeProgress : WireDecoder UploadProgress := do
  let tag ← decodeU8
  let phase ← (phaseOfTag tag).okOr (GraphWireError.invalidTag "upload phase" tag)
  let uploadId ← decodeU64
  let nextChunk ← decodeU32
  let acceptedBytes ← decodeU64
  let totalBytes ← decodeU64
  return ⟨⟨uploadId⟩, phase, nextChunk, acceptedBytes, totalBytes⟩

/-- Decode a body that must be used up. -/
def whole {α : Type} (decoder : WireDecoder α) (bytes : List UInt8) : Except GraphWireError α := do
  let (value, rest) ← decoder bytes
  failIf (rest ≠ []) .trailingBytes
  pure value

/-! ## Round trips -/

theorem reads_published (object : PublishedObject) :
    Reads decodePublished (encodePublished object) object := by
  obtain ⟨⟨kind, ⟨⟨⟩, digest⟩, byteLen⟩, ⟨⟨⟩, manifest⟩⟩ := object
  have hkind : kindOfTag (kindTag kind) = some kind := by cases kind <;> rfl
  unfold decodePublished encodePublished
  refine reads_tag ?_
  refine Reads.lift_bind (Option.okOr_eq_ok.2 hkind) ?_
  refine (reads_array digest).bind ?_
  refine (reads_u64 byteLen).bind ?_
  exact (reads_array manifest).bind_nil (Reads.pure _)

theorem reads_plan (plan : UploadPlan) : Reads decodePlan (encodePlan plan) plan := by
  unfold decodePlan encodePlan
  refine (reads_published plan.publication).bind ?_
  refine (reads_u64 plan.uploadId.get).bind ?_
  refine (reads_u32 plan.chunkBytes).bind ?_
  exact (reads_u32 plan.chunkCount).bind_nil (Reads.pure _)

theorem reads_header (header : ChunkUploadHeader) :
    Reads decodeHeader (encodeHeader header) header := by
  obtain ⟨id, index, byteLen, ⟨⟨⟩, digest⟩⟩ := header
  unfold decodeHeader encodeHeader
  refine (reads_u64 id.get).bind ?_
  refine (reads_u32 index).bind ?_
  refine (reads_u32 byteLen).bind ?_
  exact (reads_array digest).bind_nil (Reads.pure _)

theorem reads_finalize (request : FinalizeUploadRequest) :
    Reads decodeFinalize (encodeFinalize request) request :=
  (reads_u64 request.uploadId.get).bind_nil (Reads.pure _)

theorem reads_progress (progress : UploadProgress) :
    Reads decodeProgress (encodeProgress progress) progress := by
  obtain ⟨id, phase, nextChunk, accepted, total⟩ := progress
  have hphase : phaseOfTag (phaseTag phase) = some phase := by cases phase <;> rfl
  unfold decodeProgress encodeProgress
  refine reads_tag ?_
  refine Reads.lift_bind (Option.okOr_eq_ok.2 hphase) ?_
  refine (reads_u64 id.get).bind ?_
  refine (reads_u32 nextChunk).bind ?_
  refine (reads_u64 accepted).bind ?_
  exact (reads_u64 total).bind_nil (Reads.pure _)

theorem whole_of_reads {α : Type} {decoder : WireDecoder α} {bytes : List UInt8} {value : α}
    (h : Reads decoder bytes value) : whole decoder bytes = .ok value := by
  simp only [whole, h.run_nil, Except.bind_of_ok rfl]
  rfl

/-! ## The codec -/

/-- Why a plan or a publication is refused. -/
inductive StorageError where
  | missingDigest | limit | layout
  deriving DecidableEq, Repr

def validatePublished (object : PublishedObject) (limits : CacheLimits) :
    Except StorageError Unit := do
  failIf (object.object.content.digest.isZero ∨ object.manifest.digest.isZero) .missingDigest
  failIf (limits.maximumObjectBytes < object.object.byteLen) .limit

def validatePlan (plan : UploadPlan) (limits : CacheLimits) : Except StorageError Unit := do
  failIf (limits.maximumChunkBytes < plan.chunkBytes ∨ limits.maximumChunks < plan.chunkCount)
    .limit
  failIf (plan.chunkBytes = 0 ∨ plan.object.byteLen.toNat ≤
      plan.chunkBytes.toNat * (plan.chunkCount.toNat - 1) ∨
    plan.chunkBytes.toNat * plan.chunkCount.toNat < plan.object.byteLen.toNat) .layout

scoped instance storageWire : StorageWire where
  StorageError := StorageError
  WireError := GraphWireError
  validatePlan := validatePlan
  validatePublished := validatePublished
  encodePublished := encodePublished
  decodePublished bytes _ := whole decodePublished bytes
  encodePlan := encodePlan
  encodeHeader := encodeHeader
  encodeFinalize := encodeFinalize
  decodeProgress := whole decodeProgress

/-! ## Job bodies -/

def encodeFlag (flag : Bool) : List UInt8 := [if flag then 1 else 0]

def decodeFlag : WireDecoder Bool := do
  let tag ← decodeU8
  return tag = 1

def encodeOption {α : Type} (encode : α → List UInt8) : Option α → List UInt8
  | none => [0]
  | some value => 1 :: encode value

def decodeOption {α : Type} (decode : WireDecoder α) : WireDecoder (Option α) := do
  let present ← decodeFlag
  if present then return some (← decode) else return none

/-- Bytes behind a 32-bit count. -/
def encodeBytes (bytes : List UInt8) : List UInt8 := encodeU32 (.ofNat bytes.length) ++ bytes

def decodeBytes : WireDecoder (List UInt8) := do
  let length ← decodeU32
  take .truncated length.toNat

def policyTag : JobNetworkPolicy → UInt8
  | .networkAttended => 0
  | .cachedAutonomous => 1

def policyOfTag (tag : UInt8) : JobNetworkPolicy :=
  if tag = 0 then .networkAttended else .cachedAutonomous

def serviceTag : ServiceJobState → UInt8
  | .prefetching => 0
  | .complete => 1
  | .cancelled => 2
  | .faulted => 3
  | .other tag => tag

def serviceOfTag : UInt8 → ServiceJobState
  | 0 => .prefetching
  | 1 => .complete
  | 2 => .cancelled
  | 3 => .faulted
  | tag => .other tag

def realtimeTag : RealtimeJobState → UInt8
  | .admitted => 0
  | .complete => 1
  | .cancelled => 2
  | .faulted => 3
  | .other tag => tag

def realtimeOfTag : UInt8 → RealtimeJobState
  | 0 => .admitted
  | 1 => .complete
  | 2 => .cancelled
  | 3 => .faulted
  | tag => .other tag

def scheduleTag : JobScheduleState → UInt8
  | .prepared => 0
  | .installed => 1
  | .confirmed => 2
  | .priming => 3
  | .primed => 4
  | .running => 5
  | .aborted => 6
  | .expired => 7
  | .complete => 8
  | .faulted => 9

def scheduleOfTag : UInt8 → Option JobScheduleState
  | 0 => some .prepared
  | 1 => some .installed
  | 2 => some .confirmed
  | 3 => some .priming
  | 4 => some .primed
  | 5 => some .running
  | 6 => some .aborted
  | 7 => some .expired
  | 8 => some .complete
  | 9 => some .faulted
  | _ => none

def encodeService (report : ServiceJobReport) : List UInt8 :=
  encodeU64 report.prepareId ++ [serviceTag report.state, report.axisCount] ++
    encodeU32 report.totalBlocks ++ encodeBytes report.details

def decodeService : WireDecoder ServiceJobReport := do
  let prepareId ← decodeU64
  let state ← decodeU8
  let axisCount ← decodeU8
  let totalBlocks ← decodeU32
  let details ← decodeBytes
  return ⟨prepareId, serviceOfTag state, axisCount, totalBlocks, details⟩

def encodeRealtime (report : RealtimeJobReport) : List UInt8 :=
  encodeU64 report.prepareId ++ [realtimeTag report.state] ++ encodeU32 report.totalBlocks ++
    encodeFlag report.outstanding ++ encodeBytes report.details

def decodeRealtime : WireDecoder RealtimeJobReport := do
  let prepareId ← decodeU64
  let state ← decodeU8
  let totalBlocks ← decodeU32
  let outstanding ← decodeFlag
  let details ← decodeBytes
  return ⟨prepareId, realtimeOfTag state, totalBlocks, outstanding, details⟩

def encodeObservation (observation : JobStartObservation) : List UInt8 :=
  (match observation.source with
    | .simulatedLatch => 0
    | .other tag => tag) :: (encodeU32 observation.outputToken ++
      encodeU64 observation.scheduledCycle ++ encodeU64 observation.earliestCycle ++
      encodeU64 observation.latestCycle)

def decodeObservation : WireDecoder JobStartObservation := do
  let source ← decodeU8
  let outputToken ← decodeU32
  let scheduledCycle ← decodeU64
  let earliestCycle ← decodeU64
  let latestCycle ← decodeU64
  return ⟨if source = 0 then .simulatedLatch else .other source, outputToken, scheduledCycle,
    earliestCycle, latestCycle⟩

def encodeSchedule (report : JobScheduleReport) : List UInt8 :=
  encodeBytes report.descriptorToken.bytes ++
    encodeOption (encodeBytes ·.bytes) report.preparedToken ++
    encodeOption (fun policy => [policyTag policy]) report.policy ++
    encodeU64 report.localStartCycle ++ encodeU64 report.confirmDeadlineCycle ++
    encodeU64 report.abortGuardCycle ++ encodeU64 report.leaseExpiryCycle ++
    encodeBytes report.commitId ++ [scheduleTag report.state] ++
    encodeOption encodeObservation report.startObservation ++ encodeBytes report.details

def decodeSchedule : WireDecoder JobScheduleReport := do
  let descriptorToken ← decodeBytes
  let preparedToken ← decodeOption decodeBytes
  let policy ← decodeOption decodeU8
  let localStartCycle ← decodeU64
  let confirmDeadlineCycle ← decodeU64
  let abortGuardCycle ← decodeU64
  let leaseExpiryCycle ← decodeU64
  let commitId ← decodeBytes
  let tag ← decodeU8
  let state ← (scheduleOfTag tag).okOr (GraphWireError.invalidTag "schedule state" tag)
  let startObservation ← decodeOption decodeObservation
  let details ← decodeBytes
  return ⟨⟨descriptorToken⟩, preparedToken.map (⟨·⟩), policy.map policyOfTag, localStartCycle,
    confirmDeadlineCycle, abortGuardCycle, leaseExpiryCycle, commitId, state, startObservation,
    details⟩

def encodeStatus (report : JobStatusReport) : List UInt8 :=
  encodeOption encodeService report.service ++ encodeOption encodeRealtime report.realtime ++
    encodeOption encodeSchedule report.schedule

def decodeStatus : WireDecoder JobStatusReport := do
  let service ← decodeOption decodeService
  let realtime ← decodeOption decodeRealtime
  let schedule ← decodeOption decodeSchedule
  return ⟨service, realtime, schedule⟩

def encodeDescriptor (descriptor : JobDescriptor) : List UInt8 :=
  encodeU64 descriptor.prepareId ++ encodePublished descriptor.partition ++
    encodeU32 descriptor.blockCount ++ encodeBytes descriptor.details

def encodeCommit (commit : JobCommitRequest) : List UInt8 :=
  [policyTag commit.policy] ++ encodeU64 commit.prepareId ++ commit.bootId.val ++
    commit.globalJobDigest.val ++ commit.participantSetDigest.val ++
    encodeBytes commit.preparedToken.bytes ++ commit.partitionDigest.val ++
    encodeU64 commit.localStartCycle ++ encodeU64 commit.confirmDeadlineCycle ++
    encodeU64 commit.abortGuardCycle ++ encodeU64 commit.leaseExpiryCycle ++
    encodeU64 commit.clockProbeId ++ encodeU64 commit.clockUncertaintyCycles ++
    encodeU64 commit.requiredSyncToleranceCycles ++ encodeBytes commit.commitId.asBytes

def referenceTag : JobScheduleReferenceAction → UInt8
  | .confirm => 0
  | .abort => 1

/-- Why a descriptor is refused. -/
inductive DescriptorError where
  | prepareId | axes
  deriving DecidableEq, Repr

/-- Why a commit cannot be represented. -/
inductive ScheduleError where
  | deadlineOrder | leaseRenewal
  deriving DecidableEq, Repr

/-- Deadlines, start and lease are strictly ordered in a representable commit. -/
def checkCommit (commit : JobCommitRequest) : Except ScheduleError Unit :=
  failIf (¬ (commit.confirmDeadlineCycle < commit.abortGuardCycle ∧
    commit.abortGuardCycle < commit.localStartCycle ∧
    commit.localStartCycle < commit.leaseExpiryCycle)) .deadlineOrder

scoped instance jobWire : JobWire where
  DescriptorError := DescriptorError
  ScheduleError := ScheduleError
  CancelError := DescriptorError
  StatusError := GraphWireError
  validateDescriptor axes descriptor := do
    failIf (descriptor.prepareId = 0) .prepareId
    failIf (axes = 0) .axes
  deriveToken axes bootId descriptor :=
    .ok ⟨UInt8.ofNat axes :: (bootId.val ++ encodeDescriptor descriptor)⟩
  encodeDescriptor _ descriptor := .ok (encodeDescriptor descriptor)
  encodeCommit commit := do
    checkCommit commit
    pure (encodeCommit commit)
  encodeReference action commit := do
    checkCommit commit
    pure (referenceTag action :: encodeCommit commit)
  encodeRenewal commit expiry := do
    failIf (commit.policy ≠ .networkAttended ∨ expiry ≤ commit.leaseExpiryCycle) .leaseRenewal
    pure (encodeCommit commit ++ encodeU64 expiry)
  encodeCancel prepareId := do
    failIf (prepareId = 0) .prepareId
    pure (encodeU64 prepareId)
  decodeStatus := whole decodeStatus

/-! ## Clocks -/

/-- A device counter that runs exactly, at one cycle a microsecond. -/
structure LinearClock where
  bootId : BootId
  offset : UInt64
  uncertaintyCycles : UInt64
  probeId : UInt64
  accepted : UInt32
  rejected : UInt32
  deriving DecidableEq, Repr

def LinearClock.cycleAt (clock : LinearClock) (uiNs : UInt64) : DeviceCycle :=
  clock.offset + uiNs / 1000

/-- The estimate is less certain than was asked for, or the heartbeat was received before it
was sent. -/
inductive ClockError where
  | uncertainty | order
  deriving DecidableEq, Repr

/-- The last observation sets the offset. -/
def LinearClock.observe (clock : LinearClock) (observation : ClockObservation) :
    LinearClock × Except ClockError Unit :=
  let response := observation.response
  if observation.uiReceiveNs < response.uiSendNs then
    ({ clock with rejected := clock.rejected + 1 }, .error .order)
  else
    ({ clock with
        bootId := response.bootId
        offset := response.receiveCycle - response.uiSendNs / 1000
        probeId := response.probeId
        accepted := clock.accepted + 1 },
      .ok ())

/-- A heartbeat of a device whose counter runs at one cycle a microsecond. -/
def heartbeat (probeId uiSendNs : UInt64) (bootId : BootId) (receiveCycle : DeviceCycle) :
    ClockHeartbeatResponse :=
  ⟨7, 64, 1, probeId, uiSendNs, bootId, receiveCycle, receiveCycle + 50, 1000000, 100000,
    10000000, 100000, 0, 0, 4, 1⟩

/-- The probe, the boot and the cycle; the other fields are fixed. -/
def encodeHeartbeat (heartbeat : ClockHeartbeatResponse) : List UInt8 :=
  encodeU64 heartbeat.probeId ++ encodeU64 heartbeat.uiSendNs ++ heartbeat.bootId.val ++
    encodeU64 heartbeat.receiveCycle

def decodeHeartbeat : WireDecoder ClockHeartbeatResponse := do
  let probeId ← decodeU64
  let uiSendNs ← decodeU64
  let bootId ← decodeArray 16
  let receiveCycle ← decodeU64
  return heartbeat probeId uiSendNs bootId receiveCycle

scoped instance clockEstimation : ClockEstimation where
  ClockEstimator := LinearClock
  ClockEstimationPolicy := UInt64
  ClockEstimateError := ClockError
  ClockWireError := GraphWireError
  new uncertaintyCycles := .ok ⟨.replicate 16 0, 0, uncertaintyCycles, 0, 0, 0⟩
  reset clock := ⟨.replicate 16 0, 0, clock.uncertaintyCycles, 0, 0, 0⟩
  observe := LinearClock.observe
  acceptedSamples := LinearClock.accepted
  predict clock nowUiNs targetUiNs maximum := do
    failIf (maximum < clock.uncertaintyCycles) .uncertainty
    pure ⟨clock.bootId, nowUiNs, targetUiNs, clock.cycleAt nowUiNs + clock.uncertaintyCycles,
      clock.cycleAt targetUiNs, clock.uncertaintyCycles, clock.probeId⟩
  estimateAt clock uiNs maximum := do
    failIf (maximum < clock.uncertaintyCycles) .uncertainty
    pure ⟨clock.bootId, uiNs, clock.cycleAt uiNs + clock.uncertaintyCycles,
      clock.uncertaintyCycles⟩
  encodeRequest request := .ok (encodeU64 request.probeId ++ encodeU64 request.uiSendNs)
  decodeResponse := whole decodeHeartbeat

end Alumina.Client.HostLibrary
