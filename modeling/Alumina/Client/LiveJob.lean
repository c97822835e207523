import Alumina.Client.DistributedSchedule
import Alumina.Client.Upload

/-!
# The live job of a worker

`LiveCachedJob` delivers two artifacts to the cache of every device, and then drives the
schedule of all devices. It emits one operation at a time. The requests of a round over all
devices (a status round, a lease renewal) wait in `statusQueue` and go out one by one.

A job is built from the decoded artifacts of a worker request. Of the checks on that request
those on the list of participants are kept.
-/

namespace Alumina.Client

open Except (failIf)
open Alumina.Graph (Digest DeviceId FixedArray Sha256)

/-! ## Participants -/

/-- Exact live session identity required by one compiled participant. -/
structure LiveJobParticipantBinding where
  connectionId : UInt64
  generation : UInt64
  deviceId : DeviceId
  bootId : BootId
  configDigest : Digest
  capabilityDigest : Digest
  deriving DecidableEq, Repr

/-- One device-targeted native operation emitted by the live job machine. -/
structure LiveJobOperation where
  binding : LiveJobParticipantBinding
  frameConfigDigest : Digest
  operation : Operation
  body : List UInt8
  deriving DecidableEq, Repr

/-- Decoded artifacts of one participant. -/
structure LiveJobArtifacts where
  binding : LiveJobParticipantBinding
  descriptor : JobDescriptor
  partitionSource : UploadSource
  manifestSource : UploadSource

structure LiveParticipant where
  binding : LiveJobParticipantBinding
  descriptor : JobDescriptor
  partitionSource : UploadSource
  manifestSource : UploadSource
  partitionUpload : CacheUploadMachine
  manifestUpload : CacheUploadMachine

/-- Where a retained job is in its life, as the user interface shows it. -/
inductive WorkerCachedJobPhase where
  | caching | preparing | ready | installing | installed | confirming | confirmed | irrevocable
  | aborting | aborted | splitAfterStopRequest | cancelling | cancelled
  | complete | completedAfterStopRequest | retainedComplete | faulted
  deriving DecidableEq, Repr

/-- One bounded worker-owned job from immutable cache handoff through completion. -/
structure LiveCachedJob where
  identity : DistributedJobIdentity
  participants : List LiveParticipant
  coordinator : Option DistributedScheduleCoordinator
  statusQueue : List DistributedScheduleRequest
  scheduleReconciliationSweepRequired : Bool
  leaseRenewalRounds : UInt32
  stopRequested : Bool
  terminalOverride : Option WorkerCachedJobPhase

/-- Failure before live job state may advance. -/
inductive LiveCachedJobError [StorageWire] [JobWire] [ClockEstimation] where
  | contract
  | upload (error : CacheUploadError)
  | schedule (error : DistributedScheduleError)
  | cache | identity | participant | pending | state

abbrev LiveResult [StorageWire] [JobWire] [ClockEstimation] := Except LiveCachedJobError

/-- `WORKER_CACHED_JOB_LIMITS` -/
def workerCachedJobLimits : CacheLimits := ⟨4 * 1024 * 1024, 1024, 10000⟩

/-- `MAXIMUM_CACHED_JOB_PARTICIPANTS` -/
def maximumCachedJobParticipants : Nat := 8

/-! ## Phases -/

def distributedPhase : DistributedSchedulePhase → WorkerCachedJobPhase
  | .preparing => .preparing
  | .ready => .ready
  | .installing => .installing
  | .installed => .installed
  | .confirming => .confirming
  | .confirmed => .confirmed
  | .irrevocable => .irrevocable
  | .aborting => .aborting
  | .aborted => .aborted
  | .splitAfterAbort => .splitAfterStopRequest
  | .cancelling => .cancelling
  | .cancelled => .cancelled
  | .complete => .complete
  | .faulted => .faulted

def projectDistributedPhase (phase : DistributedSchedulePhase)
    (targetUiBound stopRequested : Bool) : WorkerCachedJobPhase :=
  if phase = .complete ∧ !targetUiBound then .retainedComplete
  else if phase = .complete ∧ stopRequested then .completedAfterStopRequest
  else distributedPhase phase

/-! ## Participants of a job -/

namespace LiveParticipant

def cacheComplete (participant : LiveParticipant) : Bool :=
  participant.partitionUpload.state = .complete && participant.manifestUpload.state = .complete

/-- Mark the pending cache operation lost, the partition's before the manifest's. -/
def abandonPending (participant : LiveParticipant) : LiveParticipant × Bool :=
  let (partitionUpload, had) := participant.partitionUpload.abandonPending
  if had then ({ participant with partitionUpload }, true)
  else
    let (manifestUpload, had) := participant.manifestUpload.abandonPending
    ({ participant with partitionUpload, manifestUpload }, had)

variable [StorageWire] [JobWire] [ClockEstimation]

/-- The next cache operation of one participant: the partition, then the manifest. -/
def nextRequest [Sha256] (participant : LiveParticipant) :
    LiveParticipant × LiveResult (Option UploadOperation) :=
  if participant.partitionUpload.state ≠ .complete then
    let (partitionUpload, result) :=
      participant.partitionUpload.nextRequest participant.partitionSource
    ({ participant with partitionUpload }, result.mapError .upload)
  else if participant.manifestUpload.state ≠ .complete then
    let (manifestUpload, result) :=
      participant.manifestUpload.nextRequest participant.manifestSource
    ({ participant with manifestUpload }, result.mapError .upload)
  else (participant, .ok none)

/-- The response belongs to the unique pending cache operation. -/
def acceptResponse (participant : LiveParticipant) (response : Response) :
    LiveParticipant × LiveResult Unit :=
  match participant.partitionUpload.pending, participant.manifestUpload.pending with
  | some _, none =>
    let (partitionUpload, result) := participant.partitionUpload.acceptResponse response
    ({ participant with partitionUpload }, result.mapError .upload)
  | none, some _ =>
    let (manifestUpload, result) := participant.manifestUpload.acceptResponse response
    ({ participant with manifestUpload }, result.mapError .upload)
  | _, _ => (participant, .error .pending)

end LiveParticipant

namespace LiveCachedJob

/-- The compiled live-session binding of one connection. -/
def binding (job : LiveCachedJob) (connectionId : UInt64) : Option LiveJobParticipantBinding :=
  (job.participants.find? (·.binding.connectionId = connectionId)).map (·.binding)

/-- Shared future browser epoch after a deterministic start was bound. -/
def targetUiNs (job : LiveCachedJob) : Option UInt64 := job.coordinator.bind (·.targetUiNs)

/-- Current global lifecycle, from exact cache and schedule state. -/
def phase (job : LiveCachedJob) : WorkerCachedJobPhase :=
  match job.terminalOverride, job.coordinator with
  | some phase, _ => phase
  | none, none => .caching
  | none, some coordinator =>
    projectDistributedPhase coordinator.phase coordinator.targetUiNs.isSome job.stopRequested

/-- Whether no further mutation can be usefully requested for this retained job. -/
def terminal (job : LiveCachedJob) : Bool :=
  job.phase ∈ [.aborted, .cancelled, .complete, .completedAfterStopRequest,
    .splitAfterStopRequest, .retainedComplete, .faulted]

variable [StorageWire] [JobWire] [ClockEstimation]

/-! ## Construction -/

/-- The checks on the participant list: bounded, distinct connections, devices in order. -/
def validateArtifacts (artifacts : List LiveJobArtifacts) : LiveResult Unit := do
  failIf (artifacts = [] ∨ maximumCachedJobParticipants < artifacts.length) .contract
  failIf (artifacts.any fun item => item.binding.connectionId = 0 || item.binding.generation = 0 ||
    item.binding.deviceId.isZero || item.binding.bootId.isZero) .contract
  failIf (¬ (artifacts.map (·.binding.connectionId)).Nodup) .contract
  failIf (¬ (artifacts.map (deviceKey ·.binding.deviceId)).IsChain (· < ·)) .contract

def buildParticipant (artifacts : LiveJobArtifacts) : LiveResult LiveParticipant := do
  let partitionUpload ← (CacheUploadMachine.new artifacts.partitionSource
    workerCachedJobLimits).mapError .upload
  let manifestUpload ← (CacheUploadMachine.new artifacts.manifestSource
    workerCachedJobLimits).mapError .upload
  pure
    { binding := artifacts.binding
      descriptor := artifacts.descriptor
      partitionSource := artifacts.partitionSource
      manifestSource := artifacts.manifestSource
      partitionUpload, manifestUpload }

/-- Build every participant; all publish one global manifest. -/
def buildParticipants (globalManifest : Option PublishedObject) :
    List LiveJobArtifacts → LiveResult (List LiveParticipant)
  | [] => pure []
  | artifacts :: rest => do
    let built ← buildParticipant artifacts
    let publication := built.manifestUpload.publication
    failIf (globalManifest.any (· ≠ publication)) .identity
    let rest ← buildParticipants (some publication) rest
    pure (built :: rest)

/-- Take over the decoded artifacts of a worker request. The global manifest of the identity is
the one the participants publish. -/
def tryNew (identity : DistributedJobIdentity) (artifacts : List LiveJobArtifacts) :
    LiveResult LiveCachedJob := do
  validateArtifacts artifacts
  let participants ← buildParticipants none artifacts
  let last ← participants.getLast?.okOr .identity
  pure
    { identity := { identity with globalManifest := last.manifestUpload.publication }
      participants
      coordinator := none
      statusQueue := []
      scheduleReconciliationSweepRequired := false
      leaseRenewalRounds := 0
      stopRequested := false
      terminalOverride := none }

/-- `ParticipantCacheReady::from_reconciled` -/
def cacheReady (participant : LiveParticipant) : LiveResult ParticipantCacheReady := do
  let partition := participant.partitionUpload.publication
  let globalManifest := participant.manifestUpload.publication
  failIf (participant.binding.deviceId.isZero ∨
    partition.object.kind ≠ .machineJobPartition ∨
    globalManifest.object.kind ≠ .machineJobManifest) .cache
  pure ⟨participant.binding.deviceId, partition, globalManifest⟩

/-- Build the coordinator once every artifact is cached. -/
def initializeSchedule (job : LiveCachedJob) : LiveResult LiveCachedJob :=
  if job.coordinator.isSome then pure job
  else do
    failIf (¬ job.participants.all (·.cacheComplete)) .state
    let ready ← job.participants.mapM cacheReady
    let cached := job.participants.map fun participant =>
      (⟨participant.binding.deviceId, participant.binding.bootId, participant.descriptor⟩ :
        CachedParticipantSchedule)
    let coordinator ← (DistributedScheduleCoordinator.afterCachedArtifacts job.identity ready
      cached).mapError .schedule
    pure { job with coordinator := some coordinator }

/-! ## Operations -/

/-- The first cache operation any participant has. -/
def nextCacheOperation [Sha256] :
    List LiveParticipant → List LiveParticipant × LiveResult (Option LiveJobOperation)
  | [] => ([], .ok none)
  | participant :: rest =>
    match participant.nextRequest with
    | (participant, .error error) => (participant :: rest, .error error)
    | (participant, .ok (some operation)) =>
      (participant :: rest,
        .ok (some ⟨participant.binding, .replicate 32 0, operation.operation, operation.body⟩))
    | (participant, .ok none) =>
      let (rest, result) := nextCacheOperation rest
      (participant :: rest, result)

/-- Address a schedule request to the session of its device. -/
def scheduleOperation (job : LiveCachedJob) (request : DistributedScheduleRequest) :
    LiveResult LiveJobOperation := do
  let index ← (Table.binarySearch (fun participant => deviceKey participant.binding.deviceId)
    (deviceKey request.deviceId) job.participants).okOr .participant
  let participant ← job.participants[index]?.okOr .participant
  pure ⟨participant.binding, participant.binding.configDigest, request.request.operation,
    request.request.body⟩

/-- Emit the next request of the coordinator. -/
def nextScheduled (job : LiveCachedJob) (coordinator : DistributedScheduleCoordinator) :
    LiveCachedJob × LiveResult (Option LiveJobOperation) :=
  match coordinator.nextRequest with
  | .error error => (job, .error (.schedule error))
  | .ok (none, coordinator) => ({ job with coordinator := some coordinator }, .ok none)
  | .ok (some request, coordinator) =>
    ({ job with coordinator := some coordinator }, some <$> job.scheduleOperation request)

/-- Open the status sweep an abandoned operation requires. -/
def openSweep (job : LiveCachedJob) : LiveCachedJob × LiveResult Unit :=
  if job.statusQueue = [] ∧ job.scheduleReconciliationSweepRequired then
    match job.coordinator with
    | none => (job, .error .state)
    | some coordinator =>
      let (coordinator, requests) := coordinator.beginStatusRound
      match requests with
      | .error error => ({ job with coordinator := some coordinator }, .error (.schedule error))
      | .ok requests =>
        ({ job with
            coordinator := some coordinator
            statusQueue := requests
            scheduleReconciliationSweepRequired := false }, .ok ())
  else (job, .ok ())

/-- The next operation while nothing is queued. -/
def nextUnqueued [Sha256] (job : LiveCachedJob) :
    LiveCachedJob × LiveResult (Option LiveJobOperation) :=
  match job.coordinator with
  | some coordinator => job.nextScheduled coordinator
  | none =>
    let (participants, result) := nextCacheOperation job.participants
    let job := { job with participants }
    match result with
    | .error error => (job, .error error)
    | .ok (some operation) => (job, .ok (some operation))
    | .ok none =>
      match job.initializeSchedule with
      | .error error => (job, .error error)
      | .ok job =>
        match job.coordinator with
        | none => (job, .error .state)
        | some coordinator => job.nextScheduled coordinator

/-- Emit the unique next cache or schedule request. -/
def nextOperation [Sha256] (job : LiveCachedJob) :
    LiveCachedJob × LiveResult (Option LiveJobOperation) :=
  if job.terminalOverride.isSome then (job, .ok none)
  else
    match job.openSweep with
    | (job, .error error) => (job, .error error)
    | (job, .ok ()) =>
      match job.statusQueue with
      | [] => job.nextUnqueued
      | request :: rest =>
        ({ job with statusQueue := rest }, some <$> job.scheduleOperation request)

/-! ## Responses -/

/-- The participant of a connection accepts the response of its cache operation. -/
def acceptCacheResponse (connectionId : UInt64) (response : Response) :
    List LiveParticipant → List LiveParticipant × LiveResult Unit
  | [] => ([], .error .participant)
  | participant :: rest =>
    if participant.binding.connectionId = connectionId then
      let (participant, result) := participant.acceptResponse response
      (participant :: rest, result)
    else
      let (rest, result) := acceptCacheResponse connectionId response rest
      (participant :: rest, result)

/-- Apply one already authenticated and correlated response to its exact owner. -/
def acceptResponse (job : LiveCachedJob) (connectionId : UInt64) (response : Response) :
    LiveCachedJob × LiveResult WorkerCachedJobPhase :=
  match job.binding connectionId with
  | none => (job, .error .participant)
  | some binding =>
    match job.coordinator with
    | some coordinator =>
      let (coordinator, result) := coordinator.acceptResponse binding.deviceId response
      let job := { job with coordinator := some coordinator }
      match result with
      | .error error => (job, .error (.schedule error))
      | .ok _ => (job, .ok job.phase)
    | none =>
      let (participants, result) := acceptCacheResponse connectionId response job.participants
      let job := { job with participants }
      match result with
      | .error error => (job, .error error)
      | .ok () =>
        if job.participants.all (·.cacheComplete) then
          match job.initializeSchedule with
          | .error error => (job, .error error)
          | .ok job => (job, .ok job.phase)
        else (job, .ok job.phase)

/-- The participant of a connection abandons its cache operation. -/
def abandonCache (connectionId : UInt64) :
    List LiveParticipant → List LiveParticipant × LiveResult Bool
  | [] => ([], .error .participant)
  | participant :: rest =>
    if participant.binding.connectionId = connectionId then
      let (participant, had) := participant.abandonPending
      (participant :: rest, .ok had)
    else
      let (rest, result) := abandonCache connectionId rest
      (participant :: rest, result)

/-- Abandon the queued requests that have not been emitted. -/
def abandonQueue (coordinator : DistributedScheduleCoordinator) :
    List DistributedScheduleRequest →
      DistributedScheduleCoordinator × List DistributedScheduleRequest × DistributedResult Unit
  | [] => (coordinator, [], .ok ())
  | request :: rest =>
    match coordinator.abandonPending request.deviceId with
    | (coordinator, .error error) => (coordinator, rest, .error error)
    | (coordinator, .ok _) => abandonQueue coordinator rest

/-- Mark one ambiguous operation lost and gate later mutation on a clean sweep. -/
def abandonPending (job : LiveCachedJob) (connectionId : UInt64) :
    LiveCachedJob × LiveResult Bool :=
  match job.binding connectionId with
  | none => (job, .error .participant)
  | some binding =>
    match job.coordinator with
    | some coordinator =>
      match coordinator.abandonPending binding.deviceId with
      | (coordinator, .error error) =>
        ({ job with coordinator := some coordinator }, .error (.schedule error))
      | (coordinator, .ok false) => ({ job with coordinator := some coordinator }, .ok false)
      | (coordinator, .ok true) =>
        match abandonQueue coordinator job.statusQueue with
        | (coordinator, statusQueue, .error error) =>
          ({ job with coordinator := some coordinator, statusQueue }, .error (.schedule error))
        | (coordinator, statusQueue, .ok ()) =>
          ({ job with
              coordinator := some coordinator
              statusQueue
              scheduleReconciliationSweepRequired := true }, .ok true)
    | none =>
      let (participants, result) := abandonCache connectionId job.participants
      ({ job with participants }, result)

/-! ## Orders -/

/-- Rounds and orders need a job that still runs with nothing queued, and its coordinator. -/
def quiet (job : LiveCachedJob) : LiveResult DistributedScheduleCoordinator := do
  failIf (job.terminalOverride.isSome ∨ job.statusQueue ≠ []) .state
  job.coordinator.okOr .state

/-- Atomically bind a common future browser epoch into every local commit. -/
def beginStart (job : LiveCachedJob) (nowUiNs targetUiNs : UInt64)
    (inputs : List ParticipantStartInput) : LiveResult LiveCachedJob := do
  let coordinator ← job.quiet
  let coordinator ← (coordinator.bindStart nowUiNs targetUiNs inputs).mapError .schedule
  pure { job with coordinator := some coordinator }

/-- Open confirmation only after every installed commit and deadline is exact. -/
def beginConfirmation (job : LiveCachedJob) (nowUiNs : UInt64)
    (inputs : List ParticipantStartInput) : LiveResult LiveCachedJob := do
  let coordinator ← job.quiet
  let coordinator ← (coordinator.beginConfirmation nowUiNs inputs).mapError .schedule
  pure { job with coordinator := some coordinator }

/-- Begin one complete read-only participant status round. -/
def beginStatusRound (job : LiveCachedJob) : LiveCachedJob × LiveResult Unit :=
  match job.quiet with
  | .error error => (job, .error error)
  | .ok coordinator =>
    let (coordinator, requests) := coordinator.beginStatusRound
    match requests with
    | .error error => ({ job with coordinator := some coordinator }, .error (.schedule error))
    | .ok requests =>
      ({ job with coordinator := some coordinator, statusQueue := requests }, .ok ())

/-- Queue one atomically validated rolling lease request for every device. -/
def beginLeaseRenewal (job : LiveCachedJob) (renewals : List ParticipantLeaseRenewal) :
    LiveCachedJob × LiveResult Unit :=
  if job.scheduleReconciliationSweepRequired ∨ job.stopRequested then (job, .error .state)
  else
    match job.quiet with
    | .error error => (job, .error error)
    | .ok coordinator =>
      let (coordinator, requests) := coordinator.beginLeaseRenewal renewals
      match requests with
      | .error error => ({ job with coordinator := some coordinator }, .error (.schedule error))
      | .ok requests =>
        ({ job with
            coordinator := some coordinator
            statusQueue := requests
            leaseRenewalRounds := .ofNat (min (job.leaseRenewalRounds.toNat + 1) (2 ^ 32 - 1)) },
          .ok ())

/-- Local cache cancellation, precommit actor cancellation or pre-guard abort. -/
def requestStop (job : LiveCachedJob) : LiveCachedJob × LiveResult Unit :=
  if job.terminal then (job, .error .state)
  else
    let job := { job with statusQueue := [] }
    match job.coordinator with
    | none => ({ job with terminalOverride := some .cancelled }, .ok ())
    | some coordinator =>
      if coordinator.targetUiNs.isSome then
        match coordinator.beginAbort with
        | .error error => (job, .error (.schedule error))
        | .ok coordinator =>
          ({ job with coordinator := some coordinator, stopRequested := true }, .ok ())
      else
        match coordinator.beginCancel with
        | .error error => (job, .error (.schedule error))
        | .ok coordinator => ({ job with coordinator := some coordinator }, .ok ())

/-- Convert an unrecoverable local invariant failure into a visible terminal state. -/
def markFault (job : LiveCachedJob) : LiveCachedJob :=
  { job with terminalOverride := some .faulted, statusQueue := [] }

/-! ## Calls -/

/-- A call on the job. -/
inductive Call where
  | nextOperation
  | acceptResponse (connectionId : UInt64) (response : Response)
  | abandonPending (connectionId : UInt64)
  | beginStart (nowUiNs targetUiNs : UInt64) (inputs : List ParticipantStartInput)
  | beginConfirmation (nowUiNs : UInt64) (inputs : List ParticipantStartInput)
  | beginStatusRound
  | beginLeaseRenewal (renewals : List ParticipantLeaseRenewal)
  | requestStop | markFault

/-- What a call returned. -/
inductive Outcome where
  | next (result : LiveResult (Option LiveJobOperation))
  | phase (result : LiveResult WorkerCachedJobPhase)
  | abandoned (result : LiveResult Bool)
  | done (result : LiveResult Unit)

/-- An order that failed left the job as it was. -/
def ordered (job : LiveCachedJob) : LiveResult LiveCachedJob → LiveCachedJob × Outcome
  | .ok job => (job, .done (.ok ()))
  | .error error => (job, .done (.error error))

def perform [Sha256] (job : LiveCachedJob) : Call → LiveCachedJob × Outcome
  | .nextOperation =>
    let (job, result) := job.nextOperation
    (job, .next result)
  | .acceptResponse connectionId response =>
    let (job, result) := job.acceptResponse connectionId response
    (job, .phase result)
  | .abandonPending connectionId =>
    let (job, result) := job.abandonPending connectionId
    (job, .abandoned result)
  | .beginStart nowUiNs targetUiNs inputs =>
    job.ordered (job.beginStart nowUiNs targetUiNs inputs)
  | .beginConfirmation nowUiNs inputs => job.ordered (job.beginConfirmation nowUiNs inputs)
  | .beginStatusRound =>
    let (job, result) := job.beginStatusRound
    (job, .done result)
  | .beginLeaseRenewal renewals =>
    let (job, result) := job.beginLeaseRenewal renewals
    (job, .done result)
  | .requestStop =>
    let (job, result) := job.requestStop
    (job, .done result)
  | .markFault => (job.markFault, .done (.ok ()))

/-- One call on the job. -/
abbrev Step [Sha256] : LiveCachedJob → Call × Outcome → LiveCachedJob → Prop := Run.Calls perform

end LiveCachedJob

end Alumina.Client
