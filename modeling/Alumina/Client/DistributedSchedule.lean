import Mathlib
import Alumina.ForStd.BinarySearch
import Alumina.ForStd.CheckedArith
import Alumina.Client.Clock

/-!
# The schedule of all participants

`DistributedScheduleCoordinator` holds one schedule machine per device, sorted by device
identity, and an intent that says which operation each machine is asked for next: prepare,
install, confirm, abort or cancel. The calls of the source are functions on the coordinator;
`perform` collects them, so that a run is a `Run` of its steps.

A call that cannot change the coordinator when it fails returns the next coordinator with its
result. The others return the coordinator they leave and the result side by side.
-/

namespace Alumina.Client

open Except (failIf)
open Alumina.Graph (Digest DeviceId)

def jobAxes : Nat := 2

/-- The order of device identities is that of their bytes. -/
def deviceKey (deviceId : DeviceId) : List Nat := deviceId.val.map UInt8.toNat

/-! ## Inputs -/

/-- Evidence that both exact publications were observed on one device. -/
structure ParticipantCacheReady where
  deviceId : DeviceId
  partition : PublishedObject
  globalManifest : PublishedObject
  deriving DecidableEq, Repr

/-- Decoded cached descriptor and boot identity of one device. -/
structure CachedParticipantSchedule where
  deviceId : DeviceId
  bootId : BootId
  descriptor : JobDescriptor
  deriving DecidableEq, Repr

/-- Manifest-wide identities needed after cache delivery. -/
structure DistributedJobIdentity where
  globalJobDigest : Digest
  participantSetDigest : Digest
  globalTimebaseHz : UInt64
  durationTicks : UInt64
  networkPolicy : JobNetworkPolicy
  globalManifest : PublishedObject
  deriving DecidableEq, Repr

/-- Device-cycle margins of one start. -/
structure ParticipantStartTiming where
  maximumUncertaintyCycles : UInt64
  requiredSyncToleranceCycles : UInt64
  confirmationLeadCycles : UInt64
  abortGuardLeadCycles : UInt64
  leaseCycles : UInt64
  commitId : JobCommitId
  deriving DecidableEq, Repr

/-- Clock model and timing policy of one device. -/
structure ParticipantStartInput [ClockEstimation] where
  deviceId : DeviceId
  clock : DeviceClockModel
  timing : ParticipantStartTiming

/-- One device's next absolute lease expiry. -/
structure ParticipantLeaseRenewal where
  deviceId : DeviceId
  leaseExpiryCycle : DeviceCycle
  deriving DecidableEq, Repr

/-- One device-targeted operation. -/
structure DistributedScheduleRequest where
  deviceId : DeviceId
  request : ScheduleOperation
  deriving DecidableEq, Repr

/-! ## The coordinator -/

inductive DistributedSchedulePhase where
  | preparing | ready | installing | installed | confirming | confirmed | irrevocable
  | aborting | aborted | splitAfterAbort | cancelling | cancelled | complete | faulted
  deriving DecidableEq, Repr

/-- Conservative view of the remote confirmation and abort deadlines. -/
inductive DistributedDeadlineWindow where
  | confirmationOpen | abortOnly | pointOfNoReturn
  deriving DecidableEq, Repr

inductive CoordinationIntent where
  | prepare | install | confirm | abort | cancel
  deriving DecidableEq, Repr

structure ParticipantCoordinator where
  deviceId : DeviceId
  control : ParticipantScheduleMachine jobAxes
  plannedCommit : Option JobCommitRequest
  deriving DecidableEq, Repr

/-- Ordered global coordinator that never confirms before every exact install. -/
structure DistributedScheduleCoordinator where
  participants : List ParticipantCoordinator
  globalJobDigest : Digest
  participantSetDigest : Digest
  globalTimebaseHz : UInt64
  durationTicks : UInt64
  networkPolicy : JobNetworkPolicy
  targetUiNs : Option UInt64
  intent : CoordinationIntent
  faultCleanupActive : Bool
  deriving DecidableEq, Repr

/-- Global cache, clock, timing, participant, or schedule-control rejection. -/
inductive DistributedScheduleError [JobWire] [ClockEstimation] where
  | participantSet | state | participantState | pointOfNoReturn | confirmationClosed
  | clockUnavailable | clockIdentity | timing
  | leaseTooShort (supplied required : UInt64)
  | clock (error : ClockProbeError)
  | schedule (error : ScheduleControlError)
  | commit (error : JobWire.ScheduleError)

abbrev DistributedResult [JobWire] [ClockEstimation] := Except DistributedScheduleError

/-! ## Phases -/

def terminalFailure (phase : ParticipantSchedulePhase) : Bool :=
  phase ∈ [.aborted, .cancelled, .expired, .faulted]

def postGuard (phase : ParticipantSchedulePhase) : Bool :=
  phase ∈ [.priming, .primed, .running, .complete]

namespace ParticipantCoordinator

def phase (participant : ParticipantCoordinator) : ParticipantSchedulePhase :=
  participant.control.phase

def safeAfterAbort (participant : ParticipantCoordinator) : Bool :=
  if participant.control.commit.isNone then participant.phase ∈ [.empty, .cancelled]
  else participant.phase ∈ [.aborted, .expired, .faulted]

def terminalAfterFaultCleanup (participant : ParticipantCoordinator) : Bool :=
  if participant.control.commit.isNone then participant.phase ∈ [.empty, .cancelled, .faulted]
  else participant.phase ∈ [.aborted, .expired, .complete, .faulted]

end ParticipantCoordinator

/-- Some participants stopped, the others completed. -/
def splitAfterAbortIsTerminal (participants : List ParticipantCoordinator) : Bool :=
  participants.all (·.phase ∈ [.aborted, .expired, .complete]) &&
    participants.any (·.phase ∈ [.aborted, .expired]) &&
    participants.any (·.phase = .complete)

def abortPhase (participants : List ParticipantCoordinator) (faultCleanupActive : Bool) :
    DistributedSchedulePhase :=
  if faultCleanupActive && participants.all (·.terminalAfterFaultCleanup) then .faulted
  else if participants.all (·.safeAfterAbort) then .aborted
  else if splitAfterAbortIsTerminal participants then .splitAfterAbort
  else if participants.any (postGuard ·.phase) then .irrevocable
  else .aborting

/-! ## Timing -/

section Timing

variable [JobWire] [ClockEstimation]

def validateTiming (timing : ParticipantStartTiming) : DistributedResult Unit :=
  failIf (timing.maximumUncertaintyCycles = 0 ∨ timing.requiredSyncToleranceCycles = 0 ∨
    timing.requiredSyncToleranceCycles < timing.maximumUncertaintyCycles ∨
    timing.confirmationLeadCycles ≤ timing.abortGuardLeadCycles ∨
    timing.abortGuardLeadCycles = 0 ∨ timing.leaseCycles = 0) .timing

/-- `value * multiplier / divisor`, rounded up, in 128-bit arithmetic. -/
def ceilProductRatio (value multiplier divisor : UInt64) : DistributedResult UInt64 := do
  failIf (divisor = 0) .timing
  let numerator := value.toNat * multiplier.toNat
  failIf (2 ^ 128 ≤ numerator) .timing
  failIf (2 ^ 128 ≤ numerator + (divisor.toNat - 1)) .timing
  let rounded := (numerator + (divisor.toNat - 1)) / divisor.toNat
  failIf (2 ^ 64 ≤ rounded) .timing
  pure (.ofNat rounded)

end Timing

namespace DistributedScheduleCoordinator

/-- Current global phase derived from every exact participant report. -/
def phase (coordinator : DistributedScheduleCoordinator) : DistributedSchedulePhase :=
  let participants := coordinator.participants
  if participants.all (·.phase = .complete) then .complete
  else
    match coordinator.intent with
    | .prepare =>
      if participants.any (·.control.report.isNone) then .preparing
      else if participants.all (·.phase = .ready) then .ready
      else if participants.any (fun p => terminalFailure p.phase || postGuard p.phase) then .faulted
      else .preparing
    | .install =>
      if participants.all (·.phase = .installed) then .installed
      else if participants.any (terminalFailure ·.phase) then .faulted
      else if participants.any (postGuard ·.phase) then .irrevocable
      else .installing
    | .confirm =>
      if participants.all (·.phase = .confirmed) then .confirmed
      else if participants.any (postGuard ·.phase) then .irrevocable
      else if participants.any (terminalFailure ·.phase) then .faulted
      else .confirming
    | .abort => abortPhase participants coordinator.faultCleanupActive
    | .cancel =>
      if coordinator.faultCleanupActive && participants.all (·.terminalAfterFaultCleanup) then
        .faulted
      else if participants.all (·.phase ∈ [.empty, .cancelled]) then .cancelled
      else .cancelling

/-- The preparation has not seen a report of every participant yet. -/
def initialRound (coordinator : DistributedScheduleCoordinator) : Bool :=
  coordinator.intent = .prepare && coordinator.participants.any (·.control.report.isNone)

/-- Where the participant of a device is, by binary search. -/
def indexOf (coordinator : DistributedScheduleCoordinator) (deviceId : DeviceId) : Option Nat :=
  Table.binarySearch (fun participant => deviceKey participant.deviceId) (deviceKey deviceId)
    coordinator.participants

def participant (coordinator : DistributedScheduleCoordinator) (deviceId : DeviceId) :
    Option ParticipantCoordinator :=
  (coordinator.indexOf deviceId).bind (coordinator.participants[·]?)

/-- Exact observed phase for one stable device identity. -/
def participantPhase (coordinator : DistributedScheduleCoordinator) (deviceId : DeviceId) :
    Option ParticipantSchedulePhase :=
  (coordinator.participant deviceId).map (·.phase)

/-- Exact planned commit for one participant after start binding. -/
def participantCommit (coordinator : DistributedScheduleCoordinator) (deviceId : DeviceId) :
    Option JobCommitRequest :=
  (coordinator.participant deviceId).bind (·.plannedCommit)

/-- Device-reported local start cycle after exact descriptor reconciliation. -/
def participantLocalStartCycle (coordinator : DistributedScheduleCoordinator)
    (deviceId : DeviceId) : Option DeviceCycle := do
  let participant ← coordinator.participant deviceId
  (participant.control.commit.map (·.localStartCycle)).or do
    let report ← participant.control.report
    let schedule ← report.schedule
    guard schedule.policy.isSome
    pure schedule.localStartCycle

/-- Latest authenticated device-reported lease for one participant. -/
def participantLeaseExpiryCycle (coordinator : DistributedScheduleCoordinator)
    (deviceId : DeviceId) : Option DeviceCycle := do
  let participant ← coordinator.participant deviceId
  let report ← participant.control.report
  let schedule ← report.schedule
  guard schedule.policy.isSome
  pure schedule.leaseExpiryCycle

/-- Greatest exact lease expiry requested for one participant. -/
def participantAuthorizedLeaseExpiryCycle (coordinator : DistributedScheduleCoordinator)
    (deviceId : DeviceId) : Option DeviceCycle :=
  (coordinator.participant deviceId).bind (·.control.authorizedLeaseExpiryCycle)

/-- Replace the controller of the participant at a position. -/
def setControl (coordinator : DistributedScheduleCoordinator) (index : Nat)
    (control : ParticipantScheduleMachine jobAxes) : DistributedScheduleCoordinator :=
  { coordinator with
    participants := coordinator.participants.modify index ({ · with control }) }

def activateFaultCleanupIfObserved (coordinator : DistributedScheduleCoordinator) :
    DistributedScheduleCoordinator :=
  if coordinator.participants.any (·.phase = .faulted) then
    { coordinator with
      faultCleanupActive := true
      intent := if coordinator.targetUiNs.isSome then .abort else .cancel }
  else coordinator

/-! ## Construction -/

variable [JobWire] [ClockEstimation]

/-- Bind one cached schedule to its cache proof. -/
def bindParticipant (identity : DistributedJobIdentity) (ready : ParticipantCacheReady)
    (cached : CachedParticipantSchedule) : DistributedResult ParticipantCoordinator := do
  failIf (ready.deviceId ≠ cached.deviceId ∨ ready.partition ≠ cached.descriptor.partition ∨
    ready.globalManifest ≠ identity.globalManifest) .participantSet
  let control ← (ParticipantScheduleMachine.new cached.descriptor cached.bootId).mapError .schedule
  pure ⟨cached.deviceId, control, none⟩

/-- Construct the coordinator from independently decoded worker artifacts. -/
def afterCachedArtifacts (identity : DistributedJobIdentity)
    (cacheReady : List ParticipantCacheReady) (cached : List CachedParticipantSchedule) :
    DistributedResult DistributedScheduleCoordinator := do
  failIf (cacheReady = [] ∨ cacheReady.length ≠ cached.length ∨
    identity.globalJobDigest.isZero ∨ identity.participantSetDigest.isZero ∨
    identity.globalTimebaseHz = 0 ∨ identity.durationTicks = 0 ∨
    identity.globalManifest.object.kind ≠ .machineJobManifest ∨
    identity.globalManifest.object.content.digest ≠ identity.globalJobDigest) .participantSet
  let ready := Table.sortByKey (fun item => deviceKey item.deviceId) cacheReady
  let cached := Table.sortByKey (fun item => deviceKey item.deviceId) cached
  let participants ← (ready.zip cached).mapM fun (ready, cached) =>
    bindParticipant identity ready cached
  pure
    { participants
      globalJobDigest := identity.globalJobDigest
      participantSetDigest := identity.participantSetDigest
      globalTimebaseHz := identity.globalTimebaseHz
      durationTicks := identity.durationTicks
      networkPolicy := identity.networkPolicy
      targetUiNs := none
      intent := .prepare
      faultCleanupActive := false }

/-! ## Start binding -/

/-- The inputs in the order of their devices, each beside a participant. -/
def alignInputs (coordinator : DistributedScheduleCoordinator)
    (inputs : List ParticipantStartInput) :
    List (ParticipantCoordinator × ParticipantStartInput) :=
  coordinator.participants.zip (Table.sortByKey (fun input => deviceKey input.deviceId) inputs)

/-- An input belongs to a participant. -/
def checkInput (participant : ParticipantCoordinator) (input : ParticipantStartInput) :
    DistributedResult Unit :=
  failIf (input.deviceId ≠ participant.deviceId ∨
    input.clock.bootId ≠ some participant.control.bootId) .participantSet

/-- Classify the deadlines of the remaining participants at one browser instant. -/
def windowFrom (nowUiNs : UInt64) (confirmationOpen : Bool) :
    List (ParticipantCoordinator × ParticipantStartInput) →
      DistributedResult DistributedDeadlineWindow
  | [] => pure (if confirmationOpen then .confirmationOpen else .abortOnly)
  | (participant, input) :: rest => do
    checkInput participant input
    validateTiming input.timing
    let estimate ← (input.clock.estimateAt nowUiNs input.timing.maximumUncertaintyCycles).mapError
      .clock
    failIf (estimate.bootId ≠ participant.control.bootId ∨ estimate.uiNs ≠ nowUiNs ∨
      input.timing.requiredSyncToleranceCycles < estimate.uncertaintyCycles) .clockIdentity
    let commit ← participant.plannedCommit.okOr .state
    if commit.abortGuardCycle ≤ estimate.latestCycle then pure .pointOfNoReturn
    else
      windowFrom nowUiNs (confirmationOpen && estimate.latestCycle < commit.confirmDeadlineCycle)
        rest

/-- Conservatively classify all participant deadlines at one browser instant. -/
def deadlineWindow (coordinator : DistributedScheduleCoordinator) (nowUiNs : UInt64)
    (inputs : List ParticipantStartInput) : DistributedResult DistributedDeadlineWindow := do
  failIf (coordinator.targetUiNs.isNone ∨ inputs.length ≠ coordinator.participants.length) .state
  windowFrom nowUiNs true (coordinator.alignInputs inputs)

/-- The commit of one participant for a global start. -/
def planCommit (coordinator : DistributedScheduleCoordinator) (nowUiNs targetUiNs : UInt64)
    (participant : ParticipantCoordinator) (input : ParticipantStartInput) :
    DistributedResult JobCommitRequest := do
  checkInput participant input
  let timing := input.timing
  validateTiming timing
  let prediction ← (input.clock.predict nowUiNs targetUiNs timing.maximumUncertaintyCycles).mapError
    .clock
  let latest ← input.clock.latestResponse.okOr .clockUnavailable
  failIf (prediction.bootId ≠ participant.control.bootId ∨ prediction.targetUiNs ≠ targetUiNs ∨
    prediction.nowUiNs ≠ nowUiNs ∨
    timing.requiredSyncToleranceCycles < prediction.uncertaintyCycles) .clockIdentity
  let start := prediction.scheduledCycle
  let confirm ← (start.checkedSub timing.confirmationLeadCycles).okOr .timing
  let abort ← (start.checkedSub timing.abortGuardLeadCycles).okOr .timing
  let lease ← (start.checkedAdd timing.leaseCycles).okOr .timing
  failIf (confirm ≤ prediction.nowLatestCycle ∨ abort ≤ confirm ∨ start ≤ abort) .timing
  let requiredJobCycles ←
    ceilProductRatio coordinator.durationTicks latest.frequencyHz coordinator.globalTimebaseHz
  failIf (coordinator.networkPolicy = .cachedAutonomous ∧ timing.leaseCycles < requiredJobCycles)
    (.leaseTooShort timing.leaseCycles requiredJobCycles)
  let descriptor := participant.control.descriptor
  let commit : JobCommitRequest :=
    { policy := coordinator.networkPolicy
      prepareId := descriptor.prepareId
      bootId := participant.control.bootId
      globalJobDigest := coordinator.globalJobDigest
      participantSetDigest := coordinator.participantSetDigest
      preparedToken := participant.control.preparedToken
      partitionDigest := descriptor.partition.object.content.digest
      localStartCycle := start
      confirmDeadlineCycle := confirm
      abortGuardCycle := abort
      leaseExpiryCycle := lease
      clockProbeId := prediction.latestProbeId
      clockUncertaintyCycles := prediction.uncertaintyCycles
      requiredSyncToleranceCycles := timing.requiredSyncToleranceCycles
      commitId := timing.commitId }
  let _ ← (JobWire.encodeCommit commit).mapError .commit
  pure commit

/-- Atomically map one global future browser epoch into every local commit. -/
def bindStart (coordinator : DistributedScheduleCoordinator) (nowUiNs targetUiNs : UInt64)
    (inputs : List ParticipantStartInput) : DistributedResult DistributedScheduleCoordinator := do
  failIf (coordinator.phase ≠ .ready ∨ coordinator.targetUiNs.isSome) .state
  failIf (inputs.length ≠ coordinator.participants.length) .participantSet
  let commits ← (coordinator.alignInputs inputs).mapM fun (participant, input) =>
    coordinator.planCommit nowUiNs targetUiNs participant input
  pure
    { coordinator with
      participants := coordinator.participants.zipWith
        (fun participant commit => { participant with plannedCommit := some commit }) commits
      targetUiNs := some targetUiNs
      intent := .install }

/-! ## Intents -/

/-- Open the confirmation phase after every exact commit was observed installed. -/
def beginConfirmation (coordinator : DistributedScheduleCoordinator) (nowUiNs : UInt64)
    (inputs : List ParticipantStartInput) : DistributedResult DistributedScheduleCoordinator := do
  failIf (coordinator.phase ≠ .installed) .state
  match ← coordinator.deadlineWindow nowUiNs inputs with
  | .confirmationOpen => pure { coordinator with intent := .confirm }
  | .abortOnly => throw .confirmationClosed
  | .pointOfNoReturn => throw .pointOfNoReturn

/-- Switch all still-reachable installed work to pre-guard abort reconciliation. -/
def beginAbort (coordinator : DistributedScheduleCoordinator) :
    DistributedResult DistributedScheduleCoordinator := do
  failIf coordinator.targetUiNs.isNone .state
  failIf (coordinator.phase ∈ [.irrevocable, .complete, .aborted, .splitAfterAbort])
    .pointOfNoReturn
  pure { coordinator with intent := .abort }

/-- Switch a precommit preparation to idempotent actor cleanup. -/
def beginCancel (coordinator : DistributedScheduleCoordinator) :
    DistributedResult DistributedScheduleCoordinator := do
  failIf (coordinator.targetUiNs.isSome ∨ coordinator.phase ∈ [.cancelled, .complete]) .state
  pure { coordinator with intent := .cancel }

/-! ## Requests -/

/-- Ask every participant in turn for a status request. -/
def statusEach : List ParticipantCoordinator →
    List ParticipantCoordinator × DistributedResult (List DistributedScheduleRequest)
  | [] => ([], .ok [])
  | participant :: rest =>
    match participant.control.beginStatus with
    | .error error => (participant :: rest, .error (.schedule error))
    | .ok (request, control) =>
      let (rest, requests) := statusEach rest
      ({ participant with control } :: rest, requests.map (⟨participant.deviceId, request⟩ :: ·))

/-- Start one concurrent read-only status round across every participant. -/
def beginStatusRound (coordinator : DistributedScheduleCoordinator) :
    DistributedScheduleCoordinator × DistributedResult (List DistributedScheduleRequest) :=
  if coordinator.participants.any (·.control.pending.isSome) then
    (coordinator, .error .participantState)
  else
    let (participants, requests) := statusEach coordinator.participants
    ({ coordinator with participants }, requests)

/-- Open a renewal on every staged participant in turn. -/
def renewEach : List ParticipantCoordinator → List ParticipantLeaseRenewal →
    List ParticipantCoordinator × DistributedResult (List DistributedScheduleRequest)
  | participant :: rest, renewal :: renewals =>
    match participant.control.beginLeaseRenew renewal.leaseExpiryCycle with
    | .error error => (participant :: rest, .error (.schedule error))
    | .ok (request, control) =>
      let (rest, requests) := renewEach rest renewals
      ({ participant with control } :: rest, requests.map (⟨participant.deviceId, request⟩ :: ·))
  | participants, _ => (participants, .ok [])

/-- Atomically open one rolling attended-lease request on every participant. -/
def beginLeaseRenewal (coordinator : DistributedScheduleCoordinator)
    (renewals : List ParticipantLeaseRenewal) :
    DistributedScheduleCoordinator × DistributedResult (List DistributedScheduleRequest) :=
  if coordinator.networkPolicy ≠ .networkAttended ∨
      coordinator.phase ∉ [.confirmed, .irrevocable] ∨
      renewals.length ≠ coordinator.participants.length ∨
      coordinator.participants.any (·.control.pending.isSome) then
    (coordinator, .error .state)
  else
    let ordered := Table.sortByKey (fun renewal => deviceKey renewal.deviceId) renewals
    if (coordinator.participants.zip ordered).any fun (participant, renewal) =>
        participant.deviceId ≠ renewal.deviceId then
      (coordinator, .error .participantSet)
    else
      let (staged, requests) := renewEach coordinator.participants ordered
      match requests with
      | .error error => (coordinator, .error error)
      | .ok requests => ({ coordinator with participants := staged }, .ok requests)

/-- What a participant is asked for next, with its controller once it was asked. -/
abbrev Asked := Option (ScheduleOperation × ParticipantScheduleMachine jobAxes)

/-- Ask a controller for an operation. -/
def ask (result : ScheduleResult (ScheduleOperation × ParticipantScheduleMachine jobAxes)) :
    DistributedResult Asked :=
  (some <$> result).mapError .schedule

def nextAbortOperation (participant : ParticipantCoordinator) : DistributedResult Asked :=
  if participant.control.commit.isNone then
    match participant.phase with
    | .empty | .cancelled => pure none
    | .preparing | .ready | .faulted => ask participant.control.beginCancel
    | _ => throw .participantState
  else
    match participant.phase with
    | .installing | .installed | .confirmed => ask participant.control.beginAbort
    | .aborted | .expired | .faulted => pure none
    | phase => if postGuard phase then pure none else throw .participantState

/-- What the intent asks of a participant with nothing pending or to reconcile. -/
def intendedOperation (participant : ParticipantCoordinator) :
    CoordinationIntent → DistributedResult Asked
  | .prepare =>
    match participant.phase with
    | .empty => ask participant.control.beginPrepare
    | .preparing => ask participant.control.beginStatus
    | .ready => pure none
    | _ => throw .participantState
  | .install =>
    match participant.phase with
    | .ready | .installing => do
      let commit ← participant.plannedCommit.okOr .state
      ask (participant.control.beginInstall commit)
    | .installed => pure none
    | _ => throw .participantState
  | .confirm =>
    match participant.phase with
    | .installed => ask participant.control.beginConfirm
    | .confirmed => pure none
    | phase => if postGuard phase then pure none else throw .participantState
  | .abort => nextAbortOperation participant
  | .cancel =>
    match participant.phase with
    | .empty | .cancelled => pure none
    | .preparing | .ready | .faulted =>
      if participant.control.commit.isNone then ask participant.control.beginCancel
      else throw .participantState
    | _ => throw .participantState

/-- What one participant is asked for in the request loop. -/
def nextOperation (intent : CoordinationIntent) (initialStatusRound : Bool)
    (participant : ParticipantCoordinator) : DistributedResult Asked :=
  if participant.control.pending.isSome then pure none
  else if participant.control.reconciliationRequired then ask participant.control.beginStatus
  else if initialStatusRound then
    if participant.control.report.isNone then ask participant.control.beginStatus else pure none
  else intendedOperation participant intent

/-- The first request any participant is asked for. -/
def firstRequest (operation : ParticipantCoordinator → DistributedResult Asked) :
    List ParticipantCoordinator →
      DistributedResult (Option (DistributedScheduleRequest × List ParticipantCoordinator))
  | [] => pure none
  | participant :: rest => do
    match ← operation participant with
    | some (request, control) =>
      pure (some (⟨participant.deviceId, request⟩, { participant with control } :: rest))
    | none =>
      match ← firstRequest operation rest with
      | some (request, rest) => pure (some (request, participant :: rest))
      | none => pure none

/-- Emit the next unique participant operation. -/
def nextRequest (coordinator : DistributedScheduleCoordinator) :
    DistributedResult (Option DistributedScheduleRequest × DistributedScheduleCoordinator) := do
  if coordinator.phase ∈ [.aborted, .splitAfterAbort, .cancelled, .complete, .faulted] then
    pure (none, coordinator)
  else
    match ← firstRequest (nextOperation coordinator.intent coordinator.initialRound)
        coordinator.participants with
    | none => pure (none, coordinator)
    | some (request, participants) => pure (some request, { coordinator with participants })

/-! ## Responses -/

/-- Apply one authenticated response to its stable device owner. -/
def acceptResponse (coordinator : DistributedScheduleCoordinator) (deviceId : DeviceId)
    (response : Response) :
    DistributedScheduleCoordinator × DistributedResult DistributedSchedulePhase :=
  match coordinator.indexOf deviceId with
  | none => (coordinator, .error .participantSet)
  | some index =>
    match coordinator.participants[index]? with
    | none => (coordinator, .error .participantSet)
    | some participant =>
      let passiveInitialRound := coordinator.initialRound
      let (control, result) := participant.control.acceptResponse response
      let coordinator := coordinator.setControl index control
      let coordinator :=
        if !passiveInitialRound || coordinator.participants.all (·.control.report.isSome) then
          coordinator.activateFaultCleanupIfObserved
        else coordinator
      (coordinator, match result with
        | .error error => .error (.schedule error)
        | .ok _ => .ok coordinator.phase)

/-- Mark one device request ambiguous. -/
def abandonPending (coordinator : DistributedScheduleCoordinator) (deviceId : DeviceId) :
    DistributedScheduleCoordinator × DistributedResult Bool :=
  match coordinator.indexOf deviceId with
  | none => (coordinator, .error .participantSet)
  | some index =>
    match coordinator.participants[index]? with
    | none => (coordinator, .error .participantSet)
    | some participant =>
      let (control, had) := participant.control.abandonPending
      (coordinator.setControl index control, .ok had)

/-! ## Calls -/

/-- A call on the coordinator. -/
inductive Call where
  | nextRequest
  | acceptResponse (deviceId : DeviceId) (response : Response)
  | abandonPending (deviceId : DeviceId)
  | beginStatusRound
  | bindStart (nowUiNs targetUiNs : UInt64) (inputs : List ParticipantStartInput)
  | beginConfirmation (nowUiNs : UInt64) (inputs : List ParticipantStartInput)
  | beginLeaseRenewal (renewals : List ParticipantLeaseRenewal)
  | beginAbort | beginCancel

/-- What a call returned. -/
inductive Outcome where
  | next (result : DistributedResult (Option DistributedScheduleRequest))
  | round (result : DistributedResult (List DistributedScheduleRequest))
  | phase (result : DistributedResult DistributedSchedulePhase)
  | abandoned (result : DistributedResult Bool)
  | done (result : DistributedResult Unit)

/-- The requests a call emitted. -/
def Outcome.emitted : Outcome → List DistributedScheduleRequest
  | .next (.ok request) => request.toList
  | .round (.ok requests) => requests
  | _ => []

/-- A change of intent that failed left the coordinator as it was. -/
def changed (coordinator : DistributedScheduleCoordinator) :
    DistributedResult DistributedScheduleCoordinator → DistributedScheduleCoordinator × Outcome
  | .ok coordinator => (coordinator, .done (.ok ()))
  | .error error => (coordinator, .done (.error error))

def perform (coordinator : DistributedScheduleCoordinator) :
    Call → DistributedScheduleCoordinator × Outcome
  | .nextRequest =>
    match coordinator.nextRequest with
    | .ok (request, coordinator) => (coordinator, .next (.ok request))
    | .error error => (coordinator, .next (.error error))
  | .acceptResponse deviceId response =>
    let (coordinator, result) := coordinator.acceptResponse deviceId response
    (coordinator, .phase result)
  | .abandonPending deviceId =>
    let (coordinator, result) := coordinator.abandonPending deviceId
    (coordinator, .abandoned result)
  | .beginStatusRound =>
    let (coordinator, result) := coordinator.beginStatusRound
    (coordinator, .round result)
  | .bindStart nowUiNs targetUiNs inputs =>
    coordinator.changed (coordinator.bindStart nowUiNs targetUiNs inputs)
  | .beginConfirmation nowUiNs inputs =>
    coordinator.changed (coordinator.beginConfirmation nowUiNs inputs)
  | .beginLeaseRenewal renewals =>
    let (coordinator, result) := coordinator.beginLeaseRenewal renewals
    (coordinator, .round result)
  | .beginAbort => coordinator.changed coordinator.beginAbort
  | .beginCancel => coordinator.changed coordinator.beginCancel

/-- One call on the coordinator. -/
abbrev Step : DistributedScheduleCoordinator → Call × Outcome → DistributedScheduleCoordinator →
    Prop :=
  Run.Calls perform

end DistributedScheduleCoordinator

end Alumina.Client
