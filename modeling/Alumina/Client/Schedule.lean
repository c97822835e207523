import Mathlib
import Alumina.ForStd.Except
import Alumina.ForStd.Run
import Alumina.Client.Protocol

/-!
# The schedule of one participant

`ParticipantScheduleMachine` takes one device through prepare, install, confirm and abort
of an already cached job partition. It keeps the latest report it validated; an ambiguous
mutation must be reconciled by a status request before the next one.

The job crate (descriptor checks, prepare receipts and the wire forms) is not part of this
code and is the parameter `JobWire`. Of its records the fields this code reads are kept;
`details` stands for the others, which only equality looks at.
-/

namespace Alumina.Client

open Except (failIf)
open Alumina.Graph (Digest FixedArray)

/-! ## Job data -/

abbrev DeviceCycle := UInt64

abbrev BootId := FixedArray UInt8 16

structure PreparedJobToken where
  bytes : List UInt8
  deriving DecidableEq, Repr

structure JobCommitId where
  asBytes : List UInt8
  deriving DecidableEq, Repr

inductive JobNetworkPolicy where
  | networkAttended | cachedAutonomous
  deriving DecidableEq, Repr

/-- Exact local job descriptor. -/
structure JobDescriptor where
  prepareId : UInt64
  partition : PublishedObject
  blockCount : UInt32
  details : List UInt8
  deriving DecidableEq, Repr

/-- One device-local future schedule. -/
structure JobCommitRequest where
  policy : JobNetworkPolicy
  prepareId : UInt64
  bootId : BootId
  globalJobDigest : Digest
  participantSetDigest : Digest
  preparedToken : PreparedJobToken
  partitionDigest : Digest
  localStartCycle : DeviceCycle
  confirmDeadlineCycle : DeviceCycle
  abortGuardCycle : DeviceCycle
  leaseExpiryCycle : DeviceCycle
  clockProbeId : UInt64
  clockUncertaintyCycles : UInt64
  requiredSyncToleranceCycles : UInt64
  commitId : JobCommitId
  deriving DecidableEq, Repr

inductive ServiceJobState where
  | prefetching | complete | cancelled | faulted
  | other (tag : UInt8)
  deriving DecidableEq, Repr

structure ServiceJobReport where
  prepareId : UInt64
  state : ServiceJobState
  axisCount : UInt8
  totalBlocks : UInt32
  details : List UInt8
  deriving DecidableEq, Repr

inductive RealtimeJobState where
  | admitted | complete | cancelled | faulted
  | other (tag : UInt8)
  deriving DecidableEq, Repr

structure RealtimeJobReport where
  prepareId : UInt64
  state : RealtimeJobState
  totalBlocks : UInt32
  outstanding : Bool
  details : List UInt8
  deriving DecidableEq, Repr

inductive JobScheduleState where
  | prepared | installed | confirmed | priming | primed | running
  | aborted | expired | complete | faulted
  deriving DecidableEq, Repr

inductive JobStartObservationSource where
  | simulatedLatch
  | other (tag : UInt8)
  deriving DecidableEq, Repr

/-- A device's evidence of its first output edge. -/
structure JobStartObservation where
  source : JobStartObservationSource
  outputToken : UInt32
  scheduledCycle : DeviceCycle
  earliestCycle : DeviceCycle
  latestCycle : DeviceCycle
  deriving DecidableEq, Repr

structure JobScheduleReport where
  descriptorToken : PreparedJobToken
  preparedToken : Option PreparedJobToken
  policy : Option JobNetworkPolicy
  localStartCycle : DeviceCycle
  confirmDeadlineCycle : DeviceCycle
  abortGuardCycle : DeviceCycle
  leaseExpiryCycle : DeviceCycle
  commitId : List UInt8
  state : JobScheduleState
  startObservation : Option JobStartObservation
  details : List UInt8
  deriving DecidableEq, Repr

/-- Combined report of the service actor, the real-time actor and the schedule. -/
structure JobStatusReport where
  service : Option ServiceJobReport := none
  realtime : Option RealtimeJobReport := none
  schedule : Option JobScheduleReport := none
  deriving DecidableEq, Repr

/-- `JobStatusReport::default()` -/
instance : Inhabited JobStatusReport := ⟨{}⟩

inductive JobScheduleReferenceAction where
  | confirm | abort
  deriving DecidableEq, Repr

/-- The job crate: descriptor checks, prepare receipts and canonical bodies. -/
class JobWire where
  DescriptorError : Type
  ScheduleError : Type
  CancelError : Type
  StatusError : Type
  /-- `JobDescriptor::validate::<AXES>` -/
  validateDescriptor : Nat → JobDescriptor → Except DescriptorError Unit
  /-- `PreparedJobToken::derive::<AXES>` -/
  deriveToken : Nat → BootId → JobDescriptor → Except DescriptorError PreparedJobToken
  encodeDescriptor : Nat → JobDescriptor → Except DescriptorError (List UInt8)
  encodeCommit : JobCommitRequest → Except ScheduleError (List UInt8)
  /-- `JobScheduleReference::for_commit` and its encoding -/
  encodeReference : JobScheduleReferenceAction → JobCommitRequest →
    Except ScheduleError (List UInt8)
  /-- `JobLeaseRenewRequest::for_commit` and its encoding -/
  encodeRenewal : JobCommitRequest → DeviceCycle → Except ScheduleError (List UInt8)
  /-- `JobCancelRequest` of a prepare identity -/
  encodeCancel : UInt64 → Except CancelError (List UInt8)
  decodeStatus : List UInt8 → Except StatusError JobStatusReport

/-! ## The machine -/

/-- One canonical job operation emitted for authenticated transport. -/
structure ScheduleOperation where
  operation : Operation
  body : List UInt8
  deriving DecidableEq, Repr

inductive ScheduleAction where
  | prepare | status | install | confirm | renewLease | abort | cancel
  deriving DecidableEq, Repr

def ScheduleAction.mutates (action : ScheduleAction) : Bool := action ≠ .status

/-- Exact device-observed phase for one prepared participant. -/
inductive ParticipantSchedulePhase where
  | empty | preparing | ready | installing | installed | confirmed | priming | primed | running
  | aborted | cancelled | expired | complete | faulted
  deriving DecidableEq, Repr

/-- Per-participant schedule construction, state, response, or identity failure. -/
inductive ScheduleControlError [JobWire] where
  | requestPending | noPendingRequest | reconciliationRequired
  | state | conflict | identity | foreignCommit | responseBody
  | deviceStatus (status : StatusCode)
  | regression
  | descriptor (error : JobWire.DescriptorError)
  | schedule (error : JobWire.ScheduleError)
  | cancel (error : JobWire.CancelError)
  | status (error : JobWire.StatusError)

/-- Retry-safe controller for one device's already cached job partition. -/
structure ParticipantScheduleMachine (axes : Nat) where
  descriptor : JobDescriptor
  bootId : BootId
  preparedToken : PreparedJobToken
  commit : Option JobCommitRequest
  authorizedLeaseExpiryCycle : Option DeviceCycle
  report : Option JobStatusReport
  pending : Option ScheduleAction
  reconciliationRequired : Bool
  deriving DecidableEq, Repr

/-! ## Reports -/

/-- Whether either actor reports a fault. -/
def JobStatusReport.actorFaulted (report : JobStatusReport) : Bool :=
  report.service.any (·.state = .faulted) || report.realtime.any (·.state = .faulted)

/-- Whether both actors report cancellation. -/
def JobStatusReport.actorsCancelled (report : JobStatusReport) : Bool :=
  report.service.any (·.state = .cancelled) && report.realtime.any (·.state = .cancelled)

def replaceableForeignTerminal (descriptor : JobDescriptor) (report : JobStatusReport) : Bool :=
  match report.service, report.realtime with
  | some service, some realtime =>
    if service.prepareId = descriptor.prepareId then false
    else
      match report.schedule with
      | none => service.state = .cancelled && realtime.state = .cancelled
      | some schedule =>
        match schedule.state with
        | .aborted | .expired | .complete | .faulted => true
        | _ => false
  | _, _ => false

def scheduleMatchesCommit (schedule : JobScheduleReport) (commit : JobCommitRequest)
    (authorizedLeaseExpiryCycle : Option DeviceCycle) : Bool :=
  let leaseMatches : Bool :=
    match commit.policy with
    | .networkAttended => authorizedLeaseExpiryCycle.any fun expiry =>
        commit.leaseExpiryCycle ≤ schedule.leaseExpiryCycle && schedule.leaseExpiryCycle ≤ expiry
    | .cachedAutonomous =>
      schedule.leaseExpiryCycle = commit.leaseExpiryCycle &&
        authorizedLeaseExpiryCycle = some commit.leaseExpiryCycle
  schedule.policy = some commit.policy && schedule.preparedToken.isNone &&
    schedule.localStartCycle = commit.localStartCycle &&
    schedule.confirmDeadlineCycle = commit.confirmDeadlineCycle &&
    schedule.abortGuardCycle = commit.abortGuardCycle && leaseMatches &&
    schedule.commitId = commit.commitId.asBytes

/-- A report of the same state, with a later lease and a first start observation taken
back to what was reported before. -/
def JobScheduleReport.normalized (previous next : JobScheduleReport) : JobScheduleReport :=
  let normalized :=
    if previous.policy = some .networkAttended ∧
        previous.leaseExpiryCycle < next.leaseExpiryCycle then
      { next with leaseExpiryCycle := previous.leaseExpiryCycle }
    else next
  if previous.state = .running ∧ previous.startObservation.isNone ∧
      next.startObservation.isSome then
    { normalized with startObservation := none }
  else normalized

/-- The states that may follow a state. -/
def JobScheduleState.precedes : JobScheduleState → JobScheduleState → Bool
  | .prepared, next => next ≠ .prepared
  | .installed, next =>
    next ∈ [.confirmed, .priming, .primed, .running, .aborted, .expired, .complete, .faulted]
  | .confirmed, next => next ∈ [.priming, .primed, .running, .aborted, .complete, .faulted]
  | .priming, next => next ∈ [.primed, .running, .complete, .faulted]
  | .primed, next => next ∈ [.running, .complete, .faulted]
  | .running, next => next ∈ [.complete, .faulted]
  | .aborted, _ | .expired, _ | .complete, _ | .faulted, _ => false

def scheduleReportAdvances (previous next : JobScheduleReport) : Bool :=
  if previous = next then true
  else if previous.policy = some .networkAttended ∧
      next.leaseExpiryCycle < previous.leaseExpiryCycle then false
  else if previous.state = next.state ∧ previous.normalized next = previous then true
  else previous.state.precedes next.state

def jobReportAdvances (previous next : JobStatusReport) : Bool :=
  match previous.schedule, next.schedule with
  | none, _ => true
  | some _, none => next.actorsCancelled
  | some previous, some next => scheduleReportAdvances previous next

abbrev ScheduleResult [JobWire] := Except ScheduleControlError

namespace ParticipantScheduleMachine

variable {axes : Nat}

def readyReport (report : JobStatusReport) : Bool :=
  report.service.any (fun service => service.state = .prefetching || service.state = .complete) &&
    report.realtime.any fun realtime => realtime.state = .admitted && realtime.outstanding

/-- Current device-observed phase, with locally bound install intent retained. -/
def phase (machine : ParticipantScheduleMachine axes) : ParticipantSchedulePhase :=
  match machine.report with
  | none => .empty
  | some report =>
    if report = default then .empty
    else if report.actorFaulted then .faulted
    else if report.actorsCancelled then .cancelled
    else
      match report.schedule with
      | none => .preparing
      | some schedule =>
        match schedule.state with
        | .prepared =>
          if !readyReport report then .preparing
          else if machine.commit.isSome then .installing
          else .ready
        | .installed => .installed
        | .confirmed => .confirmed
        | .priming => .priming
        | .primed => .primed
        | .running => .running
        | .aborted => .aborted
        | .expired => .expired
        | .complete => .complete
        | .faulted => .faulted

variable [JobWire]

/-- Bind the exact descriptor and boot before any request can be emitted. -/
def new (descriptor : JobDescriptor) (bootId : BootId) :
    ScheduleResult (ParticipantScheduleMachine axes) := do
  (JobWire.validateDescriptor axes descriptor).mapError .descriptor
  let preparedToken ← (JobWire.deriveToken axes bootId descriptor).mapError .descriptor
  pure ⟨descriptor, bootId, preparedToken, none, none, none, none, false⟩

def ensureNoPending (machine : ParticipantScheduleMachine axes) : ScheduleResult Unit :=
  failIf machine.pending.isSome .requestPending

def ensureMutationAllowed (machine : ParticipantScheduleMachine axes) : ScheduleResult Unit := do
  machine.ensureNoPending
  failIf machine.reconciliationRequired .reconciliationRequired

/-- Emit an idempotent prepare for the exact descriptor. -/
def beginPrepare (machine : ParticipantScheduleMachine axes) :
    ScheduleResult (ScheduleOperation × ParticipantScheduleMachine axes) := do
  machine.ensureMutationAllowed
  failIf (machine.phase ∉ [.empty, .preparing] ∨ machine.commit.isSome) .state
  let body ← (JobWire.encodeDescriptor axes machine.descriptor).mapError .descriptor
  pure (⟨.jobPrepare, body⟩, { machine with pending := some .prepare })

/-- Emit a read-only exact status reconciliation request. -/
def beginStatus (machine : ParticipantScheduleMachine axes) :
    ScheduleResult (ScheduleOperation × ParticipantScheduleMachine axes) := do
  machine.ensureNoPending
  pure (⟨.jobStatus, []⟩, { machine with pending := some .status })

/-- Bind and emit one exact future schedule without granting start authority. -/
def beginInstall (machine : ParticipantScheduleMachine axes) (commit : JobCommitRequest) :
    ScheduleResult (ScheduleOperation × ParticipantScheduleMachine axes) := do
  machine.ensureMutationAllowed
  failIf (commit.prepareId ≠ machine.descriptor.prepareId ∨ commit.bootId ≠ machine.bootId ∨
    commit.preparedToken ≠ machine.preparedToken ∨
    commit.partitionDigest ≠ machine.descriptor.partition.object.content.digest) .identity
  let body ← (JobWire.encodeCommit commit).mapError .schedule
  failIf (machine.commit.any (· ≠ commit)) .conflict
  failIf (machine.phase ∉ [.ready, .installing]) .state
  pure (⟨.jobCommit, body⟩,
    { machine with
      commit := some commit
      authorizedLeaseExpiryCycle := some commit.leaseExpiryCycle
      pending := some .install })

/-- Emit the exact commit-digest reference that grants local start authority. -/
def beginConfirm (machine : ParticipantScheduleMachine axes) :
    ScheduleResult (ScheduleOperation × ParticipantScheduleMachine axes) := do
  machine.ensureMutationAllowed
  failIf (machine.phase ≠ .installed) .state
  let commit ← machine.commit.okOr .state
  let body ← (JobWire.encodeReference .confirm commit).mapError .schedule
  pure (⟨.jobConfirm, body⟩, { machine with pending := some .confirm })

/-- Emit one exact absolute extension of a network-attended lease. -/
def beginLeaseRenew (machine : ParticipantScheduleMachine axes) (leaseExpiryCycle : DeviceCycle) :
    ScheduleResult (ScheduleOperation × ParticipantScheduleMachine axes) := do
  machine.ensureMutationAllowed
  failIf (machine.phase ∉ [.confirmed, .priming, .primed, .running]) .state
  let commit ← machine.commit.okOr .state
  let schedule ← (machine.report.bind (·.schedule)).okOr .state
  failIf (leaseExpiryCycle ≤ schedule.leaseExpiryCycle) .state
  failIf (machine.authorizedLeaseExpiryCycle.any (leaseExpiryCycle < ·)) .conflict
  let body ← (JobWire.encodeRenewal commit leaseExpiryCycle).mapError .schedule
  pure (⟨.jobLeaseRenew, body⟩,
    { machine with
      authorizedLeaseExpiryCycle := some leaseExpiryCycle
      pending := some .renewLease })

/-- Emit the exact idempotent pre-guard abort reference. -/
def beginAbort (machine : ParticipantScheduleMachine axes) :
    ScheduleResult (ScheduleOperation × ParticipantScheduleMachine axes) := do
  machine.ensureMutationAllowed
  failIf (machine.phase ∉ [.installing, .installed, .confirmed]) .state
  let commit ← machine.commit.okOr .state
  let body ← (JobWire.encodeReference .abort commit).mapError .schedule
  pure (⟨.jobAbort, body⟩, { machine with pending := some .abort })

/-- Emit idempotent cleanup for one preparation that has no bound commit. -/
def beginCancel (machine : ParticipantScheduleMachine axes) :
    ScheduleResult (ScheduleOperation × ParticipantScheduleMachine axes) := do
  machine.ensureMutationAllowed
  failIf (machine.commit.isSome ∨ machine.phase ∉ [.preparing, .ready, .faulted]) .state
  let body ← (JobWire.encodeCancel machine.descriptor.prepareId).mapError .cancel
  pure (⟨.jobCancel, body⟩, { machine with pending := some .cancel })

def validateReport (machine : ParticipantScheduleMachine axes) (report : JobStatusReport) :
    ScheduleResult Unit := do
  failIf (report.service.any fun service =>
    service.prepareId ≠ machine.descriptor.prepareId || service.axisCount.toNat ≠ axes ||
      service.totalBlocks ≠ machine.descriptor.blockCount) .identity
  failIf (report.realtime.any fun realtime =>
    realtime.prepareId ≠ machine.descriptor.prepareId ||
      realtime.totalBlocks ≠ machine.descriptor.blockCount) .identity
  match report.schedule with
  | none => pure ()
  | some schedule =>
    failIf (schedule.descriptorToken ≠ machine.preparedToken) .identity
    if schedule.state = .prepared then
      failIf (schedule.preparedToken ≠ some machine.preparedToken) .identity
    else
      failIf (machine.commit.any fun commit =>
        !scheduleMatchesCommit schedule commit machine.authorizedLeaseExpiryCycle) .identity

/-- Keep a report, then surface a device rejection. -/
def retain (machine : ParticipantScheduleMachine axes) (report : JobStatusReport)
    (response : Response) (phase : ParticipantScheduleMachine axes → ParticipantSchedulePhase) :
    ParticipantScheduleMachine axes × ScheduleResult ParticipantSchedulePhase :=
  let machine := { machine with report := some report, reconciliationRequired := false }
  (machine, if response.status ≠ .ok then .error (.deviceStatus response.status)
    else .ok (phase machine))

/-- Accept one authenticated, natively correlated response and validate any report. -/
def acceptResponse (machine : ParticipantScheduleMachine axes) (response : Response) :
    ParticipantScheduleMachine axes × ScheduleResult ParticipantSchedulePhase :=
  match machine.pending with
  | none => (machine, .error .noPendingRequest)
  | some action =>
    let machine :=
      { machine with
        pending := none
        reconciliationRequired := machine.reconciliationRequired || action.mutates }
    if response.body = [] then
      if response.status = .ok ∨ action = .status then (machine, .error .responseBody)
      else (machine, .error (.deviceStatus response.status))
    else
      match JobWire.decodeStatus response.body with
      | .error error => (machine, .error (.status error))
      | .ok report =>
        if action = .status ∧ machine.report.isNone ∧ machine.commit.isNone ∧
            replaceableForeignTerminal machine.descriptor report then
          machine.retain default response fun _ => .empty
        else
          match machine.validateReport report with
          | .error error => (machine, .error error)
          | .ok () =>
            if machine.report.any (fun previous => !jobReportAdvances previous report) then
              (machine, .error .regression)
            else machine.retain report response phase

/-- Mark a lost or ambiguous request; mutations must next use a status request. -/
def abandonPending (machine : ParticipantScheduleMachine axes) :
    ParticipantScheduleMachine axes × Bool :=
  match machine.pending with
  | none => (machine, false)
  | some action =>
    ({ machine with
        pending := none
        reconciliationRequired := machine.reconciliationRequired || action.mutates }, true)

/-! ## Calls -/

/-- A call on the machine. -/
inductive Call where
  | beginPrepare | beginStatus
  | beginInstall (commit : JobCommitRequest)
  | beginConfirm
  | beginLeaseRenew (leaseExpiryCycle : DeviceCycle)
  | beginAbort | beginCancel
  | acceptResponse (response : Response)
  | abandonPending
  deriving DecidableEq, Repr

/-- What a call returned. -/
inductive Outcome where
  | request (result : ScheduleResult ScheduleOperation)
  | response (result : ScheduleResult ParticipantSchedulePhase)
  | abandoned (had : Bool)

/-- A request that failed left the machine as it was. -/
def requested (machine : ParticipantScheduleMachine axes) :
    ScheduleResult (ScheduleOperation × ParticipantScheduleMachine axes) →
      ParticipantScheduleMachine axes × Outcome
  | .ok (operation, machine) => (machine, .request (.ok operation))
  | .error error => (machine, .request (.error error))

def perform (machine : ParticipantScheduleMachine axes) :
    Call → ParticipantScheduleMachine axes × Outcome
  | .beginPrepare => machine.requested machine.beginPrepare
  | .beginStatus => machine.requested machine.beginStatus
  | .beginInstall commit => machine.requested (machine.beginInstall commit)
  | .beginConfirm => machine.requested machine.beginConfirm
  | .beginLeaseRenew expiry => machine.requested (machine.beginLeaseRenew expiry)
  | .beginAbort => machine.requested machine.beginAbort
  | .beginCancel => machine.requested machine.beginCancel
  | .acceptResponse response =>
    let (machine, result) := machine.acceptResponse response
    (machine, .response result)
  | .abandonPending =>
    let (machine, had) := machine.abandonPending
    (machine, .abandoned had)

/-- One call on the machine. -/
abbrev Step : ParticipantScheduleMachine axes → Call × Outcome → ParticipantScheduleMachine axes →
    Prop :=
  Run.Calls perform

end ParticipantScheduleMachine

end Alumina.Client
