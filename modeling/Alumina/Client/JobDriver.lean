import Alumina.Client.WorkerSnapshot

/-!
# The job driver of the worker

Between two requests the worker asks its retained job for the next operation. A job that has
nothing to ask for is moved on: an installed one is confirmed, and a running one is given longer
leases when they are due and is asked for its status otherwise. An error here faults the job.
-/

namespace Alumina.Client

open Except (failIf)
open Alumina.Graph (Digest DeviceId FixedArray Sha256 encodeU64)

/-! ## Devices -/

/-- Non-secret provenance of an access-point credential. -/
inductive DeviceCredentialSource where
  | developmentFallback | buildProvisioned | deviceStored
  deriving DecidableEq, Repr

/-- Whether this provenance is eligible for production arming. -/
def DeviceCredentialSource.productionArmable (source : DeviceCredentialSource) : Bool :=
  source = .deviceStored

/-- Strict public identity facts of a device. -/
structure DeviceIdentity where
  boardId : String
  credentialSource : DeviceCredentialSource
  deviceId : DeviceId
  capability : CapabilityIdentity
  deriving DecidableEq, Repr

inductive DeviceSessionPhase where
  | connecting | sampling | clockQualified | deviceUnhealthy | retryWaiting
  deriving DecidableEq, Repr

/-- What a decoded board document says about arming. -/
class BoardCapabilities [CapabilityWire] where
  armable : CapabilityWire.View → Bool

section Devices

variable [CapabilityWire] [ClockEstimation]

/-- What the driver reads of the state of a connected device. -/
structure DeviceState where
  connectionId : UInt64
  generation : UInt64
  /-- `session.is_some()` -/
  sessionOpen : Bool
  identity : Option DeviceIdentity
  clock : DeviceClockModel
  /-- `sampling.maximum_uncertainty_cycles` -/
  maximumUncertaintyCycles : UInt64
  /-- `configuration.latest()` -/
  configuration : Option ConfigurationWorkerSnapshot
  capability : CapabilityDownloadMachine
  phase : DeviceSessionPhase

inductive DeviceEntry where
  | idle (state : DeviceState)
  | busy

/-- What the driver reads of the runtime. -/
structure ControlWorkerRuntime where
  /-- `worker_monotonic_ns`, unless the clock is unavailable -/
  monotonicNs : Option UInt64
  devices : UInt64 → Option DeviceEntry

variable [StorageWire] [JobWire]

/-- The texts of the driver, with the connection they start with and the error they end with. -/
inductive WorkerJobError where
  | message (text : String)
  | connection (connectionId : UInt64) (text : String)
  | clock (connectionId : UInt64) (text : String) (error : ClockProbeError)
  | contract (error : WorkerContractError)
  | boardCapability (error : CapabilityWire.DocumentError)
  | commitIdentity
  | job (error : LiveCachedJobError)

abbrev WorkerJobResult := Except WorkerJobError

variable [DiagnosticWire] [WorkerWire]

/-! ## Eligibility -/

def validateBindingIdentity (state : DeviceState) (binding : LiveJobParticipantBinding) :
    WorkerJobResult Unit := do
  let identity ← state.identity.okOr (.message "stable device identity is unavailable")
  let configuration ← state.configuration.okOr
    (.message "active configuration identity is unavailable")
  let capability ← (CapabilityIdentitySnapshot.identity
    ⟨identity.capability.byteLen, identity.capability.digest⟩).mapError .contract
  failIf (state.connectionId ≠ binding.connectionId ∨ state.generation ≠ binding.generation ∨
    identity.deviceId ≠ binding.deviceId ∨ state.clock.bootId ≠ some binding.bootId ∨
    capability.digest ≠ binding.capabilityDigest ∨
    configuration.activeDigest ≠ binding.configDigest ∨ !configuration.jobsAuthorized)
    (.connection binding.connectionId
      "no longer matches its compiled device, boot, capability, or configuration")

def validateCompiledBinding (state : DeviceState) (binding : LiveJobParticipantBinding) :
    WorkerJobResult Unit := do
  validateBindingIdentity state binding
  failIf (state.phase ≠ .clockQualified)
    (.connection binding.connectionId "does not have a qualified healthy clock")

variable [BoardCapabilities]

/-- The device still is the compiled one, and the mode may run on it. -/
def validateStartEligibility (state : DeviceState) (binding : LiveJobParticipantBinding)
    (executionMode : WorkerJobExecutionMode) : WorkerJobResult Unit := do
  validateCompiledBinding state binding
  failIf (!state.sessionOpen ∨ state.clock.bootId ≠ some binding.bootId)
    (.connection binding.connectionId "has no current authenticated boot session")
  let identity ← state.identity.okOr
    (.connection binding.connectionId "has no current device identity")
  match executionMode with
  | .simulationOnly =>
    failIf (¬ identity.boardId.startsWith "sim-")
      (.connection binding.connectionId "is not an explicitly simulated board")
  | .hardware => do
    failIf (!identity.credentialSource.productionArmable)
      (.connection binding.connectionId "lacks a device-stored production credential")
    let document ← state.capability.document.okOr
      (.connection binding.connectionId "has no complete capability document")
    let capability ← (CapabilityWire.decodeBoardCapability document
      WorkerWire.boardLimits).mapError .boardCapability
    failIf (!BoardCapabilities.armable capability)
      (.connection binding.connectionId "capability is intentionally non-armable")

/-! ## Start inputs -/

/-- `JOB_CONFIRMATION_LEAD_SECONDS` -/
def jobConfirmationLeadSeconds : UInt64 := 3

/-- `JOB_ABORT_GUARD_LEAD_SECONDS` -/
def jobAbortGuardLeadSeconds : UInt64 := 1

/-- `JOB_AUTONOMOUS_LEASE_SLACK_SECONDS` -/
def jobAutonomousLeaseSlackSeconds : UInt64 := 30

/-- `JOB_ATTENDED_INITIAL_LEASE_SECONDS` -/
def jobAttendedInitialLeaseSeconds : UInt64 := 3

/-- `JOB_ATTENDED_RENEWAL_HORIZON_SECONDS` -/
def jobAttendedRenewalHorizonSeconds : UInt64 := 9

/-- `JOB_ATTENDED_RENEWAL_THRESHOLD_SECONDS` -/
def jobAttendedRenewalThresholdSeconds : UInt64 := 4

/-- `JOB_ATTENDED_RETRY_GUARD_SECONDS` -/
def jobAttendedRetryGuardSeconds : UInt64 := 1

/-- What the worker keeps of a job besides its machine. -/
structure WorkerJobHead where
  jobId : UInt64
  executionMode : WorkerJobExecutionMode
  deriving DecidableEq, Repr

/-- `value * multiplier / divisor`, rounded up, in 128-bit arithmetic. -/
def ceilingProductRatio (value multiplier divisor : UInt64) : Option UInt64 :=
  let numerator := value.toNat * multiplier.toNat + (divisor.toNat - 1)
  if divisor = 0 ∨ 2 ^ 128 ≤ numerator ∨ 2 ^ 64 ≤ numerator / divisor.toNat then none
  else some (.ofNat (numerator / divisor.toNat))

/-- A nonzero identity from the digest of job, connection, start and device. -/
def jobCommitId [Sha256] (jobId : UInt64) (binding : LiveJobParticipantBinding)
    (targetUiNs : UInt64) : WorkerJobResult JobCommitId := do
  let transcript := encodeU64 jobId ++ encodeU64 binding.connectionId ++ encodeU64 targetUiNs ++
    binding.deviceId.val
  let bytes := (Sha256.sha256 transcript).val.take 16
  failIf (bytes.all (· = 0)) .commitIdentity
  pure ⟨bytes⟩

/-- The cycles of the first lease. -/
def leaseCycles (identity : DistributedJobIdentity) (frequencyHz : UInt64) :
    WorkerJobResult UInt64 :=
  match identity.networkPolicy with
  | .networkAttended =>
    (frequencyHz.checkedMul jobAttendedInitialLeaseSeconds).okOr
      (.message "attended job lease overflowed")
  | .cachedAutonomous => do
    let duration ← (ceilingProductRatio identity.durationTicks frequencyHz
      identity.globalTimebaseHz).okOr (.message "job duration does not fit the device clock")
    let slack ← (frequencyHz.checkedMul jobAutonomousLeaseSlackSeconds).okOr
      (.message "job lease margin overflowed")
    (duration.checkedAdd slack).okOr (.message "job lease overflowed")

/-- The idle device of a connection. -/
def idleDevice (runtime : ControlWorkerRuntime) (binding : LiveJobParticipantBinding)
    (busy missing : String) : WorkerJobResult DeviceState :=
  match runtime.devices binding.connectionId with
  | some (.idle state) => pure state
  | some .busy => throw (.connection binding.connectionId busy)
  | none => throw (.connection binding.connectionId missing)

/-- The clock and the timing of one participant. -/
def participantStartInput [Sha256] (runtime : ControlWorkerRuntime) (head : WorkerJobHead)
    (identity : DistributedJobIdentity) (targetUiNs : UInt64)
    (binding : LiveJobParticipantBinding) : WorkerJobResult ParticipantStartInput := do
  let state ← idleDevice runtime binding "is busy; retry deterministic start" "no longer exists"
  validateStartEligibility state binding head.executionMode
  let heartbeat ← state.clock.latestResponse.okOr
    (.connection binding.connectionId "has no accepted heartbeat")
  let leaseCycles ← leaseCycles identity heartbeat.frequencyHz
  let confirmationLeadCycles ←
    (heartbeat.frequencyHz.checkedMul jobConfirmationLeadSeconds).okOr
      (.message "confirmation lead overflowed")
  let abortGuardLeadCycles ← (heartbeat.frequencyHz.checkedMul jobAbortGuardLeadSeconds).okOr
    (.message "abort guard lead overflowed")
  let commitId ← jobCommitId head.jobId binding targetUiNs
  pure ⟨binding.deviceId, state.clock, ⟨state.maximumUncertaintyCycles,
    state.maximumUncertaintyCycles, confirmationLeadCycles, abortGuardLeadCycles, leaseCycles,
    commitId⟩⟩

def participantStartInputs [Sha256] (runtime : ControlWorkerRuntime) (head : WorkerJobHead)
    (job : LiveCachedJob) (targetUiNs : UInt64) : WorkerJobResult (List ParticipantStartInput) :=
  (job.participants.map (·.binding)).mapM
    (participantStartInput runtime head job.identity targetUiNs)

/-! ## Renewals -/

def LiveCachedJob.participantLeaseExpiryCycle (job : LiveCachedJob) (deviceId : DeviceId) :
    Option DeviceCycle :=
  job.coordinator.bind (·.participantLeaseExpiryCycle deviceId)

/-- Greatest lease expiry this worker has explicitly requested. -/
def LiveCachedJob.participantAuthorizedLeaseExpiryCycle (job : LiveCachedJob)
    (deviceId : DeviceId) : Option DeviceCycle :=
  job.coordinator.bind (·.participantAuthorizedLeaseExpiryCycle deviceId)

def attendedLeaseDevice (runtime : ControlWorkerRuntime) (binding : LiveJobParticipantBinding) :
    WorkerJobResult DeviceState :=
  idleDevice runtime binding "is busy during attended lease renewal"
    "disappeared during attended lease renewal"

/-- The next lease expiry of a participant and whether it is due, or nothing when its lease has
run out. -/
def attendedLeaseTarget (state : DeviceState) (binding : LiveJobParticipantBinding)
    (reported authorized nowUiNs targetUiNs : UInt64) :
    WorkerJobResult (Option (DeviceCycle × Bool)) := do
  failIf (authorized < reported) (.connection binding.connectionId
    "reported lease authority the browser did not grant")
  let heartbeat ← state.clock.latestResponse.okOr
    (.connection binding.connectionId "has no accepted heartbeat for lease renewal")
  let estimate ← (state.clock.estimateAt nowUiNs state.maximumUncertaintyCycles).mapError
    (.clock binding.connectionId "lease clock estimate failed")
  failIf (estimate.bootId ≠ binding.bootId)
    (.connection binding.connectionId "changed boot during lease renewal")
  if reported ≤ estimate.latestCycle then pure none
  else do
    let unappliedRequest : Bool := reported < authorized
    let threshold ← (heartbeat.frequencyHz.checkedMul jobAttendedRenewalThresholdSeconds).okOr
      (.message "attended lease threshold overflowed")
    let due := unappliedRequest || reported - estimate.latestCycle ≤ threshold
    let prediction ← (state.clock.predict nowUiNs targetUiNs
      state.maximumUncertaintyCycles).mapError
        (.clock binding.connectionId "lease clock prediction failed")
    failIf (prediction.bootId ≠ binding.bootId)
      (.connection binding.connectionId "changed boot during lease prediction")
    let retryGuard ← (heartbeat.frequencyHz.checkedMul jobAttendedRetryGuardSeconds).okOr
      (.message "attended lease retry guard overflowed")
    -- `authorized.saturating_sub(latest)`
    let retryAuthorized := unappliedRequest &&
      retryGuard.toNat < authorized.toNat - estimate.latestCycle.toNat
    if retryAuthorized then pure (some (authorized, due))
    else do
      let minimumNew ← (authorized.checkedAdd 1).okOr
        (.message "attended lease cycle overflowed")
      pure (some (max prediction.scheduledCycle minimumNew, due))

/-- The renewals of some participants and whether one of them is due, or nothing when a lease has
run out. -/
def attendedRenewals (runtime : ControlWorkerRuntime) (head : WorkerJobHead) (job : LiveCachedJob)
    (nowUiNs targetUiNs : UInt64) : List LiveJobParticipantBinding →
      WorkerJobResult (Option (Bool × List ParticipantLeaseRenewal))
  | [] => pure (some (false, []))
  | binding :: rest => do
    let state ← attendedLeaseDevice runtime binding
    validateStartEligibility state binding head.executionMode
    let reported ← (job.participantLeaseExpiryCycle binding.deviceId).okOr
      (.connection binding.connectionId "has no reported attended lease")
    let authorized ← (job.participantAuthorizedLeaseExpiryCycle binding.deviceId).okOr
      (.connection binding.connectionId "has no browser-authorized attended lease")
    match ← attendedLeaseTarget state binding reported authorized nowUiNs targetUiNs with
    | none => pure none
    | some (leaseExpiryCycle, participantDue) =>
      match ← attendedRenewals runtime head job nowUiNs targetUiNs rest with
      | none => pure none
      | some (due, renewals) =>
        pure (some (participantDue || due, ⟨binding.deviceId, leaseExpiryCycle⟩ :: renewals))

/-- The renewals to open now, if one is due. -/
def dueRenewals (runtime : ControlWorkerRuntime) (head : WorkerJobHead) (job : LiveCachedJob) :
    WorkerJobResult (Option (List ParticipantLeaseRenewal)) :=
  if job.identity.networkPolicy ≠ .networkAttended then pure none
  else do
    let nowUiNs ← runtime.monotonicNs.okOr (.message "worker monotonic clock is unavailable")
    let horizon ← (jobAttendedRenewalHorizonSeconds.checkedMul 1000000000).okOr
      (.message "attended lease horizon overflowed")
    let targetUiNs ← (nowUiNs.checkedAdd horizon).okOr
      (.message "attended lease target overflowed")
    let firstRound : Bool := job.leaseRenewalRounds = 0
    match ← attendedRenewals runtime head job nowUiNs targetUiNs
        (job.participants.map (·.binding)) with
    | none => pure none
    | some (due, renewals) => pure (if firstRound || due then some renewals else none)

def beginAttendedLeaseRenewalIfDue (runtime : ControlWorkerRuntime) (head : WorkerJobHead)
    (job : LiveCachedJob) : LiveCachedJob × WorkerJobResult Bool :=
  match dueRenewals runtime head job with
  | .error error => (job, .error error)
  | .ok none => (job, .ok false)
  | .ok (some renewals) =>
    match job.beginLeaseRenewal renewals with
    | (job, .error error) => (job, .error (.job error))
    | (job, .ok ()) => (job, .ok true)

/-! ## The driver -/

/-- Confirm an installed job. -/
def confirmInstalled [Sha256] (runtime : ControlWorkerRuntime) (head : WorkerJobHead)
    (job : LiveCachedJob) : WorkerJobResult LiveCachedJob := do
  let nowUiNs ← runtime.monotonicNs.okOr (.message "worker monotonic clock is unavailable")
  let targetUiNs ← job.targetUiNs.okOr (.message "installed job has no shared start epoch")
  let inputs ← participantStartInputs runtime head job targetUiNs
  (job.beginConfirmation nowUiNs inputs).mapError .job

/-- Give a running job longer leases, or else ask for its status. -/
def attendRunning (runtime : ControlWorkerRuntime) (head : WorkerJobHead) (job : LiveCachedJob) :
    LiveCachedJob × WorkerJobResult Unit :=
  match beginAttendedLeaseRenewalIfDue runtime head job with
  | (job, .error error) => (job, .error error)
  | (job, .ok true) => (job, .ok ())
  | (job, .ok false) =>
    let (job, result) := job.beginStatusRound
    (job, result.mapError .job)

/-- The next operation of the job, by itself. -/
def nextJobOperation [Sha256] (job : LiveCachedJob) :
    LiveCachedJob × WorkerJobResult (Option LiveJobOperation) :=
  let (job, result) := job.nextOperation
  (job, result.mapError .job)

/-- The next operation of the job, which is moved on when it has none. -/
def prepareNextJobOperation [Sha256] (runtime : ControlWorkerRuntime) (head : WorkerJobHead)
    (job : LiveCachedJob) : LiveCachedJob × WorkerJobResult (Option LiveJobOperation) :=
  match nextJobOperation job with
  | (job, .error error) => (job, .error error)
  | (job, .ok (some operation)) => (job, .ok (some operation))
  | (job, .ok none) =>
    match job.phase with
    | .installed =>
      match confirmInstalled runtime head job with
      | .error error => (job, .error error)
      | .ok job => nextJobOperation job
    | .confirmed | .irrevocable =>
      match attendRunning runtime head job with
      | (job, .error error) => (job, .error error)
      | (job, .ok ()) => nextJobOperation job
    | _ => (job, .ok none)

end Devices

end Alumina.Client
