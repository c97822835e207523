import Alumina.Client.Diagnostics
import Alumina.Client.LiveJob
import Alumina.Client.Network
import Alumina.Client.RangeDownload

/-!
# Worker snapshots and documents

What the control worker sends to the user interface: replacement snapshots of a device session,
of its network and of the cached job, and the complete documents of a session. Every payload has
a `validate` that checks it on its own; `WorkerEventEnvelope.validate` checks the schema first.

The records of the device crates are not part of this code: their own checks are the parameter
`WorkerWire`. Fields that no check and no reader uses are left out.
-/

namespace Alumina.Client

open Except (failIf)
open Alumina.Graph (Digest DeviceId FixedArray Sha256)

/-- `WORKER_SCHEMA_VERSION` -/
def workerSchemaVersion : UInt16 := 15

/-- `MAXIMUM_CLOCK_HISTORY` -/
def maximumClockHistory : Nat := 64

/-- `MAXIMUM_WORKER_DIAGNOSTIC_BYTES` -/
def maximumWorkerDiagnosticBytes : Nat := 512

/-- `MAXIMUM_LABEL_BYTES` -/
def maximumLabelBytes : Nat := 64

/-- `MAXIMUM_ORIGIN_BYTES` -/
def maximumOriginBytes : Nat := 256

/-- `MAXIMUM_VISUAL_ASSET_BYTES` -/
def maximumVisualAssetBytes : Nat := 8 * 1024 * 1024

/-! ## Errors -/

/-- Bounded worker event contract failure. -/
inductive WorkerContractError where
  | schemaVersion | networkSnapshot | deviceSnapshot | runtimeHealthSnapshot
  | configurationSnapshot | capabilityProgress | capabilityDocument | visualAssetProgress
  | visualAssetDocument | telemetryProgress | telemetryDocument | waveformProgress
  | waveformDocument | cachedJobSnapshot | deviceIdentity
  deriving DecidableEq, Repr

def WorkerContractError.message : WorkerContractError → String
  | .schemaVersion => "UI/worker schema version mismatch"
  | .networkSnapshot => "network snapshot is invalid"
  | .deviceSnapshot => "device snapshot is invalid"
  | .runtimeHealthSnapshot => "runtime health snapshot is invalid"
  | .configurationSnapshot => "active configuration snapshot is invalid"
  | .capabilityProgress => "capability download progress is invalid"
  | .capabilityDocument => "capability document transfer is invalid"
  | .visualAssetProgress => "visual asset download progress is invalid"
  | .visualAssetDocument => "visual asset document transfer is invalid"
  | .telemetryProgress => "telemetry progress is invalid"
  | .telemetryDocument => "telemetry document is invalid"
  | .waveformProgress => "waveform progress is invalid"
  | .waveformDocument => "waveform document transfer is invalid"
  | .cachedJobSnapshot => "cached job snapshot is invalid"
  | .deviceIdentity => "device identity snapshot is invalid"

abbrev ContractResult := Except WorkerContractError

/-! ## Texts -/

/-- Unicode `White_Space`, which `str::trim` removes. -/
def isWhitespace (c : Char) : Bool :=
  let code := c.toNat
  (0x9 ≤ code && code ≤ 0xD) || (0x2000 ≤ code && code ≤ 0x200A) ||
    code ∈ [0x20, 0x85, 0xA0, 0x1680, 0x2028, 0x2029, 0x202F, 0x205F, 0x3000]

/-- `str::trim` on the characters of a text. -/
def trim (text : List Char) : List Char :=
  ((text.dropWhile isWhitespace).reverse.dropWhile isWhitespace).reverse

/-- `diagnostic_is_valid` -/
def diagnosticIsValid (diagnostic : Option String) : Bool :=
  diagnostic.all fun message =>
    message ≠ "" && message.utf8ByteSize ≤ maximumWorkerDiagnosticBytes &&
      trim message.toList = message.toList

/-! ## Networks -/

inductive WorkerNetworkPhaseSnapshot where
  | reset | accessPointStarting | provisioning | stationJoining | accessPointAndStation
  | recovering
  deriving DecidableEq, Repr

inductive WorkerNetworkAuthenticationSnapshot where
  | openNetwork | wpa2Personal | wpa3Personal | wpa2Wpa3Personal | unsupported
  deriving DecidableEq, Repr

inductive WorkerStationLinkSnapshot where
  | disabled | disconnected | associating | associated | addressed
  deriving DecidableEq, Repr

/-- Credential-free canonical network state. -/
structure WorkerNetworkStatusSnapshot where
  phase : WorkerNetworkPhaseSnapshot
  generation : UInt32
  scanGeneration : UInt32
  lastTransactionId : UInt64
  stationLink : WorkerStationLinkSnapshot
  authentication : WorkerNetworkAuthenticationSnapshot
  flags : UInt8
  channel : UInt8
  signalDbm : Int8
  ipv4Prefix : UInt8
  ipv4Address : FixedArray UInt8 4
  ipv4Gateway : FixedArray UInt8 4
  bssid : FixedArray UInt8 6
  lastFailure : NetworkFailure
  ssid : Option String

/-- One visible WLAN. -/
structure WorkerNetworkScanEntrySnapshot where
  ssid : String
  authentication : WorkerNetworkAuthenticationSnapshot
  channel : UInt8
  signalDbm : Int8
  bssid : FixedArray UInt8 6
  deriving DecidableEq

/-- Complete bounded scan. -/
structure WorkerNetworkScanSnapshot where
  transactionId : UInt64
  networkGeneration : UInt32
  scanGeneration : UInt32
  capturedAtCycle : UInt64
  truncated : Bool
  entries : List WorkerNetworkScanEntrySnapshot

/-- Complete replacement network view of one connection. -/
structure WorkerNetworkSnapshot where
  connectionId : UInt64
  generation : UInt64
  clientPhase : NetworkClientPhase
  status : Option WorkerNetworkStatusSnapshot
  scan : Option WorkerNetworkScanSnapshot
  consecutiveFailures : UInt32
  lastError : Option String

/-! ## Runtime health and configuration -/

inductive RuntimeHealthAvailabilitySnapshot where
  | unobserved | unsupported | available
  deriving DecidableEq, Repr

/-- Exact occupancy of one firmware queue. -/
structure QueueHealthSnapshot where
  depth : UInt16
  capacity : UInt16
  deriving DecidableEq, Repr

inductive ExecutorStackDomainSnapshot where
  | serviceCore | realtimeCore
  deriving DecidableEq, Repr

/-- Facts for one executor stack measurement epoch. -/
structure ExecutorStackSnapshot where
  domain : ExecutorStackDomainSnapshot
  flags : UInt16
  allocatedBytes : UInt32
  excludedLowBytes : UInt32
  paintedBytes : UInt32
  minimumHeadroomBytes : UInt32
  samples : UInt32
  completedSweeps : UInt32
  epochCycle : UInt64
  sampledAt : UInt64
  deriving DecidableEq, Repr

structure RuntimeHealthWorkerSnapshot where
  snapshotCycle : UInt64
  commandQueue : QueueHealthSnapshot
  workQueue : QueueHealthSnapshot
  telemetryQueue : QueueHealthSnapshot
  serviceStack : ExecutorStackSnapshot
  realtimeStack : Option ExecutorStackSnapshot
  realtimeStackFresh : Bool
  deriving DecidableEq, Repr

inductive ConfigurationStatusAvailabilitySnapshot where
  | unobserved | unsupported | available
  deriving DecidableEq, Repr

inductive ConfigurationPhaseSnapshot where
  | empty | recovering | validating | candidateValid | preparing | activating | committing
  | authorizing | active | clearing | aborting | rejected
  deriving DecidableEq, Repr

/-- Bounded summary of one active machine configuration. -/
structure ConfigurationSummarySnapshot where
  recordCount : UInt16
  realtimeRecordCount : UInt16
  bindingCount : UInt16
  stepperAxes : UInt8
  focAxes : UInt8
  deriving DecidableEq, Repr

structure ConfigurationWorkerSnapshot where
  phase : ConfigurationPhaseSnapshot
  jobsAuthorized : Bool
  activeTransactionId : UInt64
  activeDigest : Digest
  activeBytes : UInt32
  summary : Option ConfigurationSummarySnapshot
  deriving DecidableEq, Repr

/-! ## Diagnostic evidence -/

/-- A typed resource of a board. -/
structure ResourceId where
  selector : FixedArray UInt8 4
  deriving DecidableEq, Repr

/-- Where a diagnostic record was taken. -/
structure DiagnosticContext where
  deviceId : DeviceId
  bootId : BootId
  capability : CapabilityIdentity
  configDigest : Digest
  clockFrequencyHz : UInt64
  deriving DecidableEq, Repr

inductive DigitalAcquisitionSource where
  | simulated | rmt | pcnt | dma | software | externalAnalyzer
  deriving DecidableEq, Repr

inductive DigitalTriggerCondition where
  | immediate | rising | falling | either
  deriving DecidableEq, Repr

structure DigitalCaptureChannel where
  resource : ResourceId
  source : DigitalAcquisitionSource
  deriving DecidableEq, Repr

/-- A decoded digital capture. -/
structure DigitalCaptureView where
  captureId : CaptureId
  context : DiagnosticContext
  transitionCount : Nat
  retention : UInt32
  requestedPretriggerCycles : UInt64
  requestedPosttriggerCycles : UInt64
  trigger : DigitalTriggerCondition
  channels : List DigitalCaptureChannel
  deriving DecidableEq, Repr

/-- The checks and limits of the device crates. -/
class WorkerWire [CapabilityWire] [DiagnosticWire] where
  /-- `BoardCapabilityLimits::interactive` -/
  boardLimits : CapabilityWire.Limits
  /-- `DiagnosticTransportLimits::native_control` -/
  transportLimits : DiagnosticTransportLimits
  /-- `DiagnosticLimits::interactive` -/
  diagnosticLimits : DiagnosticLimits
  subscribeContext : TelemetrySubscribeView → DiagnosticContext
  /-- The resources an event's overview samples. -/
  overviewSamples : TelemetryEventView → List ResourceId
  CaptureError : Type
  decodeDigitalCapture : List UInt8 → DiagnosticLimits → Except CaptureError DigitalCaptureView
  /-- `WireRuntimeHealthSnapshot::validate` on the reconstructed response -/
  runtimeHealthValid : RuntimeHealthWorkerSnapshot → Bool
  /-- Whether `NetworkStatus::try_new` accepts the projected fields -/
  networkStatusValid : WorkerNetworkStatusSnapshot → Bool
  /-- `MAX_NETWORK_SCAN_RESULTS` -/
  maxNetworkScanResults : Nat
  /-- Whether `NetworkScanEntry::try_new` accepts the projected fields -/
  networkScanEntryValid : WorkerNetworkScanEntrySnapshot → Bool
  /-- The entries `NetworkScanResult::try_new` makes of a scan -/
  canonicalScan : WorkerNetworkScanSnapshot → Option (List WorkerNetworkScanEntrySnapshot)

/-! ## Their checks -/

/-- `QueueHealthSnapshot::validate` -/
def QueueHealthSnapshot.validate (queue : QueueHealthSnapshot) : ContractResult Unit :=
  failIf (queue.capacity = 0 ∨ queue.capacity < queue.depth) .runtimeHealthSnapshot

/-- `ConfigurationWorkerSnapshot::validate` -/
def ConfigurationWorkerSnapshot.validate (configuration : ConfigurationWorkerSnapshot) :
    ContractResult Unit := do
  let active := configuration.activeTransactionId ≠ 0 ∧ ¬ configuration.activeDigest.isZero ∧
    configuration.activeBytes ≠ 0 ∧ configuration.summary.isSome
  let inactive := configuration.activeTransactionId = 0 ∧ configuration.activeDigest.isZero ∧
    configuration.activeBytes = 0 ∧ configuration.summary.isNone
  failIf (¬ active ∧ ¬ inactive ∨ configuration.jobsAuthorized ∧ ¬ active ∨
    configuration.phase = .active ∧ ¬ configuration.jobsAuthorized ∨
    configuration.phase = .empty ∧ ¬ inactive) .configurationSnapshot
  failIf (configuration.summary.any fun summary =>
    summary.recordCount = 0 || summary.recordCount < summary.realtimeRecordCount ||
      summary.recordCount < summary.bindingCount ||
      16 < summary.stepperAxes.toNat + summary.focAxes.toNat) .configurationSnapshot

section Wire

variable [CapabilityWire] [DiagnosticWire] [WorkerWire]

/-- `RuntimeHealthWorkerSnapshot::validate` -/
def RuntimeHealthWorkerSnapshot.validate (health : RuntimeHealthWorkerSnapshot) :
    ContractResult Unit := do
  health.commandQueue.validate
  health.workQueue.validate
  health.telemetryQueue.validate
  failIf (¬ WorkerWire.runtimeHealthValid health) .runtimeHealthSnapshot

/-- `WorkerNetworkScanSnapshot::validate` -/
def WorkerNetworkScanSnapshot.validate (scan : WorkerNetworkScanSnapshot) :
    ContractResult Unit := do
  failIf (WorkerWire.maxNetworkScanResults < scan.entries.length) .networkSnapshot
  failIf (¬ scan.entries.all WorkerWire.networkScanEntryValid) .networkSnapshot
  let canonical ← (WorkerWire.canonicalScan scan).okOr .networkSnapshot
  failIf (canonical ≠ scan.entries) .networkSnapshot

/-- `WorkerNetworkSnapshot::validate` -/
def WorkerNetworkSnapshot.validate (network : WorkerNetworkSnapshot) : ContractResult Unit := do
  failIf (network.connectionId = 0 ∨ network.generation = 0 ∨
    ¬ (network.consecutiveFailures = 0 ↔ network.lastError.isNone) ∨
    ¬ diagnosticIsValid network.lastError) .networkSnapshot
  failIf (network.status.any fun status => !WorkerWire.networkStatusValid status) .networkSnapshot
  match network.scan with
  | some scan => scan.validate
  | none => pure ()

/-! ## Device sessions -/

inductive CapabilityDownloadPhaseSnapshot where
  | discovering | downloading | complete
  deriving DecidableEq, Repr

/-- Exact identity of one canonical board document. -/
structure CapabilityIdentitySnapshot where
  documentBytes : UInt32
  digest : Digest
  deriving DecidableEq, Repr

/-- `CapabilityIdentitySnapshot::identity` -/
def CapabilityIdentitySnapshot.identity (snapshot : CapabilityIdentitySnapshot) :
    ContractResult CapabilityIdentity := do
  failIf (snapshot.documentBytes < CapabilityWire.documentHeaderBytes ∨
    CapabilityWire.maximumDocumentBytes WorkerWire.boardLimits < snapshot.documentBytes ∨
    snapshot.digest.isZero) .capabilityProgress
  pure ⟨snapshot.documentBytes, snapshot.digest⟩

end Wire

/-- Projection of public device identity. -/
structure DeviceIdentitySnapshot where
  boardId : String
  deviceId : DeviceId
  capability : CapabilityIdentitySnapshot
  interfaceCommit : FixedArray UInt8 20
  interfaceBundleDigest : Digest
  deriving DecidableEq

inductive TelemetryPhaseSnapshot where
  | subscribing | active | unsubscribing | unsubscribed
  deriving DecidableEq, Repr

inductive WaveformCapturePhaseSnapshot where
  | configuring | configured | arming | armed | downloading | complete | stopping | stopped
  deriving DecidableEq, Repr

/-- One authenticated causal observation. -/
structure ClockHistoryRecord where
  frequencyHz : UInt64
  deriving DecidableEq, Repr

/-- Redacted complete view of one worker-owned connection. -/
structure DeviceSessionSnapshot where
  connectionId : UInt64
  label : String
  origin : String
  generation : UInt64
  bootId : Option BootId
  deviceIdentity : Option DeviceIdentitySnapshot
  consecutiveFailures : UInt32
  history : List ClockHistoryRecord
  lastError : Option String
  runtimeHealthAvailability : RuntimeHealthAvailabilitySnapshot
  runtimeHealth : Option RuntimeHealthWorkerSnapshot
  runtimeHealthConsecutiveFailures : UInt32
  runtimeHealthLastError : Option String
  configurationAvailability : ConfigurationStatusAvailabilitySnapshot
  configuration : Option ConfigurationWorkerSnapshot
  configurationConsecutiveFailures : UInt32
  configurationLastError : Option String
  capabilityPhase : CapabilityDownloadPhaseSnapshot
  capabilityReceivedBytes : UInt32
  capabilityIdentity : Option CapabilityIdentitySnapshot
  capabilityConsecutiveFailures : UInt32
  capabilityLastError : Option String
  visualAssetCount : UInt16
  visualAssetsComplete : UInt16
  visualReceivedBytes : UInt64
  visualTotalBytes : UInt64
  visualConsecutiveFailures : UInt32
  visualLastError : Option String
  telemetryPhase : Option TelemetryPhaseSnapshot
  telemetrySubscriptionId : Option UInt64
  telemetrySubscriptionDigest : Option Digest
  telemetryEventSequence : UInt64
  telemetryDroppedEvents : UInt64
  telemetryConsecutiveFailures : UInt32
  telemetryLastError : Option String
  waveformPhase : Option WaveformCapturePhaseSnapshot
  waveformCaptureId : Option (FixedArray UInt8 16)
  waveformReceivedBytes : UInt32
  waveformTotalBytes : UInt32
  waveformConsecutiveFailures : UInt32
  waveformLastError : Option String

/-- A failure counter and its message agree, and the message is bounded. -/
def failureIsValid (consecutiveFailures : UInt32) (lastError : Option String) : Bool :=
  diagnosticIsValid lastError && (consecutiveFailures = 0 ↔ lastError.isNone)

section Wire

variable [CapabilityWire] [DiagnosticWire] [WorkerWire]

/-- `DeviceIdentitySnapshot::validate` -/
def DeviceIdentitySnapshot.validate (identity : DeviceIdentitySnapshot) :
    ContractResult DeviceId := do
  failIf (identity.boardId = "" ∨ maximumLabelBytes < identity.boardId.utf8ByteSize ∨
    ¬ (identity.boardId.toList.all fun c =>
      c.isLower || c.isDigit || c.toNat = 0x2D || c.toNat = 0x5F) ∨
    identity.deviceId.isZero ∨ identity.interfaceCommit.isZero ∨
    identity.interfaceBundleDigest.isZero) .deviceIdentity
  let _ ← identity.capability.identity.mapError fun _ => .deviceIdentity
  pure identity.deviceId

namespace DeviceSessionSnapshot

/-- The capability identity fits the download phase and the bytes received. -/
def validateCapability (snapshot : DeviceSessionSnapshot) : ContractResult Unit :=
  match snapshot.capabilityPhase, snapshot.capabilityIdentity with
  | .discovering, none => failIf (snapshot.capabilityReceivedBytes ≠ 0) .capabilityProgress
  | .downloading, some identity => do
    let identity ← identity.identity
    failIf (identity.byteLen ≤ snapshot.capabilityReceivedBytes) .capabilityProgress
  | .complete, some identity => do
    let identity ← identity.identity
    failIf (snapshot.capabilityReceivedBytes ≠ identity.byteLen ∨
      snapshot.capabilityConsecutiveFailures ≠ 0) .capabilityProgress
  | _, _ => .error .capabilityProgress

/-- Nothing of a visual has been acquired and nothing has failed. -/
def visualIdle (snapshot : DeviceSessionSnapshot) : Bool :=
  snapshot.visualAssetsComplete = 0 && snapshot.visualReceivedBytes = 0 &&
    snapshot.visualTotalBytes = 0 && snapshot.visualConsecutiveFailures = 0

def validateVisuals (snapshot : DeviceSessionSnapshot) : ContractResult Unit :=
  failIf (snapshot.visualAssetCount < snapshot.visualAssetsComplete ∨
    snapshot.visualTotalBytes < snapshot.visualReceivedBytes ∨
    snapshot.capabilityPhase ≠ .complete ∧
      ¬ (snapshot.visualAssetCount = 0 ∧ snapshot.visualIdle) ∨
    snapshot.visualAssetCount = 0 ∧ ¬ snapshot.visualIdle ∨
    snapshot.visualAssetCount ≠ 0 ∧ snapshot.visualAssetsComplete = snapshot.visualAssetCount ∧
      (snapshot.visualTotalBytes = 0 ∨ snapshot.visualReceivedBytes ≠ snapshot.visualTotalBytes ∨
        snapshot.visualConsecutiveFailures ≠ 0)) .visualAssetProgress

/-- The session facts telemetry and captures need. -/
def hasLiveAuthority (snapshot : DeviceSessionSnapshot) : Bool :=
  snapshot.bootId.isSome && snapshot.deviceIdentity.isSome &&
    snapshot.capabilityPhase = .complete

def validateTelemetry (snapshot : DeviceSessionSnapshot) : ContractResult Unit :=
  match snapshot.telemetryPhase, snapshot.telemetrySubscriptionId,
    snapshot.telemetrySubscriptionDigest with
  | none, none, none =>
    failIf (snapshot.telemetryEventSequence ≠ 0 ∨ snapshot.telemetryDroppedEvents ≠ 0)
      .telemetryProgress
  | some _, some subscriptionId, some digest =>
    failIf (subscriptionId = 0 ∨ digest.isZero ∨ ¬ snapshot.hasLiveAuthority ∨
      snapshot.telemetryEventSequence < snapshot.telemetryDroppedEvents) .telemetryProgress
  | _, _, _ => .error .telemetryProgress

def validateWaveform (snapshot : DeviceSessionSnapshot) : ContractResult Unit :=
  match snapshot.waveformPhase, snapshot.waveformCaptureId with
  | none, none =>
    failIf (snapshot.waveformReceivedBytes ≠ 0 ∨ snapshot.waveformTotalBytes ≠ 0)
      .waveformProgress
  | some phase, some captureId => do
    failIf (captureId.isZero ∨ ¬ snapshot.hasLiveAuthority) .waveformProgress
    match phase with
    | .downloading =>
      failIf (snapshot.waveformTotalBytes = 0 ∨
        snapshot.waveformTotalBytes ≤ snapshot.waveformReceivedBytes) .waveformProgress
    | .complete =>
      failIf (snapshot.waveformTotalBytes = 0 ∨
        snapshot.waveformReceivedBytes ≠ snapshot.waveformTotalBytes ∨
        snapshot.waveformConsecutiveFailures ≠ 0) .waveformProgress
    | _ =>
      failIf (snapshot.waveformReceivedBytes ≠ 0 ∨ snapshot.waveformTotalBytes ≠ 0)
        .waveformProgress
  | _, _ => .error .waveformProgress

/-- Bounds of the session itself, and every failure counter agrees with its message. -/
def validateSession (snapshot : DeviceSessionSnapshot) : ContractResult Unit :=
  failIf (snapshot.connectionId = 0 ∨ snapshot.generation = 0 ∨ snapshot.label = "" ∨
    maximumLabelBytes < snapshot.label.utf8ByteSize ∨
    trim snapshot.label.toList ≠ snapshot.label.toList ∨
    snapshot.origin = "" ∨ maximumOriginBytes < snapshot.origin.utf8ByteSize ∨
    maximumClockHistory < snapshot.history.length ∨
    ¬ failureIsValid snapshot.consecutiveFailures snapshot.lastError ∨
    ¬ failureIsValid snapshot.runtimeHealthConsecutiveFailures
      snapshot.runtimeHealthLastError ∨
    ¬ failureIsValid snapshot.configurationConsecutiveFailures
      snapshot.configurationLastError ∨
    ¬ failureIsValid snapshot.capabilityConsecutiveFailures snapshot.capabilityLastError ∨
    ¬ failureIsValid snapshot.visualConsecutiveFailures snapshot.visualLastError ∨
    ¬ failureIsValid snapshot.telemetryConsecutiveFailures snapshot.telemetryLastError ∨
    ¬ failureIsValid snapshot.waveformConsecutiveFailures snapshot.waveformLastError)
    .deviceSnapshot

def validateRuntimeHealth (snapshot : DeviceSessionSnapshot) : ContractResult Unit :=
  match snapshot.runtimeHealthAvailability, snapshot.runtimeHealth with
  | .available, some health => health.validate
  | .unobserved, none | .unsupported, none => pure ()
  | _, _ => .error .runtimeHealthSnapshot

def validateConfiguration (snapshot : DeviceSessionSnapshot) : ContractResult Unit :=
  match snapshot.configurationAvailability, snapshot.configuration with
  | .available, some configuration => configuration.validate
  | .unobserved, none | .unsupported, none => pure ()
  | _, _ => .error .configurationSnapshot

/-- The announced identity is valid, and names the capability that is being acquired. -/
def validateIdentity (snapshot : DeviceSessionSnapshot) : ContractResult Unit :=
  failIf (snapshot.capabilityIdentity.any fun capability =>
    snapshot.deviceIdentity.all (·.capability ≠ capability)) .deviceIdentity

/-- `DeviceSessionSnapshot::validate` -/
def validate (snapshot : DeviceSessionSnapshot) : ContractResult Unit := do
  snapshot.validateSession
  if let some identity := snapshot.deviceIdentity then
    let _ ← identity.validate
  snapshot.validateRuntimeHealth
  snapshot.validateConfiguration
  snapshot.validateCapability
  snapshot.validateIdentity
  snapshot.validateVisuals
  snapshot.validateTelemetry
  snapshot.validateWaveform

end DeviceSessionSnapshot

end Wire

/-! ## The cached job -/

inductive WorkerJobExecutionMode where
  | simulationOnly | hardware
  deriving DecidableEq, Repr

/-- Which cache artifact owns one participant's progress. -/
inductive WorkerCacheArtifactSnapshot where
  | partition | globalManifest | complete
  deriving DecidableEq, Repr

inductive WorkerCachePhaseSnapshot where
  | inspecting | resuming | uploading | finalizing | complete
  deriving DecidableEq, Repr

/-- Redacted progress of one participant. -/
structure WorkerCachedJobParticipantSnapshot where
  connectionId : UInt64
  generation : UInt64
  deviceId : DeviceId
  bootId : BootId
  configDigest : Digest
  capabilityDigest : Digest
  cacheArtifact : WorkerCacheArtifactSnapshot
  cachePhase : WorkerCachePhaseSnapshot
  acceptedBytes : UInt64
  totalBytes : UInt64
  nextChunk : UInt32
  schedulePhase : ParticipantSchedulePhase
  localStartCycle : Option UInt64
  leaseExpiryCycle : Option UInt64
  authorizedLeaseExpiryCycle : Option UInt64
  deriving DecidableEq, Repr

/-- Complete replacement state of the one cached job. -/
structure WorkerCachedJobSnapshot where
  jobId : UInt64
  executionMode : WorkerJobExecutionMode
  networkPolicy : JobNetworkPolicy
  phase : WorkerCachedJobPhase
  globalJobDigest : Digest
  participantSetDigest : Digest
  manifestByteLen : UInt32
  targetUiNs : Option UInt64
  leaseRenewalRounds : UInt32
  consecutiveFailures : UInt32
  lastError : Option String
  participants : List WorkerCachedJobParticipantSnapshot

namespace WorkerCachedJobParticipantSnapshot

/-- Upload progress of the selected artifact. -/
def cacheIsValid (participant : WorkerCachedJobParticipantSnapshot) : Bool :=
  participant.totalBytes ≠ 0 && participant.acceptedBytes ≤ participant.totalBytes &&
    (match participant.cachePhase with
      | .uploading =>
        ¬ (participant.nextChunk = 0 ∧ participant.acceptedBytes = participant.totalBytes)
      | .complete => participant.acceptedBytes = participant.totalBytes ∧ participant.nextChunk = 0
      | _ => participant.nextChunk = 0) &&
    (participant.cacheArtifact = .complete ↔ participant.cachePhase = .complete)

/-- The schedule phases in which a local start is bound. -/
def startMayBeBound : ParticipantSchedulePhase → Bool
  | .installing | .installed | .confirmed | .priming | .primed | .running | .aborted | .expired
  | .complete | .faulted => true
  | .empty | .preparing | .ready | .cancelled => false

/-- The start, the reported lease and the authorized lease fit the phases. -/
def leaseIsValid (participant : WorkerCachedJobParticipantSnapshot)
    (phase : WorkerCachedJobPhase) : Bool :=
  match participant.localStartCycle, participant.leaseExpiryCycle,
    participant.authorizedLeaseExpiryCycle with
  | none, none, none => true
  | some start, none, some authorized =>
    participant.schedulePhase = .installing && start < authorized
  | some start, some lease, authorized =>
    start < lease && authorized.all (lease ≤ ·) &&
      (authorized.isSome || phase = .retainedComplete || phase = .faulted)
  | _, _, _ => false

def validate (participant : WorkerCachedJobParticipantSnapshot) (policy : JobNetworkPolicy)
    (phase : WorkerCachedJobPhase) : ContractResult Unit := do
  failIf (participant.connectionId = 0 ∨ participant.generation = 0 ∨
    participant.deviceId.isZero ∨ participant.bootId.isZero ∨
    participant.configDigest.isZero ∨ participant.capabilityDigest.isZero) .cachedJobSnapshot
  failIf (¬ participant.cacheIsValid) .cachedJobSnapshot
  failIf (participant.localStartCycle.isSome ∧ ¬ startMayBeBound participant.schedulePhase)
    .cachedJobSnapshot
  failIf (¬ participant.leaseIsValid phase) .cachedJobSnapshot
  failIf (policy = .cachedAutonomous ∧ participant.authorizedLeaseExpiryCycle.any fun authorized =>
    participant.leaseExpiryCycle ≠ some authorized) .cachedJobSnapshot
  failIf (phase ∈ [.complete, .completedAfterStopRequest, .retainedComplete] ∧
    (participant.cacheArtifact ≠ .complete ∨ participant.schedulePhase ≠ .complete ∨
      participant.localStartCycle.isNone)) .cachedJobSnapshot

/-- A participant of an aborted job has stopped. -/
def isAborted (participant : WorkerCachedJobParticipantSnapshot) : Bool :=
  participant.cacheArtifact = .complete &&
    match participant.schedulePhase with
    | .aborted | .expired => participant.localStartCycle.isSome
    | .cancelled => participant.localStartCycle.isNone
    | _ => false

/-- A participant of a split job has stopped or completed. -/
def isSplit (participant : WorkerCachedJobParticipantSnapshot) : Bool :=
  participant.cacheArtifact = .complete && participant.localStartCycle.isSome &&
    participant.schedulePhase ∈ [.aborted, .expired, .complete]

end WorkerCachedJobParticipantSnapshot

namespace WorkerCachedJobSnapshot

/-- A start epoch is bound exactly in the phases after the start. -/
def targetIsValid (snapshot : WorkerCachedJobSnapshot) : Bool :=
  match snapshot.phase with
  | .caching | .preparing | .ready | .cancelling | .cancelled | .retainedComplete =>
    snapshot.targetUiNs.isNone
  | .installing | .installed | .confirming | .confirmed | .irrevocable | .aborting | .aborted
  | .complete | .completedAfterStopRequest | .splitAfterStopRequest =>
    snapshot.targetUiNs.isSome
  | .faulted => true

/-- `WorkerCachedJobSnapshot::validate` -/
def validate (snapshot : WorkerCachedJobSnapshot) : ContractResult Unit := do
  failIf (snapshot.jobId = 0 ∨ snapshot.manifestByteLen = 0 ∨
    workerCachedJobLimits.maximumObjectBytes < snapshot.manifestByteLen.toUInt64 ∨
    snapshot.globalJobDigest.isZero ∨ snapshot.participantSetDigest.isZero ∨
    snapshot.participants = [] ∨
    maximumCachedJobParticipants < snapshot.participants.length ∨
    ¬ failureIsValid snapshot.consecutiveFailures snapshot.lastError ∨
    snapshot.networkPolicy = .cachedAutonomous ∧ snapshot.leaseRenewalRounds ≠ 0)
    .cachedJobSnapshot
  failIf (¬ snapshot.targetIsValid) .cachedJobSnapshot
  failIf (¬ (snapshot.participants.map (deviceKey ·.deviceId)).IsChain (· < ·)) .cachedJobSnapshot
  failIf (¬ (snapshot.participants.map (·.connectionId)).Nodup) .cachedJobSnapshot
  Except.forEach (·.validate snapshot.networkPolicy snapshot.phase) snapshot.participants
  failIf (snapshot.phase = .aborted ∧ ¬ snapshot.participants.all (·.isAborted)) .cachedJobSnapshot
  failIf (snapshot.phase = .splitAfterStopRequest ∧
    (¬ snapshot.participants.all (·.isSplit) ∨
      ¬ snapshot.participants.any (·.schedulePhase ≠ .complete) ∨
      ¬ snapshot.participants.any (·.schedulePhase = .complete))) .cachedJobSnapshot

end WorkerCachedJobSnapshot

/-! ## Documents -/

/-- One newly admitted telemetry event and the subscription it belongs to. -/
structure WorkerTelemetryDocument where
  connectionId : UInt64
  generation : UInt64
  subscription : List UInt8
  event : List UInt8

/-- One complete canonical digital capture. -/
structure WorkerWaveformDocument where
  connectionId : UInt64
  generation : UInt64
  record : List UInt8

/-- One complete canonical capability document. -/
structure WorkerCapabilityDocument where
  connectionId : UInt64
  generation : UInt64
  identity : CapabilityIdentitySnapshot
  document : List UInt8

/-- One complete capability-declared visual. -/
structure WorkerVisualAssetDocument where
  connectionId : UInt64
  generation : UInt64
  capabilityDigest : Digest
  assetDigest : Digest
  bytes : List UInt8

/-- `WorkerVisualAssetDocument::validate` -/
def WorkerVisualAssetDocument.validate [Sha256] (visual : WorkerVisualAssetDocument) :
    ContractResult Unit :=
  failIf (visual.connectionId = 0 ∨ visual.generation = 0 ∨ visual.capabilityDigest.isZero ∨
    visual.assetDigest.isZero ∨ visual.bytes = [] ∨
    maximumVisualAssetBytes < visual.bytes.length ∨
    Sha256.sha256 visual.bytes ≠ visual.assetDigest) .visualAssetDocument

section Wire

variable [CapabilityWire] [DiagnosticWire] [WorkerWire]

/-- `WorkerTelemetryDocument::validate` -/
def WorkerTelemetryDocument.validate (telemetry : WorkerTelemetryDocument) :
    ContractResult Unit := do
  failIf (telemetry.connectionId = 0 ∨ telemetry.generation = 0) .telemetryDocument
  let subscription ← (DiagnosticWire.decodeTelemetrySubscribe telemetry.subscription
    WorkerWire.transportLimits).mapError fun _ => .telemetryDocument
  failIf (¬ (WorkerWire.subscribeContext subscription).configDigest.isZero) .telemetryDocument
  let _ ← (DiagnosticWire.decodeTelemetryEvent telemetry.event subscription
    WorkerWire.diagnosticLimits).mapError fun _ => .telemetryDocument

/-- `WorkerWaveformDocument::validate` -/
def WorkerWaveformDocument.validate (waveform : WorkerWaveformDocument) :
    ContractResult Unit := do
  failIf (waveform.connectionId = 0 ∨ waveform.generation = 0) .waveformDocument
  let capture ← (WorkerWire.decodeDigitalCapture waveform.record
    WorkerWire.diagnosticLimits).mapError fun _ => .waveformDocument
  failIf (¬ capture.context.configDigest.isZero) .waveformDocument

/-- `WorkerCapabilityDocument::validate` -/
def WorkerCapabilityDocument.validate (capability : WorkerCapabilityDocument) :
    ContractResult Unit := do
  failIf (capability.connectionId = 0 ∨ capability.generation = 0) .capabilityDocument
  let identity ← capability.identity.identity.mapError fun _ => .capabilityDocument
  failIf (identity.byteLen.toNat ≠ capability.document.length) .capabilityDocument
  let view ← (CapabilityWire.decodeBoardCapability capability.document
    WorkerWire.boardLimits).mapError fun _ => .capabilityDocument
  failIf (CapabilityWire.viewIdentity view ≠ identity) .capabilityDocument

end Wire

/-! ## Events -/

/-- One event delivered by the control worker to the user interface. -/
inductive WorkerEvent where
  | ready (scopeOrigin : String)
  | snapshot (session : DeviceSessionSnapshot)
  | networkSnapshot (network : WorkerNetworkSnapshot)
  | jobSnapshot (job : WorkerCachedJobSnapshot)
  | capabilityDocument (capability : WorkerCapabilityDocument)
  | visualAssetDocument (visual : WorkerVisualAssetDocument)
  | waveformDocument (waveform : WorkerWaveformDocument)
  | telemetryDocument (telemetry : WorkerTelemetryDocument)
  | removed (connectionId : UInt64)
  | jobRemoved (jobId : UInt64)
  | commandRejected (connectionId : Option UInt64) (message : String)
  | fatal (message : String)

/-- Versioned worker event. -/
structure WorkerEventEnvelope where
  schemaVersion : UInt16
  event : WorkerEvent

variable [CapabilityWire] [DiagnosticWire] [WorkerWire] [Sha256]

/-- The payload check of an event; a notice has none. -/
def WorkerEvent.validate : WorkerEvent → ContractResult Unit
  | .snapshot session => session.validate
  | .networkSnapshot network => network.validate
  | .jobSnapshot job => job.validate
  | .capabilityDocument capability => capability.validate
  | .visualAssetDocument visual => visual.validate
  | .waveformDocument waveform => waveform.validate
  | .telemetryDocument telemetry => telemetry.validate
  | .ready _ | .removed _ | .jobRemoved _ | .commandRejected _ _ | .fatal _ => pure ()

/-- `WorkerEventEnvelope::validate` -/
def WorkerEventEnvelope.validate (envelope : WorkerEventEnvelope) : ContractResult Unit := do
  failIf (envelope.schemaVersion ≠ workerSchemaVersion) .schemaVersion
  envelope.event.validate

end Alumina.Client
