import Alumina.ForStd.PartialMap
import Alumina.Client.WorkerSnapshot

/-!
# The view of the user interface

`MutableSupervisorView` is what the rendering realm keeps of the worker: the latest snapshot of
every connection, and the evidence that came with it (networks, capabilities, visual assets,
telemetry, captures). Every document is checked again against the live session before it is
kept, and a new snapshot drops what no longer fits it.

What a capability document says about a board is not part of this code and is the parameter
`BoardDocument`; the explorer keeps the facts the view reads.
-/

namespace Alumina.Client

open Except (failIf)
open Alumina.Graph (Digest DeviceId FixedArray Sha256)

/-- `MAXIMUM_UI_DIAGNOSTICS` -/
def maximumUiDiagnostics : Nat := 16

/-! ## The board explorer -/

/-- `other` stands for the observations nothing here names. -/
inductive DiagnosticObservationKind where
  | stableBooleanInput
  | other (code : UInt8)
  deriving DecidableEq, Repr

inductive DigitalCaptureSourceKind where
  | simulated | rmt | pcnt | dma | software
  deriving DecidableEq, Repr

/-- `other` stands for the levels below an implementation. -/
inductive SupportLevel where
  | compiles | bench | qualified
  | other (code : UInt8)
  deriving DecidableEq, Repr

structure DiagnosticResourceDescriptor where
  resource : ResourceId
  observation : DiagnosticObservationKind
  deriving DecidableEq, Repr

structure DigitalCaptureResourceDescriptor where
  resource : ResourceId
  source : DigitalCaptureSourceKind
  deriving DecidableEq, Repr

/-- Facts of the one-shot digital capture provider. -/
structure BoardExplorerDigitalCapture where
  schemaVersion : UInt16
  support : Option SupportLevel
  triggerKinds : List DigitalTriggerCondition
  maximumChannels : UInt16
  maximumTransitions : UInt32
  recordBytes : UInt32
  maximumPretriggerMicros : UInt32
  maximumDurationMicros : UInt32
  deriving DecidableEq, Repr

def BoardExplorerDigitalCapture.isImplemented (provider : BoardExplorerDigitalCapture) : Bool :=
  provider.support ∈ [some .compiles, some .bench, some .qualified]

structure BoardExplorerResource where
  id : ResourceId
  diagnosticObservations : List DiagnosticResourceDescriptor
  digitalCapture : Option DigitalCaptureResourceDescriptor
  deriving DecidableEq, Repr

/-- Board-name-independent explorer state of one capability document. -/
structure BoardExplorerSnapshot where
  identity : CapabilityIdentity
  resources : List BoardExplorerResource
  digitalCapture : BoardExplorerDigitalCapture
  /-- The digests of the declared visuals. -/
  visuals : List Digest
  deriving DecidableEq, Repr

/-- What a decoded capability document says about the board. -/
class BoardDocument [CapabilityWire] where
  resources : CapabilityWire.View → List ResourceId
  diagnosticResources : CapabilityWire.View → List DiagnosticResourceDescriptor
  /-- `diagnostic_overview().admits` -/
  diagnosticAdmits : CapabilityWire.View → DiagnosticResourceDescriptor → Bool
  captureResources : CapabilityWire.View → List DigitalCaptureResourceDescriptor
  /-- `digital_capture().admits` -/
  captureAdmits : CapabilityWire.View → DigitalCaptureResourceDescriptor → Bool
  digitalCapture : CapabilityWire.View → BoardExplorerDigitalCapture
  visuals : CapabilityWire.View → List Digest
  /-- `DIGITAL_CAPTURE_VERSION` -/
  digitalCaptureVersion : UInt16
  /-- The debug text of a decoding failure. -/
  documentErrorText : CapabilityWire.DocumentError → String

inductive BoardExplorerError [CapabilityWire] where
  | capability (error : CapabilityWire.DocumentError)
  | identityMismatch

section Board

variable [CapabilityWire] [DiagnosticWire] [WorkerWire] [BoardDocument]

def BoardExplorerError.message : BoardExplorerError → String
  | .capability error =>
    "board capability document is invalid: " ++ BoardDocument.documentErrorText error
  | .identityMismatch =>
    "expected capability identity does not identify the supplied bytes"

/-- The facts of one resource: its admitted observations and its first admitted capture. -/
def boardExplorerResource (view : CapabilityWire.View) (id : ResourceId) :
    BoardExplorerResource where
  id := id
  diagnosticObservations := (BoardDocument.diagnosticResources view).filter fun observation =>
    BoardDocument.diagnosticAdmits view observation && observation.resource = id
  digitalCapture := (BoardDocument.captureResources view).find? fun capture =>
    BoardDocument.captureAdmits view capture && capture.resource = id

/-- `build_board_explorer_snapshot` -/
def buildBoardExplorerSnapshot (document : List UInt8) (expectedIdentity : CapabilityIdentity)
    (limits : CapabilityWire.Limits) : Except BoardExplorerError BoardExplorerSnapshot := do
  let capability ← (CapabilityWire.decodeBoardCapability document limits).mapError .capability
  failIf (CapabilityWire.viewIdentity capability ≠ expectedIdentity)
    BoardExplorerError.identityMismatch
  pure
    { identity := CapabilityWire.viewIdentity capability
      resources := (BoardDocument.resources capability).map (boardExplorerResource capability)
      digitalCapture := BoardDocument.digitalCapture capability
      visuals := BoardDocument.visuals capability }

def BoardExplorerSnapshot.resource (board : BoardExplorerSnapshot) (id : ResourceId) :
    Option BoardExplorerResource :=
  board.resources.find? (·.id = id)

end Board

/-! ## Retained evidence -/

inductive SupervisorLifecycle where
  | starting
  | ready (scopeOrigin : String)
  | failed (message : String)
  deriving DecidableEq, Repr

/-- A telemetry subscription and the exact events it delivered, oldest first. -/
structure ConnectedTelemetryView where
  connectionId : UInt64
  generation : UInt64
  subscription : List UInt8
  events : List (List UInt8)

structure ConnectedWaveformView where
  connectionId : UInt64
  generation : UInt64
  captureId : FixedArray UInt8 16
  record : List UInt8

structure ConnectedCapabilityView where
  connectionId : UInt64
  generation : UInt64
  board : BoardExplorerSnapshot

structure ConnectedVisualAssetView where
  connectionId : UInt64
  generation : UInt64
  capabilityDigest : Digest
  assetDigest : Digest
  bytes : List UInt8

structure MutableSupervisorView where
  lifecycle : SupervisorLifecycle
  devices : PartialMap UInt64 DeviceSessionSnapshot
  networks : PartialMap UInt64 WorkerNetworkSnapshot
  job : Option WorkerCachedJobSnapshot
  capabilities : PartialMap UInt64 ConnectedCapabilityView
  visuals : PartialMap (UInt64 × Digest) ConnectedVisualAssetView
  telemetry : PartialMap UInt64 ConnectedTelemetryView
  waveforms : PartialMap UInt64 ConnectedWaveformView
  diagnostics : List String

/-- `MutableSupervisorView::default` -/
def MutableSupervisorView.initial : MutableSupervisorView where
  lifecycle := .starting
  devices := .empty
  networks := .empty
  job := none
  capabilities := .empty
  visuals := .empty
  telemetry := .empty
  waveforms := .empty
  diagnostics := []

/-- `cycles_for_micros_floor` -/
def cyclesForMicrosFloor (frequencyHz : UInt64) (micros : UInt32) : Option UInt64 :=
  let cycles := frequencyHz.toNat * micros.toNat / 1000000
  if cycles < 2 ^ 64 then some (.ofNat cycles) else none

def acquisitionSource : DigitalAcquisitionSource → Option DigitalCaptureSourceKind
  | .simulated => some .simulated
  | .rmt => some .rmt
  | .pcnt => some .pcnt
  | .dma => some .dma
  | .software => some .software
  | .externalAnalyzer => none

section Telemetry

variable [CapabilityWire] [DiagnosticWire] [WorkerWire]

/-- The canonical subscription of some bytes. -/
def decodeSubscription (subscription : List UInt8) : Option TelemetrySubscribeView :=
  (DiagnosticWire.decodeTelemetrySubscribe subscription WorkerWire.transportLimits).toOption

/-- The canonical event of some bytes. -/
def decodeEventOf (subscription : TelemetrySubscribeView) (event : List UInt8) :
    Option TelemetryEventView :=
  (DiagnosticWire.decodeTelemetryEvent event subscription WorkerWire.diagnosticLimits).toOption

namespace ConnectedTelemetryView

/-- Oldest-to-newest exact canonical event history (`events`). -/
def decodedEvents (telemetry : ConnectedTelemetryView) : List TelemetryEventView :=
  match decodeSubscription telemetry.subscription with
  | none => []
  | some subscription => telemetry.events.filterMap (decodeEventOf subscription)

/-- The newest event. -/
def latest (telemetry : ConnectedTelemetryView) : Option TelemetryEventView := do
  let subscription ← decodeSubscription telemetry.subscription
  let event ← telemetry.events.getLast?
  decodeEventOf subscription event

end ConnectedTelemetryView

end Telemetry

/-- An event comes after another one of the same subscription. -/
def TelemetryEventView.newer (event previous : TelemetryEventView) : Bool :=
  previous.eventSequence < event.eventSequence && previous.droppedEvents ≤ event.droppedEvents &&
    previous.snapshotCycle < event.snapshotCycle

namespace MutableSupervisorView

/-- Keep the newest diagnostics. -/
def pushDiagnostic (view : MutableSupervisorView) (message : String) : MutableSupervisorView :=
  { view with
    diagnostics := (if view.diagnostics.length = maximumUiDiagnostics then
      view.diagnostics.drop 1 else view.diagnostics) ++ [message] }

/-- The live session a document names. -/
def session (view : MutableSupervisorView) (connectionId generation : UInt64) :
    Option DeviceSessionSnapshot :=
  (view.devices.get? connectionId).filter (·.generation = generation)

/-- The capability displayed for the session a document names. -/
def capability (view : MutableSupervisorView) (connectionId generation : UInt64) :
    Option ConnectedCapabilityView :=
  (view.capabilities.get? connectionId).filter (·.generation = generation)

variable [CapabilityWire] [DiagnosticWire] [WorkerWire] [BoardDocument] [Sha256]

/-! ## Telemetry -/

/-- Whether a record was taken on the device, boot and capability that is live. -/
def contextMatches (context : DiagnosticContext) (snapshot : DeviceSessionSnapshot)
    (identity : DeviceIdentitySnapshot) (deviceId : DeviceId)
    (capability : ConnectedCapabilityView) : Bool :=
  context.deviceId = deviceId && context.capability = capability.board.identity &&
    context.configDigest.isZero && snapshot.bootId = some context.bootId &&
    identity.capability.identity.toOption = some context.capability

/-- The clock of a record is the one the latest signed heartbeat declared. -/
def frequencyMatches (context : DiagnosticContext) (snapshot : DeviceSessionSnapshot) : Bool :=
  snapshot.history.getLast?.any (·.frequencyHz = context.clockFrequencyHz)

/-- `validate_telemetry_transfer`. The event is returned; the source decodes it again. -/
def validateTelemetryTransfer (view : MutableSupervisorView)
    (telemetry : WorkerTelemetryDocument) : Except String TelemetryEventView := do
  let snapshot ← (view.session telemetry.connectionId telemetry.generation).okOr
    "session generation is stale or absent"
  let capability ← (view.capability telemetry.connectionId telemetry.generation).okOr
    "matching complete board capability is absent"
  let identity ← snapshot.deviceIdentity.okOr "public device identity is absent"
  let deviceId ← identity.validate.mapError fun _ => "public device identity is invalid"
  let subscription ← (decodeSubscription telemetry.subscription).okOr
    "canonical telemetry subscription decoding failed"
  let event ← (decodeEventOf subscription telemetry.event).okOr
    "canonical telemetry event decoding failed"
  let context := WorkerWire.subscribeContext subscription
  failIf (¬ contextMatches context snapshot identity deviceId capability ∨
    snapshot.telemetryPhase ≠ some .active ∨
    snapshot.telemetrySubscriptionId ≠ some subscription.subscriptionId.get ∨
    snapshot.telemetrySubscriptionDigest ≠ some subscription.digest ∨
    event.eventSequence ≤ snapshot.telemetryEventSequence ∨
    event.droppedEvents < snapshot.telemetryDroppedEvents)
    "telemetry context or progress does not match live device authority"
  failIf (¬ frequencyMatches context snapshot)
    "telemetry clock frequency does not match signed heartbeat evidence"
  Except.forEach (fun id => do
    let resource ← (capability.board.resource id).okOr
      "telemetry names a resource absent from the board capability"
    failIf (¬ resource.diagnosticObservations.any (·.observation = .stableBooleanInput))
      "telemetry resource lacks passive stable Boolean observation authority")
    (WorkerWire.overviewSamples event)
  pure event

/-- Whether an event continues the history kept for its connection. -/
def continuesHistory (entry : ConnectedTelemetryView) (telemetry : WorkerTelemetryDocument)
    (event : TelemetryEventView) : Bool :=
  entry.generation = telemetry.generation && entry.subscription = telemetry.subscription &&
    entry.latest.all event.newer

/-- `apply_telemetry_transfer` -/
def applyTelemetryTransfer (view : MutableSupervisorView) (telemetry : WorkerTelemetryDocument) :
    MutableSupervisorView :=
  match view.validateTelemetryTransfer telemetry with
  | .error error =>
    view.pushDiagnostic
      s!"connection {telemetry.connectionId}: telemetry transfer rejected: {error}"
  | .ok event =>
    let entry := (view.telemetry.get? telemetry.connectionId).getD
      ⟨telemetry.connectionId, telemetry.generation, telemetry.subscription, []⟩
    if continuesHistory entry telemetry event then
      let kept := if entry.events.length = maximumClockHistory then entry.events.drop 1
        else entry.events
      { view with
        telemetry := view.telemetry.insert telemetry.connectionId
          { entry with events := kept ++ [telemetry.event] } }
    else
      -- the entry the lookup created stays
      { view with telemetry := view.telemetry.insert telemetry.connectionId entry }.pushDiagnostic
        s!"connection {telemetry.connectionId}: telemetry history fork rejected"

/-! ## Waveforms and visuals -/

/-- The size, the window and the trigger of a capture are within the provider's limits. -/
def validateCaptureLimits (provider : BoardExplorerDigitalCapture) (record : List UInt8)
    (capture : DigitalCaptureView) : Except String Unit := do
  failIf (provider.recordBytes.toNat < record.length ∨
    provider.maximumChannels.toNat < capture.channels.length ∨
    provider.maximumTransitions.toNat < capture.transitionCount ∨
    provider.maximumTransitions < capture.retention)
    "capture exceeds the immutable fixed-memory capability"
  let requestedDuration ← (UInt64.checkedAdd capture.requestedPretriggerCycles
    capture.requestedPosttriggerCycles).okOr "capture requested duration overflowed"
  let maximumPretrigger ← (cyclesForMicrosFloor capture.context.clockFrequencyHz
    provider.maximumPretriggerMicros).okOr
      "capture pretrigger capability does not fit device cycles"
  let maximumDuration ← (cyclesForMicrosFloor capture.context.clockFrequencyHz
    provider.maximumDurationMicros).okOr "capture duration capability does not fit device cycles"
  failIf (maximumPretrigger < capture.requestedPretriggerCycles ∨
    maximumDuration < requestedDuration) "capture timing exceeds the immutable capability"
  failIf (capture.trigger ∉ provider.triggerKinds)
    "capture trigger is absent from the immutable capability"

/-- `validate_waveform_transfer`. The capture is returned; the source decodes it again. -/
def validateWaveformTransfer (view : MutableSupervisorView) (waveform : WorkerWaveformDocument) :
    Except String DigitalCaptureView := do
  let snapshot ← (view.session waveform.connectionId waveform.generation).okOr
    "session generation is stale or absent"
  let capability ← (view.capability waveform.connectionId waveform.generation).okOr
    "matching complete board capability is absent"
  let identity ← snapshot.deviceIdentity.okOr "public device identity is absent"
  let deviceId ← identity.validate.mapError fun _ => "public device identity is invalid"
  let capture ← (WorkerWire.decodeDigitalCapture waveform.record
    WorkerWire.diagnosticLimits).mapError fun _ => "canonical capture decoding failed"
  failIf (¬ contextMatches capture.context snapshot identity deviceId capability ∨
    snapshot.waveformCaptureId ≠ some capture.captureId.asBytes)
    "capture context does not match live device authority"
  failIf (¬ frequencyMatches capture.context snapshot)
    "capture clock frequency does not match signed heartbeat evidence"
  let provider := capability.board.digitalCapture
  failIf (¬ provider.isImplemented ∨
    provider.schemaVersion ≠ BoardDocument.digitalCaptureVersion)
    "matching digital-capture capability is absent or unsupported"
  validateCaptureLimits provider waveform.record capture
  Except.forEach (fun channel => do
    let resource ← (capability.board.resource channel.resource).okOr
      "capture names a resource absent from the board capability"
    let expected ← resource.digitalCapture.okOr
      "capture resource lacks digital acquisition authority"
    failIf (acquisitionSource channel.source ≠ some expected.source)
      "capture acquisition source contradicts the immutable capability") capture.channels
  pure capture

/-- `apply_waveform_transfer` -/
def applyWaveformTransfer (view : MutableSupervisorView) (waveform : WorkerWaveformDocument) :
    MutableSupervisorView :=
  match view.validateWaveformTransfer waveform with
  | .ok capture =>
    { view with
      waveforms := view.waveforms.insert waveform.connectionId
        ⟨waveform.connectionId, waveform.generation, capture.captureId.asBytes,
          waveform.record⟩ }
  | .error error =>
    view.pushDiagnostic
      s!"connection {waveform.connectionId}: waveform transfer rejected: {error}"

/-- The displayed capability of the live session declares the asset. -/
def visualIsValid (view : MutableSupervisorView) (visual : WorkerVisualAssetDocument) : Bool :=
  (view.session visual.connectionId visual.generation).isSome &&
    (view.capabilities.get? visual.connectionId).any (fun capability =>
      capability.generation = visual.generation &&
        capability.board.identity.digest = visual.capabilityDigest &&
        visual.assetDigest ∈ capability.board.visuals) &&
    Sha256.sha256 visual.bytes = visual.assetDigest

/-- `apply_visual_transfer` -/
def applyVisualTransfer (view : MutableSupervisorView) (visual : WorkerVisualAssetDocument) :
    MutableSupervisorView :=
  if view.visualIsValid visual then
    { view with
      visuals := view.visuals.insert (visual.connectionId, visual.assetDigest)
        ⟨visual.connectionId, visual.generation, visual.capabilityDigest, visual.assetDigest,
          visual.bytes⟩ }
  else
    view.pushDiagnostic <| s!"connection {visual.connectionId}: " ++
      "visual transfer rejected against live capability authority"

/-! ## Snapshots -/

/-- A displayed capability is the one the snapshot reports complete. -/
def admitsCapability (snapshot : DeviceSessionSnapshot) (capability : ConnectedCapabilityView) :
    Bool :=
  capability.generation = snapshot.generation && snapshot.capabilityPhase = .complete &&
    (snapshot.capabilityIdentity.bind fun identity => identity.identity.toOption) =
      some capability.board.identity

/-- Telemetry of the subscription the snapshot reports active. -/
def admitsTelemetry (snapshot : DeviceSessionSnapshot) (telemetry : ConnectedTelemetryView) :
    Bool :=
  telemetry.generation = snapshot.generation && snapshot.telemetryPhase = some .active &&
    (decodeSubscription telemetry.subscription).any fun subscription =>
      snapshot.telemetrySubscriptionId = some subscription.subscriptionId.get &&
        snapshot.telemetrySubscriptionDigest = some subscription.digest

/-- `apply_snapshot`: drop the evidence the new snapshot does not admit. -/
def applySnapshot (view : MutableSupervisorView) (snapshot : DeviceSessionSnapshot) :
    MutableSupervisorView :=
  let connectionId := snapshot.connectionId
  let capabilities := view.capabilities.prune connectionId fun capability =>
    !admitsCapability snapshot capability
  let admittedVisualCapability :=
    (capabilities.get? connectionId).any (admitsCapability snapshot)
  { view with
    networks := view.networks.retain fun key network =>
      key ≠ connectionId || network.generation = snapshot.generation
    capabilities
    visuals := view.visuals.retain fun key visual =>
      key.1 ≠ connectionId || (admittedVisualCapability &&
        visual.generation = snapshot.generation &&
        snapshot.capabilityIdentity.any (·.digest = visual.capabilityDigest))
    telemetry := view.telemetry.prune connectionId fun telemetry =>
      !admitsTelemetry snapshot telemetry
    waveforms := view.waveforms.prune connectionId fun waveform =>
      waveform.generation ≠ snapshot.generation ||
        snapshot.waveformCaptureId ≠ some waveform.captureId
    devices := view.devices.insert connectionId snapshot }

/-! ## Events -/

/-- A network snapshot of a live session is kept. -/
def applyNetworkSnapshot (view : MutableSupervisorView) (network : WorkerNetworkSnapshot) :
    MutableSupervisorView :=
  if (view.session network.connectionId network.generation).isSome then
    { view with networks := view.networks.insert network.connectionId network }
  else
    view.pushDiagnostic <| s!"connection {network.connectionId}: " ++
      s!"stale network generation {network.generation} ignored"

/-- A capability document of a live session is displayed. -/
def applyCapabilityDocument (view : MutableSupervisorView)
    (capability : WorkerCapabilityDocument) : MutableSupervisorView :=
  if (view.session capability.connectionId capability.generation).isNone then
    view.pushDiagnostic <| s!"connection {capability.connectionId}: " ++
      s!"stale capability generation {capability.generation} ignored"
  else
    match capability.identity.identity with
    | .error _ =>
      view.pushDiagnostic
        s!"connection {capability.connectionId}: capability identity projection failed"
    | .ok identity =>
      match buildBoardExplorerSnapshot capability.document identity WorkerWire.boardLimits with
      | .ok board =>
        { view with
          capabilities := view.capabilities.insert capability.connectionId
            ⟨capability.connectionId, capability.generation, board⟩ }
      | .error error =>
        view.pushDiagnostic <| s!"connection {capability.connectionId}: " ++
          s!"capability explorer rejected: {error.message}"

/-- Forget a disconnected session. -/
def applyRemoved (view : MutableSupervisorView) (connectionId : UInt64) : MutableSupervisorView :=
  { view with
    devices := view.devices.erase connectionId
    networks := view.networks.erase connectionId
    capabilities := view.capabilities.erase connectionId
    visuals := view.visuals.retain fun key _ => key.1 ≠ connectionId
    telemetry := view.telemetry.erase connectionId
    waveforms := view.waveforms.erase connectionId }

/-- The effect of a valid event. -/
def applyEvent (view : MutableSupervisorView) : WorkerEvent → MutableSupervisorView
  | .ready scopeOrigin => { view with lifecycle := .ready scopeOrigin }
  | .snapshot snapshot => view.applySnapshot snapshot
  | .networkSnapshot network => view.applyNetworkSnapshot network
  | .jobSnapshot snapshot => { view with job := some snapshot }
  | .capabilityDocument capability => view.applyCapabilityDocument capability
  | .visualAssetDocument visual => view.applyVisualTransfer visual
  | .waveformDocument waveform => view.applyWaveformTransfer waveform
  | .telemetryDocument telemetry => view.applyTelemetryTransfer telemetry
  | .removed connectionId => view.applyRemoved connectionId
  | .jobRemoved jobId =>
    if view.job.any (·.jobId = jobId) then { view with job := none } else view
  | .commandRejected connectionId message =>
    let origin := match connectionId with
      | none => "worker"
      | some identity => s!"connection {identity}"
    view.pushDiagnostic s!"{origin}: {message}"
  | .fatal message => { view with lifecycle := .failed message }

/-- `MutableSupervisorView::apply` -/
def apply (view : MutableSupervisorView) (envelope : WorkerEventEnvelope) :
    MutableSupervisorView :=
  match envelope.validate with
  | .error error =>
    if envelope.schemaVersion = workerSchemaVersion then
      view.pushDiagnostic s!"control worker snapshot rejected: {error.message}"
    else
      { view with
        lifecycle := .failed "control worker uses an incompatible message schema" }
  | .ok () => view.applyEvent envelope.event

/-- The view after one more event. -/
abbrev Step (view : MutableSupervisorView) (envelope : WorkerEventEnvelope)
    (next : MutableSupervisorView) : Prop :=
  next = view.apply envelope

end MutableSupervisorView

end Alumina.Client
