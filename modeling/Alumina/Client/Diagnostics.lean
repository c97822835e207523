import Alumina.ForStd.CheckedArith
import Alumina.ForStd.Run
import Alumina.Client.Protocol

/-!
# Telemetry subscriptions and waveform captures

`TelemetrySubscriptionMachine` keeps one subscription and the newest event it accepted;
`WaveformCaptureMachine` configures, arms and downloads one capture. Both hold at most one
pending request, and turn an ambiguous result into a status poll.

The diagnostics crate (bodies, their digests and the check of a complete capture) is not part
of this code and is the parameter `DiagnosticWire`. Of its records the fields this code reads
are kept; `details` stands for the others.
-/

namespace Alumina.Client

open Except (failIf)
open Alumina.Graph (Digest FixedArray)

/-! ## Bodies -/

/-- Byte bounds of diagnostic bodies. -/
structure DiagnosticTransportLimits where
  maximumWaveformRecordBytes : UInt32
  details : List UInt32
  deriving DecidableEq, Repr

/-- Bounds of one diagnostic record. -/
structure DiagnosticLimits where
  details : List UInt32
  deriving DecidableEq, Repr

structure SubscriptionId where
  get : UInt64
  deriving DecidableEq, Repr

structure CaptureId where
  asBytes : FixedArray UInt8 16
  deriving DecidableEq, Repr

structure TelemetrySessionRequest where
  subscriptionId : SubscriptionId
  subscriptionDigest : Digest
  deriving DecidableEq, Repr

structure TelemetryPollRequest where
  reference : TelemetrySessionRequest
  acceptedEventSequence : UInt64
  deriving DecidableEq, Repr

/-- A validated subscribe request. -/
structure TelemetrySubscribeView where
  subscriptionId : SubscriptionId
  digest : Digest
  minimumPeriodCycles : UInt64
  maximumEventBytes : UInt32
  resourceCount : Nat
  details : List UInt8
  deriving DecidableEq, Repr

inductive TelemetryPhase where
  | active | unsubscribed
  deriving DecidableEq, Repr

structure TelemetrySubscriptionStatus where
  phase : TelemetryPhase
  subscriptionId : SubscriptionId
  subscriptionDigest : Digest
  minimumPeriodCycles : UInt64
  maximumEventBytes : UInt32
  resourceCount : UInt16
  nextEventSequence : UInt64
  droppedEvents : UInt64
  details : List UInt8
  deriving DecidableEq, Repr

/-- A validated event envelope. -/
structure TelemetryEventView where
  eventSequence : UInt64
  droppedEvents : UInt64
  snapshotCycle : UInt64
  overviewDigest : Digest
  overview : List UInt8
  deriving DecidableEq, Repr

structure WaveformSessionRequest where
  captureId : CaptureId
  configureDigest : Digest
  deriving DecidableEq, Repr

structure WaveformReadRequest where
  captureId : CaptureId
  configureDigest : Digest
  recordDigest : Digest
  offset : UInt32
  maximumBytes : UInt32
  deriving DecidableEq, Repr

/-- A validated capture configuration. -/
structure WaveformConfigureView where
  captureId : CaptureId
  digest : Digest
  maximumChunkBytes : UInt32
  details : List UInt8
  deriving DecidableEq, Repr

inductive WaveformPhase where
  | configured | armed | complete | faulted | stopped
  deriving DecidableEq, Repr

structure WaveformStatus where
  phase : WaveformPhase
  captureId : CaptureId
  configureDigest : Digest
  recordBytes : UInt32
  recordDigest : Digest
  details : List UInt8
  deriving DecidableEq, Repr

/-- A validated range of a retained record. -/
structure WaveformChunkView where
  recordDigest : Digest
  recordBytes : UInt32
  offset : UInt32
  endOffset : UInt32
  bytes : List UInt8
  deriving DecidableEq, Repr

/-- The diagnostics crate: canonical bodies and the check of a complete capture. -/
class DiagnosticWire where
  TransportError : Type
  decodeTelemetrySubscribe : List UInt8 → DiagnosticTransportLimits →
    Except TransportError TelemetrySubscribeView
  decodeTelemetryEvent : List UInt8 → TelemetrySubscribeView → DiagnosticLimits →
    Except TransportError TelemetryEventView
  /-- `TelemetrySubscriptionStatus::decode` -/
  decodeTelemetryStatus : List UInt8 → Except TransportError TelemetrySubscriptionStatus
  /-- `TelemetrySessionRequest::encode` -/
  encodeTelemetrySession : TelemetrySessionRequest → Except TransportError (List UInt8)
  /-- `TelemetryPollRequest::encode` -/
  encodeTelemetryPoll : TelemetryPollRequest → Except TransportError (List UInt8)
  decodeWaveformConfigure : List UInt8 → DiagnosticTransportLimits →
    Except TransportError WaveformConfigureView
  /-- `WaveformSessionRequest::encode` -/
  encodeWaveformSession : WaveformSessionRequest → Except TransportError (List UInt8)
  /-- `WaveformReadRequest::encode` -/
  encodeWaveformRead : WaveformReadRequest → DiagnosticTransportLimits →
    Except TransportError (List UInt8)
  /-- `WaveformStatus::decode` -/
  decodeWaveformStatus : List UInt8 → Except TransportError WaveformStatus
  decodeWaveformChunk : List UInt8 → WaveformSessionRequest → Digest →
    DiagnosticTransportLimits → Except TransportError WaveformChunkView
  validateRetainedCapture : List UInt8 → WaveformConfigureView → DiagnosticLimits →
    DiagnosticTransportLimits → Except TransportError Digest

/-- One diagnostic-family operation ready for authenticated framing. -/
structure DiagnosticOperation where
  operation : Operation
  body : List UInt8
  deriving DecidableEq, Repr

/-- Transport-independent diagnostic client or reconciliation failure. -/
inductive DiagnosticClientError [DiagnosticWire] where
  | transport (error : DiagnosticWire.TransportError)
  | deviceStatus (status : StatusCode)
  | responseBody | identity | state | eventOrder | requestPending | noPendingRequest
  | invalidTransition

abbrev DiagnosticResult [DiagnosticWire] := Except DiagnosticClientError

section Responses

variable [DiagnosticWire]

/-- A success with a body. -/
def requireBody (response : Response) : DiagnosticResult Unit :=
  if response.status = .ok then failIf (response.body = []) .responseBody
  else if response.body = [] then .error (.deviceStatus response.status)
  else .error .responseBody

def requireEmpty (response : Response) : DiagnosticResult Unit :=
  failIf (response.body ≠ []) .responseBody

end Responses

/-! ## Telemetry -/

/-- User-facing telemetry subscription lifecycle. -/
inductive TelemetryClientPhase where
  | subscribing | reconcilingSubscribe | active
  | unsubscribing | reconcilingUnsubscribe | unsubscribed
  deriving DecidableEq, Repr

inductive TelemetryAction where
  | subscribe | pollSubscribe | pollEvent | unsubscribe | pollUnsubscribe
  deriving DecidableEq, Repr

/-- Monotonic facts retained from the newest accepted telemetry event. -/
structure TelemetryEventProgress where
  eventSequence : UInt64
  droppedEvents : UInt64
  snapshotCycle : UInt64
  overviewDigest : Digest
  deriving DecidableEq, Repr

/-- Result of applying a validated device-originated telemetry event. -/
structure TelemetryEventAcceptance where
  advanced : Bool
  event : TelemetryEventView
  deriving DecidableEq, Repr

def TelemetryEventView.progress (event : TelemetryEventView) : TelemetryEventProgress :=
  ⟨event.eventSequence, event.droppedEvents, event.snapshotCycle, event.overviewDigest⟩

/-- Whether an event may follow the newest one. -/
def TelemetryEventProgress.follows (progress previous : TelemetryEventProgress)
    (minimumPeriodCycles : UInt64) : Bool :=
  !(progress.eventSequence ≤ previous.eventSequence ||
    progress.droppedEvents < previous.droppedEvents ||
    (progress.snapshotCycle.checkedSub previous.snapshotCycle).all (· < minimumPeriodCycles))

/-- Whether a status contradicts the newest accepted event. -/
def TelemetryEventProgress.contradicts (progress : TelemetryEventProgress)
    (status : TelemetrySubscriptionStatus) : Bool :=
  status.nextEventSequence ≤ progress.eventSequence ||
    status.droppedEvents < progress.droppedEvents

/-- Retry-safe subscription coordinator bound to one complete canonical request. -/
structure TelemetrySubscriptionMachine where
  request : List UInt8
  limits : DiagnosticTransportLimits
  recordLimits : DiagnosticLimits
  reference : TelemetrySessionRequest
  phase : TelemetryClientPhase
  pending : Option TelemetryAction
  status : Option TelemetrySubscriptionStatus
  eventProgress : Option TelemetryEventProgress
  deriving DecidableEq, Repr

namespace TelemetrySubscriptionMachine

variable [DiagnosticWire]

/-- Validate and own one canonical subscribe request. -/
def new (request : List UInt8) (limits : DiagnosticTransportLimits)
    (recordLimits : DiagnosticLimits) : DiagnosticResult TelemetrySubscriptionMachine := do
  let subscription ← (DiagnosticWire.decodeTelemetrySubscribe request limits).mapError .transport
  pure
    { request, limits, recordLimits
      reference := ⟨subscription.subscriptionId, subscription.digest⟩
      phase := .subscribing
      pending := none
      status := none
      eventProgress := none }

def subscription (machine : TelemetrySubscriptionMachine) :
    DiagnosticResult TelemetrySubscribeView :=
  (DiagnosticWire.decodeTelemetrySubscribe machine.request machine.limits).mapError .transport

def encodeReference (machine : TelemetrySubscriptionMachine) : DiagnosticResult (List UInt8) :=
  (DiagnosticWire.encodeTelemetrySession machine.reference).mapError .transport

/-- Emit the unique next operation, if this phase requires network work. -/
def nextRequest (machine : TelemetrySubscriptionMachine) :
    DiagnosticResult (Option DiagnosticOperation × TelemetrySubscriptionMachine) := do
  failIf machine.pending.isSome .requestPending
  match machine.phase with
  | .subscribing =>
    pure (some ⟨.telemetrySubscribe, machine.request⟩, { machine with pending := some .subscribe })
  | .reconcilingSubscribe => do
    let body ← machine.encodeReference
    pure (some ⟨.telemetryStatus, body⟩, { machine with pending := some .pollSubscribe })
  | .unsubscribing => do
    let body ← machine.encodeReference
    pure (some ⟨.telemetryUnsubscribe, body⟩, { machine with pending := some .unsubscribe })
  | .reconcilingUnsubscribe => do
    let body ← machine.encodeReference
    pure (some ⟨.telemetryStatus, body⟩, { machine with pending := some .pollUnsubscribe })
  | .active | .unsubscribed => pure (none, machine)

/-- The newest event sequence this machine has completely validated. -/
def acceptedEventSequence (machine : TelemetrySubscriptionMachine) : UInt64 :=
  machine.eventProgress.elim 0 (·.eventSequence)

/-- Emit one event acknowledgement and fetch while active. -/
def nextEventRequest (machine : TelemetrySubscriptionMachine) :
    DiagnosticResult (DiagnosticOperation × TelemetrySubscriptionMachine) := do
  failIf machine.pending.isSome .requestPending
  failIf (machine.phase ≠ .active) .invalidTransition
  let body ← (DiagnosticWire.encodeTelemetryPoll
    ⟨machine.reference, machine.acceptedEventSequence⟩).mapError .transport
  pure (⟨.telemetryPoll, body⟩, { machine with pending := some .pollEvent })

/-- Request removal after the active subscription is known exactly. -/
def requestUnsubscribe (machine : TelemetrySubscriptionMachine) :
    DiagnosticResult TelemetrySubscriptionMachine := do
  failIf machine.pending.isSome .requestPending
  match machine.phase with
  | .active => pure { machine with phase := .unsubscribing }
  | .unsubscribed => pure machine
  | _ => throw .invalidTransition

def validateTelemetryStatus (status : TelemetrySubscriptionStatus)
    (subscription : TelemetrySubscribeView) : DiagnosticResult Unit :=
  failIf (status.subscriptionId ≠ subscription.subscriptionId ∨
    status.subscriptionDigest ≠ subscription.digest ∨
    status.minimumPeriodCycles ≠ subscription.minimumPeriodCycles ∨
    status.maximumEventBytes ≠ subscription.maximumEventBytes ∨
    status.resourceCount.toNat ≠ subscription.resourceCount) .identity

/-- The device phase a settled action must show. -/
def expectedPhase : TelemetryAction → TelemetryPhase
  | .unsubscribe | .pollUnsubscribe => .unsubscribed
  | _ => .active

/-- The checks of a status response, after which it is retained. -/
def checkedStatus (machine : TelemetrySubscriptionMachine) (action : TelemetryAction)
    (response : Response) : DiagnosticResult TelemetrySubscriptionStatus := do
  requireBody response
  let status ← (DiagnosticWire.decodeTelemetryStatus response.body).mapError .transport
  let subscription ← machine.subscription
  validateTelemetryStatus status subscription
  failIf (machine.eventProgress.any (TelemetryEventProgress.contradicts · status)) .eventOrder
  failIf (status.phase ≠ expectedPhase action) .state
  pure status

/-- What a settled action makes of its response. -/
def settle (machine : TelemetrySubscriptionMachine) (action : TelemetryAction)
    (response : Response) : DiagnosticResult TelemetrySubscriptionMachine :=
  if action = .pollSubscribe ∧ response.status = .notFound then do
    requireEmpty response
    pure { machine with phase := .subscribing }
  else if action = .pollUnsubscribe ∧ response.status = .notFound then do
    requireEmpty response
    pure { machine with phase := .unsubscribed, status := none }
  else do
    let status ← machine.checkedStatus action response
    pure
      { machine with
        status := some status
        phase := match expectedPhase action with
          | .active => .active
          | .unsubscribed => .unsubscribed }

/-- Apply one already authenticated and correlated response. -/
def acceptResponse (machine : TelemetrySubscriptionMachine) (response : Response) :
    TelemetrySubscriptionMachine × DiagnosticResult Unit :=
  match machine.pending with
  | none => (machine, .error .noPendingRequest)
  | some .pollEvent => (machine, .error .invalidTransition)
  | some action =>
    let machine := { machine with pending := none }
    match machine.settle action response with
    | .ok machine => (machine, .ok ())
    | .error error => (machine, .error error)

/-- Validate and apply one complete device-originated event envelope. -/
def acceptEvent (machine : TelemetrySubscriptionMachine) (encoded : List UInt8) :
    DiagnosticResult (TelemetryEventAcceptance × TelemetrySubscriptionMachine) := do
  failIf (machine.phase ≠ .active) .state
  let subscription ← machine.subscription
  let event ← (DiagnosticWire.decodeTelemetryEvent encoded subscription
    machine.recordLimits).mapError .transport
  let progress := event.progress
  if machine.eventProgress = some progress then pure (⟨false, event⟩, machine)
  else do
    failIf (machine.eventProgress.any fun previous =>
      !progress.follows previous subscription.minimumPeriodCycles) .eventOrder
    pure (⟨true, event⟩, { machine with eventProgress := some progress })

/-- The event of a poll response, if it carries one. -/
def pollEvent (machine : TelemetrySubscriptionMachine) (response : Response) :
    DiagnosticResult (Option TelemetryEventAcceptance × TelemetrySubscriptionMachine) :=
  if response.status ≠ .ok then
    if response.body = [] then .error (.deviceStatus response.status) else .error .responseBody
  else if response.body = [] then pure (none, machine)
  else do
    let (accepted, machine) ← machine.acceptEvent response.body
    pure (some accepted, machine)

/-- Authenticate one correlated poll response and apply its optional event. -/
def acceptEventResponse (machine : TelemetrySubscriptionMachine) (response : Response) :
    TelemetrySubscriptionMachine × DiagnosticResult (Option TelemetryEventAcceptance) :=
  if machine.pending ≠ some .pollEvent then (machine, .error .noPendingRequest)
  else
    let machine := { machine with pending := none }
    match machine.pollEvent response with
    | .ok (accepted, machine) => (machine, .ok accepted)
    | .error error => (machine, .error error)

/-- Convert an ambiguous I/O outcome into an exact status reconciliation. -/
def abandonPending (machine : TelemetrySubscriptionMachine) :
    TelemetrySubscriptionMachine × Bool :=
  match machine.pending with
  | none => (machine, false)
  | some action =>
    ({ machine with
        pending := none
        phase := match action with
          | .subscribe | .pollSubscribe => .reconcilingSubscribe
          | .unsubscribe | .pollUnsubscribe => .reconcilingUnsubscribe
          | .pollEvent => .active }, true)

/-! ### Calls -/

/-- A call on the machine. -/
inductive Call where
  | nextRequest | nextEventRequest
  | acceptResponse (response : Response)
  | acceptEventResponse (response : Response)
  | acceptEvent (encoded : List UInt8)
  | requestUnsubscribe | abandonPending
  deriving DecidableEq, Repr

/-- What a call returned. -/
inductive Outcome where
  | next (result : DiagnosticResult (Option DiagnosticOperation))
  | event (result : DiagnosticResult (Option TelemetryEventAcceptance))
  | done (result : DiagnosticResult Unit)
  | abandoned (had : Bool)

def perform (machine : TelemetrySubscriptionMachine) :
    Call → TelemetrySubscriptionMachine × Outcome
  | .nextRequest =>
    match machine.nextRequest with
    | .ok (operation, machine) => (machine, .next (.ok operation))
    | .error error => (machine, .next (.error error))
  | .nextEventRequest =>
    match machine.nextEventRequest with
    | .ok (operation, machine) => (machine, .next (.ok (some operation)))
    | .error error => (machine, .next (.error error))
  | .acceptResponse response =>
    let (machine, result) := machine.acceptResponse response
    (machine, .done result)
  | .acceptEventResponse response =>
    let (machine, result) := machine.acceptEventResponse response
    (machine, .event result)
  | .acceptEvent encoded =>
    match machine.acceptEvent encoded with
    | .ok (accepted, machine) => (machine, .event (.ok (some accepted)))
    | .error error => (machine, .event (.error error))
  | .requestUnsubscribe =>
    match machine.requestUnsubscribe with
    | .ok machine => (machine, .done (.ok ()))
    | .error error => (machine, .done (.error error))
  | .abandonPending =>
    let (machine, had) := machine.abandonPending
    (machine, .abandoned had)

/-- One call on the machine. -/
abbrev Step : TelemetrySubscriptionMachine → Call × Outcome → TelemetrySubscriptionMachine →
    Prop :=
  Run.Calls perform

end TelemetrySubscriptionMachine

/-! ## Waveforms -/

/-- User-facing waveform acquisition and exact recovery lifecycle. -/
inductive WaveformClientPhase where
  | configuring | reconcilingConfigure | configured | arming | reconcilingArm | armed
  | downloading (receivedBytes totalBytes : UInt32)
  | complete | stopping | reconcilingStop | stopped
  deriving DecidableEq, Repr

inductive WaveformAction where
  | configure | pollConfigure | arm | pollArm | pollComplete | read | stop | pollStop
  deriving DecidableEq, Repr

/-- Retry-safe waveform coordinator and exact retained-record assembler. -/
structure WaveformCaptureMachine where
  configure : List UInt8
  limits : DiagnosticTransportLimits
  recordLimits : DiagnosticLimits
  reference : WaveformSessionRequest
  maximumChunkBytes : UInt32
  phase : WaveformClientPhase
  pending : Option WaveformAction
  status : Option WaveformStatus
  record : List UInt8
  deriving DecidableEq, Repr

namespace WaveformCaptureMachine

/-- Complete validated canonical capture bytes, only in the complete phase. -/
def completeRecord (machine : WaveformCaptureMachine) : Option (List UInt8) :=
  if machine.phase = .complete then some machine.record else none

variable [DiagnosticWire]

/-- Validate and own one canonical waveform configuration. -/
def new (configure : List UInt8) (limits : DiagnosticTransportLimits)
    (recordLimits : DiagnosticLimits) : DiagnosticResult WaveformCaptureMachine := do
  let configuration ← (DiagnosticWire.decodeWaveformConfigure configure limits).mapError .transport
  pure
    { configure, limits, recordLimits
      reference := ⟨configuration.captureId, configuration.digest⟩
      maximumChunkBytes := configuration.maximumChunkBytes
      phase := .configuring
      pending := none
      status := none
      record := [] }

def configuration (machine : WaveformCaptureMachine) : DiagnosticResult WaveformConfigureView :=
  (DiagnosticWire.decodeWaveformConfigure machine.configure machine.limits).mapError .transport

def encodeReference (machine : WaveformCaptureMachine) : DiagnosticResult (List UInt8) :=
  (DiagnosticWire.encodeWaveformSession machine.reference).mapError .transport

/-- A request that carries the capture reference only. -/
def ask (machine : WaveformCaptureMachine) (action : WaveformAction) (operation : Operation) :
    DiagnosticResult (Option DiagnosticOperation × WaveformCaptureMachine) := do
  let body ← machine.encodeReference
  pure (some ⟨operation, body⟩, { machine with pending := some action })

/-- Emit the unique next operation, including exact status polls and ranges. -/
def nextRequest (machine : WaveformCaptureMachine) :
    DiagnosticResult (Option DiagnosticOperation × WaveformCaptureMachine) := do
  failIf machine.pending.isSome .requestPending
  match machine.phase with
  | .configuring =>
    pure (some ⟨.waveformConfigure, machine.configure⟩, { machine with pending := some .configure })
  | .reconcilingConfigure => machine.ask .pollConfigure .waveformStatus
  | .arming => machine.ask .arm .waveformArm
  | .reconcilingArm => machine.ask .pollArm .waveformStatus
  | .armed => machine.ask .pollComplete .waveformStatus
  | .downloading receivedBytes _ => do
    let status ← machine.status.okOr .state
    let body ← (DiagnosticWire.encodeWaveformRead
      { captureId := machine.reference.captureId
        configureDigest := machine.reference.configureDigest
        recordDigest := status.recordDigest
        offset := receivedBytes
        maximumBytes := machine.maximumChunkBytes } machine.limits).mapError .transport
    pure (some ⟨.waveformRead, body⟩, { machine with pending := some .read })
  | .stopping => machine.ask .stop .waveformStop
  | .reconcilingStop => machine.ask .pollStop .waveformStatus
  | .configured | .complete | .stopped => pure (none, machine)

/-- Request arming only after configuration admission is known exactly. -/
def requestArm (machine : WaveformCaptureMachine) : DiagnosticResult WaveformCaptureMachine := do
  failIf machine.pending.isSome .requestPending
  failIf (machine.phase ≠ .configured) .invalidTransition
  pure { machine with phase := .arming }

/-- Request capture release from any known configured lifecycle. -/
def requestStop (machine : WaveformCaptureMachine) : DiagnosticResult WaveformCaptureMachine := do
  failIf machine.pending.isSome .requestPending
  match machine.phase with
  | .configured | .armed | .downloading _ _ | .complete => pure { machine with phase := .stopping }
  | .stopped => pure machine
  | _ => throw .invalidTransition

def validateStatus (machine : WaveformCaptureMachine) (status : WaveformStatus) :
    DiagnosticResult Unit :=
  failIf (status.captureId ≠ machine.reference.captureId ∨
    status.configureDigest ≠ machine.reference.configureDigest) .identity

def beginDownload (machine : WaveformCaptureMachine) (status : WaveformStatus) :
    DiagnosticResult WaveformCaptureMachine := do
  failIf (status.recordBytes = 0 ∨
    machine.limits.maximumWaveformRecordBytes < status.recordBytes ∨
    status.recordDigest.isZero) .state
  pure { machine with record := [], phase := .downloading 0 status.recordBytes }

def acceptAcquisitionStatus (machine : WaveformCaptureMachine) (status : WaveformStatus) :
    DiagnosticResult WaveformCaptureMachine :=
  match status.phase with
  | .armed => pure { machine with phase := .armed }
  | .complete => machine.beginDownload status
  | .configured =>
    if machine.phase = .reconcilingArm then pure { machine with phase := .arming }
    else throw .state
  | .faulted | .stopped => throw .state

/-- What a validated status makes of an action other than a read. -/
def acceptStatus (machine : WaveformCaptureMachine) (action : WaveformAction)
    (status : WaveformStatus) : DiagnosticResult WaveformCaptureMachine :=
  match action with
  | .configure | .pollConfigure => do
    failIf (status.phase ≠ .configured) .state
    pure { machine with phase := .configured }
  | .arm | .pollArm | .pollComplete => machine.acceptAcquisitionStatus status
  | .stop | .pollStop => do
    failIf (status.phase ≠ .stopped) .state
    pure { machine with phase := .stopped, record := [] }
  -- ranges are handled before a status is decoded
  | .read => throw .state

/-- Back to the first byte after the complete record failed its check. -/
def restart (machine : WaveformCaptureMachine) (totalBytes : UInt32) : WaveformCaptureMachine :=
  { machine with record := [], phase := .downloading 0 totalBytes }

/-- Check the complete record against the status it was announced by. -/
def finishRecord (machine : WaveformCaptureMachine) (status : WaveformStatus)
    (totalBytes : UInt32) : WaveformCaptureMachine × DiagnosticResult Unit :=
  match machine.configuration with
  | .error error => (machine, .error error)
  | .ok configuration =>
    match DiagnosticWire.validateRetainedCapture machine.record configuration
        machine.recordLimits machine.limits with
    | .error error => (machine.restart totalBytes, .error (.transport error))
    | .ok digest =>
      if digest ≠ status.recordDigest then (machine.restart totalBytes, .error .identity)
      else ({ machine with phase := .complete }, .ok ())

/-- The decoded range of a read response, checked against the download. -/
def checkedRange (machine : WaveformCaptureMachine) (status : WaveformStatus)
    (receivedBytes totalBytes : UInt32) (encoded : List UInt8) :
    DiagnosticResult WaveformChunkView := do
  let chunk ← (DiagnosticWire.decodeWaveformChunk encoded machine.reference status.recordDigest
    machine.limits).mapError .transport
  failIf (chunk.offset ≠ receivedBytes ∨ chunk.recordBytes ≠ totalBytes) .identity
  pure chunk

def acceptRange (machine : WaveformCaptureMachine) (encoded : List UInt8) :
    WaveformCaptureMachine × DiagnosticResult Unit :=
  match machine.status, machine.phase with
  | some status, .downloading receivedBytes totalBytes =>
    match machine.checkedRange status receivedBytes totalBytes encoded with
    | .error error => (machine, .error error)
    | .ok chunk =>
      let machine := { machine with record := machine.record ++ chunk.bytes }
      if chunk.endOffset = totalBytes then machine.finishRecord status totalBytes
      else ({ machine with phase := .downloading chunk.endOffset totalBytes }, .ok ())
  | _, _ => (machine, .error .state)

/-- What a settled action other than a read makes of its response. -/
def settle (machine : WaveformCaptureMachine) (action : WaveformAction) (response : Response) :
    DiagnosticResult WaveformCaptureMachine :=
  if action = .pollConfigure ∧ response.status = .notFound then do
    requireEmpty response
    pure { machine with phase := .configuring }
  else if action = .pollStop ∧ response.status = .notFound then do
    requireEmpty response
    pure { machine with phase := .stopped, status := none, record := [] }
  else do
    requireBody response
    let status ← (DiagnosticWire.decodeWaveformStatus response.body).mapError .transport
    machine.validateStatus status
    let machine ← machine.acceptStatus action status
    pure { machine with status := some status }

/-- Apply one already authenticated and correlated response. -/
def acceptResponse (machine : WaveformCaptureMachine) (response : Response) :
    WaveformCaptureMachine × DiagnosticResult Unit :=
  match machine.pending with
  | none => (machine, .error .noPendingRequest)
  | some .read =>
    let machine := { machine with pending := none }
    match requireBody response with
    | .error error => (machine, .error error)
    | .ok () => machine.acceptRange response.body
  | some action =>
    let machine := { machine with pending := none }
    match machine.settle action response with
    | .ok machine => (machine, .ok ())
    | .error error => (machine, .error error)

/-- Convert an ambiguous I/O result into exact status or range reconciliation. -/
def abandonPending (machine : WaveformCaptureMachine) : WaveformCaptureMachine × Bool :=
  match machine.pending with
  | none => (machine, false)
  | some action =>
    ({ machine with
        pending := none
        phase := match action with
          | .configure | .pollConfigure => .reconcilingConfigure
          | .arm | .pollArm => .reconcilingArm
          | .pollComplete => .armed
          | .read => machine.phase
          | .stop | .pollStop => .reconcilingStop }, true)

/-! ### Calls -/

/-- A call on the machine. -/
inductive Call where
  | nextRequest
  | acceptResponse (response : Response)
  | abandonPending | requestArm | requestStop
  deriving DecidableEq, Repr

/-- What a call returned. -/
inductive Outcome where
  | next (result : DiagnosticResult (Option DiagnosticOperation))
  | done (result : DiagnosticResult Unit)
  | abandoned (had : Bool)

/-- A request of the user that failed left the machine as it was. -/
def requested (machine : WaveformCaptureMachine) :
    DiagnosticResult WaveformCaptureMachine → WaveformCaptureMachine × Outcome
  | .ok machine => (machine, .done (.ok ()))
  | .error error => (machine, .done (.error error))

def perform (machine : WaveformCaptureMachine) : Call → WaveformCaptureMachine × Outcome
  | .nextRequest =>
    match machine.nextRequest with
    | .ok (operation, machine) => (machine, .next (.ok operation))
    | .error error => (machine, .next (.error error))
  | .acceptResponse response =>
    let (machine, result) := machine.acceptResponse response
    (machine, .done result)
  | .abandonPending =>
    let (machine, had) := machine.abandonPending
    (machine, .abandoned had)
  | .requestArm => machine.requested machine.requestArm
  | .requestStop => machine.requested machine.requestStop

/-- One call on the machine. -/
abbrev Step : WaveformCaptureMachine → Call × Outcome → WaveformCaptureMachine → Prop :=
  Run.Calls perform

end WaveformCaptureMachine

end Alumina.Client
