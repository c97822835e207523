import Alumina.Spec.TelemetryRecovery
import Alumina.Spec.WaveformRecovery

/-!
# Recovery of diagnostic sessions

Captures and subscriptions over a lossy link, from their construction: whatever was lost, they
reach what the user asked for once nothing is lost any more, unless a stop or unsubscribe
request was lost before the device received it.

## Key results

- `diagnosticRecovery`: the histories after which a session recovers
- `diagnosticRecovery_fails`: a lost stop request is never sent again
-/

namespace Alumina.Client

section Recovery

variable [DiagnosticWire]

/-- The reference of a request that was decoded can be encoded. -/
structure ReferencesEncode : Prop where
  waveform : ∀ encoded limits configuration,
    DiagnosticWire.decodeWaveformConfigure encoded limits = .ok configuration →
      ∃ body, DiagnosticWire.encodeWaveformSession
        ⟨configuration.captureId, configuration.digest⟩ = .ok body
  telemetry : ∀ encoded limits subscription,
    DiagnosticWire.decodeTelemetrySubscribe encoded limits = .ok subscription →
      ∃ body, DiagnosticWire.encodeTelemetrySession
        ⟨subscription.subscriptionId, subscription.digest⟩ = .ok body

/-- A capture and its device before the first request. -/
def WaveformCaptureMachine.started {δ : Type} (machine : WaveformCaptureMachine) (state : δ) :
    Exchange.System WaveformCaptureMachine δ DiagnosticOperation Response
      WaveformCaptureMachine.Intent :=
  ⟨.configure, machine, state, .idle⟩

/-- A subscription and its device before the first request. -/
def TelemetrySubscriptionMachine.started {δ : Type} (machine : TelemetrySubscriptionMachine)
    (state : δ) :
    Exchange.System TelemetrySubscriptionMachine δ DiagnosticOperation Response
      TelemetrySubscriptionMachine.Intent :=
  ⟨.subscribe, machine, state, .idle⟩

theorem WaveformCaptureMachine.sound_started {configure : List UInt8}
    {limits : DiagnosticTransportLimits} {recordLimits : DiagnosticLimits}
    {machine : WaveformCaptureMachine} {δ : Type}
    (hnew : new configure limits recordLimits = .ok machine)
    (device : Device machine.reference machine.limits.maximumWaveformRecordBytes δ) {state : δ}
    (hnone : device.session state = none) : Sound device .configure machine state .idle := by
  simp only [new, Except.bind_eq_ok, Except.pure_eq_ok] at hnew
  obtain ⟨configuration, -, rfl⟩ := hnew
  exact ⟨⟨rfl, rfl⟩, rfl, rfl, hnone⟩

theorem TelemetrySubscriptionMachine.sound_started {request : List UInt8}
    {limits : DiagnosticTransportLimits} {recordLimits : DiagnosticLimits}
    {machine : TelemetrySubscriptionMachine} {subscription : TelemetrySubscribeView} {δ : Type}
    (hnew : new request limits recordLimits = .ok machine)
    (hsubscribed : machine.subscription = .ok subscription)
    (device : Device subscription δ) {state : δ} (hnone : device.session state = none) :
    Sound device .subscribe machine state .idle := by
  simp only [new, Except.bind_eq_ok, Except.pure_eq_ok] at hnew
  obtain ⟨decoded, hdecoded, rfl⟩ := hnew
  obtain rfl : decoded = subscription := Except.ok.inj (hdecoded.symm.trans hsubscribed)
  exact ⟨⟨hsubscribed, rfl⟩, rfl, ⟨fun _ => rfl, by simp⟩, rfl, hnone⟩

/-- **Diagnostic recovery.** After any history of requests, losses, orders and events, a capture
or a subscription recovers exactly when no stop or unsubscribe request was lost before the
device received it. -/
theorem diagnosticRecovery (hencode : ReferencesEncode) :
    (∀ {configure : List UInt8} {limits : DiagnosticTransportLimits}
      {recordLimits : DiagnosticLimits} {machine : WaveformCaptureMachine} {δ : Type}
      (device : WaveformCaptureMachine.Device machine.reference
        machine.limits.maximumWaveformRecordBytes δ) {state : δ} {history system},
      WaveformCaptureMachine.new configure limits recordLimits = .ok machine →
      device.session state = none →
      Run (WaveformCaptureMachine.overLink device).Step (machine.started state) history system →
      ((WaveformCaptureMachine.overLink device).Recoverable system ↔
        ∀ request, .requestLost request ∈ history → request.operation ≠ .waveformStop)) ∧
    (∀ {request : List UInt8} {limits : DiagnosticTransportLimits}
      {recordLimits : DiagnosticLimits} {machine : TelemetrySubscriptionMachine}
      {subscription : TelemetrySubscribeView} {δ : Type}
      (device : TelemetrySubscriptionMachine.Device subscription δ) {state : δ} {history system},
      TelemetrySubscriptionMachine.new request limits recordLimits = .ok machine →
      machine.subscription = .ok subscription → device.session state = none →
      Run (TelemetrySubscriptionMachine.overLink device).Step (machine.started state) history
        system →
      ((TelemetrySubscriptionMachine.overLink device).Recoverable system ↔
        ∀ request, .requestLost request ∈ history →
          request.operation ≠ .telemetryUnsubscribe)) := by
  constructor
  · intro configure limits recordLimits machine δ device state history system hnew hnone hrun
    have hsound := WaveformCaptureMachine.sound_started hnew device hnone
    have hbody : ∃ body, DiagnosticWire.encodeWaveformSession machine.reference = .ok body := by
      simp only [WaveformCaptureMachine.new, Except.bind_eq_ok, Except.mapError_eq_ok,
        Except.pure_eq_ok] at hnew
      obtain ⟨configuration, hdecoded, rfl⟩ := hnew
      exact hencode.waveform _ _ _ hdecoded
    exact (WaveformCaptureMachine.waveformCertificate hbody).recoverable_iff hsound hrun
  · intro request limits recordLimits machine subscription δ device state history system hnew
      hsubscribed hnone hrun
    have hsound := TelemetrySubscriptionMachine.sound_started hnew hsubscribed device hnone
    have hbody := hencode.telemetry _ _ _ (Except.mapError_eq_ok.1 hsubscribed)
    exact (TelemetrySubscriptionMachine.telemetryCertificate hbody).recoverable_iff hsound hrun

end Recovery

section Sample

open HostLibrary Graph.HostLibrary

theorem referencesEncode_hostLibrary : ReferencesEncode :=
  ⟨fun _ _ _ _ => ⟨_, rfl⟩, fun _ _ _ _ => ⟨_, rfl⟩⟩

namespace WaveformCaptureMachine

def sampleAnswer : Option WaveformPhase → Response
  | none => ⟨.notFound, []⟩
  | some phase => sampleStatus phase

/-- A device that holds at most one session and finishes an armed capture when it is asked. -/
def sampleServe (session : Option WaveformPhase) (request : DiagnosticOperation) :
    Option WaveformPhase × Response :=
  match request.operation with
  | .waveformConfigure =>
    let next := some (session.getD .configured)
    (next, sampleAnswer next)
  | .waveformArm =>
    let next := if session = some .configured then some .armed else session
    (next, sampleAnswer next)
  | .waveformStop =>
    let next := session.map fun _ => .stopped
    (next, sampleAnswer next)
  | .waveformStatus =>
    let next := if session = some .armed then some .complete else session
    (next, sampleAnswer next)
  | _ => (session, sampleRange 0)

theorem sampleAnswer_truthful (session : Option WaveformPhase) :
    Truthful sampleCapture.reference sampleCapture.limits.maximumWaveformRecordBytes session
      (sampleAnswer session) := by
  have hdecoded : ∀ phase, DiagnosticWire.decodeWaveformStatus (sampleStatus phase).body =
      .ok ⟨phase, sampleCapture.reference.captureId, sampleCapture.reference.configureDigest, 3,
        Graph.Sha256.sha256 [1, 2, 3], []⟩ := by
    intro phase
    apply Except.toOption_eq_some.1
    cases phase <;> decide +kernel
  cases session with
  | none => exact ⟨rfl, rfl⟩
  | some phase =>
    refine ⟨rfl, List.cons_ne_nil _ _, _, hdecoded phase, rfl, rfl, rfl, ?_⟩
    intro _
    show ¬ ((3 : UInt32) = 0 ∨ sampleCapture.limits.maximumWaveformRecordBytes < 3 ∨
      (Graph.Sha256.sha256 [1, 2, 3]).isZero)
    decide +kernel

theorem sampleServe_configures (session : Option WaveformPhase) (request : DiagnosticOperation)
    (hoperation : request.operation = .waveformConfigure) (hnone : session = none) :
    (sampleServe session request).1 = some .configured ∧
      Reports sampleCapture.reference sampleCapture.limits.maximumWaveformRecordBytes .configured
        (sampleServe session request).2 := by
  subst hnone
  rw [sampleServe, hoperation]
  exact ⟨rfl, sampleAnswer_truthful (some .configured)⟩

theorem sampleServe_arms (session : Option WaveformPhase) (request : DiagnosticOperation)
    (hoperation : request.operation = .waveformArm) (hconfigured : session = some .configured) :
    Acquiring (sampleServe session request).1 ∧
      Truthful sampleCapture.reference sampleCapture.limits.maximumWaveformRecordBytes
        (sampleServe session request).1 (sampleServe session request).2 := by
  subst hconfigured
  rw [sampleServe, hoperation]
  exact ⟨Or.inl rfl, sampleAnswer_truthful (some .armed)⟩

theorem sampleServe_stops (session : Option WaveformPhase) (request : DiagnosticOperation)
    (hoperation : request.operation = .waveformStop) (hheld : Held session) :
    Released (sampleServe session request).1 ∧
      Reports sampleCapture.reference sampleCapture.limits.maximumWaveformRecordBytes .stopped
        (sampleServe session request).2 := by
  rw [sampleServe, hoperation]
  rcases hheld with rfl | rfl | rfl
  all_goals exact ⟨Or.inr rfl, sampleAnswer_truthful (some .stopped)⟩

theorem sampleServe_reports (session : Option WaveformPhase) (request : DiagnosticOperation)
    (hoperation : request.operation = .waveformStatus) :
    Elapses session (sampleServe session request).1 ∧
      Truthful sampleCapture.reference sampleCapture.limits.maximumWaveformRecordBytes
        (sampleServe session request).1 (sampleServe session request).2 := by
  rw [sampleServe, hoperation]
  refine ⟨?_, sampleAnswer_truthful _⟩
  by_cases harmed : session = some .armed
  · exact Or.inr ⟨harmed, if_pos harmed⟩
  · exact Or.inl (if_neg harmed)

theorem sampleServe_reads (session : Option WaveformPhase) (request : DiagnosticOperation)
    (hoperation : request.operation = .waveformRead) :
    Elapses session (sampleServe session request).1 := by
  rw [sampleServe, hoperation]
  exact Or.inl rfl

def sampleDevice : Device sampleCapture.reference sampleCapture.limits.maximumWaveformRecordBytes
    (Option WaveformPhase) where
  session := id
  serve := sampleServe
  configures := sampleServe_configures
  arms := sampleServe_arms
  stops := sampleServe_stops
  reports := sampleServe_reports
  reads := sampleServe_reads

/-- The sample capture as the device admitted it. -/
def sampleConfigured : WaveformCaptureMachine :=
  { sampleCapture with
    phase := .configured
    status := some ⟨.configured, sampleCapture.reference.captureId,
      sampleCapture.reference.configureDigest, 3, Graph.Sha256.sha256 [1, 2, 3], []⟩ }

def sampleRequest (operation : Operation) : DiagnosticOperation :=
  ⟨operation, encodeWaveformSession sampleCapture.reference⟩

/-- The device admits the sample capture. -/
theorem sampleConfigured_run : Run (overLink sampleDevice).Step (sampleCapture.started none)
    [.asked, .served, .accepted] ⟨.configure, sampleConfigured, some .configured, .idle⟩ := by
  have haccept : (overLink sampleDevice).accept { sampleCapture with pending := some .configure }
      (sampleStatus .configured) = sampleConfigured := by
    rw [overLink_accept]
    decide +kernel
  have hlast : (overLink sampleDevice).Step
      ⟨.configure, { sampleCapture with pending := some .configure }, some .configured,
        .response (sampleStatus .configured)⟩
      .accepted ⟨.configure, sampleConfigured, some .configured, .idle⟩ := by
    rw [← haccept]
    exact .accepted
  exact .cons (.asked rfl) (.cons .served (.cons hlast (.nil _)))

end WaveformCaptureMachine

namespace TelemetrySubscriptionMachine

def sampleView : TelemetrySubscribeView :=
  ⟨⟨7⟩, sampleSubscription.reference.subscriptionDigest, 10, 64, 2, [1, 2]⟩

def sampleAnswer : Option TelemetryPhase → Response
  | none => ⟨.notFound, []⟩
  | some phase => sampleTelemetryStatus phase 1

/-- A device that holds at most one session and has no events. -/
def sampleServe (session : Option TelemetryPhase) (request : DiagnosticOperation) :
    Option TelemetryPhase × Response :=
  match request.operation with
  | .telemetrySubscribe =>
    let next := some (session.getD .active)
    (next, sampleAnswer next)
  | .telemetryUnsubscribe =>
    let next := session.map fun _ => .unsubscribed
    (next, sampleAnswer next)
  | .telemetryStatus => (session, sampleAnswer session)
  | _ => (session, ⟨.ok, []⟩)

theorem sampleAnswer_truthful (session : Option TelemetryPhase) :
    Truthful sampleView ⟨1, 0⟩ session (sampleAnswer session) := by
  have hdecoded : ∀ phase, DiagnosticWire.decodeTelemetryStatus (sampleTelemetryStatus phase 1).body =
      .ok ⟨phase, ⟨7⟩, sampleSubscription.reference.subscriptionDigest, 10, 64, 2, 1, 0, []⟩ := by
    intro phase
    apply Except.toOption_eq_some.1
    cases phase <;> decide +kernel
  cases session with
  | none => exact ⟨rfl, rfl⟩
  | some phase =>
    refine ⟨rfl, List.cons_ne_nil _ _, _, hdecoded phase, rfl, ?_, rfl, rfl⟩
    apply Except.failIf_of_not
    simp [sampleView]

theorem sampleServe_subscribes (session : Option TelemetryPhase) (request : DiagnosticOperation)
    (hoperation : request.operation = .telemetrySubscribe) (hnone : session = none) :
    (sampleServe session request).1 = some .active ∧
      Reports sampleView ⟨1, 0⟩ .active (sampleServe session request).2 := by
  subst hnone
  rw [sampleServe, hoperation]
  exact ⟨rfl, sampleAnswer_truthful (some .active)⟩

theorem sampleServe_unsubscribes (session : Option TelemetryPhase)
    (request : DiagnosticOperation) (hoperation : request.operation = .telemetryUnsubscribe)
    (hactive : session = some .active) : Released (sampleServe session request).1 ∧
      (⟨1, 0⟩ : Counters).Grows ⟨1, 0⟩ ∧
      Reports sampleView ⟨1, 0⟩ .unsubscribed (sampleServe session request).2 := by
  subst hactive
  rw [sampleServe, hoperation]
  exact ⟨Or.inr rfl, ⟨UInt64.le_refl _, UInt64.le_refl _⟩,
    sampleAnswer_truthful (some .unsubscribed)⟩

theorem sampleServe_reports (session : Option TelemetryPhase) (request : DiagnosticOperation)
    (hoperation : request.operation = .telemetryStatus) :
    (sampleServe session request).1 = session ∧ (⟨1, 0⟩ : Counters).Grows ⟨1, 0⟩ ∧
      Truthful sampleView ⟨1, 0⟩ (sampleServe session request).1
        (sampleServe session request).2 := by
  rw [sampleServe, hoperation]
  exact ⟨rfl, ⟨UInt64.le_refl _, UInt64.le_refl _⟩, sampleAnswer_truthful session⟩

theorem sampleServe_polls (session : Option TelemetryPhase) (request : DiagnosticOperation)
    (hoperation : request.operation = .telemetryPoll) :
    (sampleServe session request).1 = session ∧ (⟨1, 0⟩ : Counters).Grows ⟨1, 0⟩ ∧
      Sent sampleView ⟨1, 0⟩ (sampleServe session request).2.body := by
  rw [sampleServe, hoperation]
  refine ⟨rfl, ⟨UInt64.le_refl _, UInt64.le_refl _⟩, ?_⟩
  intro limits event hevent
  cases hevent

def sampleDevice : Device sampleView (Option TelemetryPhase) where
  session := id
  counters _ := ⟨1, 0⟩
  serve := sampleServe
  subscribes := sampleServe_subscribes
  unsubscribes := sampleServe_unsubscribes
  reports := sampleServe_reports
  polls := sampleServe_polls

end TelemetrySubscriptionMachine

open WaveformCaptureMachine in
/-- A capture recovers after its configure request was lost, and a subscription after its
subscribe request was. -/
theorem diagnosticRecovery_sample :
    (overLink sampleDevice).Recoverable
      ⟨.configure, { sampleCapture with phase := .reconcilingConfigure }, none, .idle⟩ ∧
    (TelemetrySubscriptionMachine.overLink TelemetrySubscriptionMachine.sampleDevice).Recoverable
      ⟨.subscribe,
        { TelemetrySubscriptionMachine.sampleSubscription with phase := .reconcilingSubscribe },
        none, .idle⟩ := by
  constructor
  · have hrun : Run (overLink sampleDevice).Step (sampleCapture.started none)
        [.asked, .requestLost ⟨.waveformConfigure, sampleConfigure⟩]
        ⟨.configure, { sampleCapture with phase := .reconcilingConfigure }, none, .idle⟩ :=
      .cons (.asked rfl) (.cons .requestLost (.nil _))
    apply ((diagnosticRecovery referencesEncode_hostLibrary).1 sampleDevice
      (show new sampleConfigure sampleLimits ⟨[]⟩ = .ok sampleCapture from rfl) rfl hrun).2
    simp
  · have hrun : Run
        (TelemetrySubscriptionMachine.overLink TelemetrySubscriptionMachine.sampleDevice).Step
        (TelemetrySubscriptionMachine.sampleSubscription.started none)
        [.asked, .requestLost ⟨.telemetrySubscribe, TelemetrySubscriptionMachine.sampleRequest⟩]
        ⟨.subscribe,
          { TelemetrySubscriptionMachine.sampleSubscription with phase := .reconcilingSubscribe },
          none, .idle⟩ :=
      .cons (.asked (Or.inl rfl)) (.cons .requestLost (.nil _))
    apply ((diagnosticRecovery referencesEncode_hostLibrary).2
      TelemetrySubscriptionMachine.sampleDevice
      (show TelemetrySubscriptionMachine.new TelemetrySubscriptionMachine.sampleRequest
        ⟨1024, []⟩ ⟨[]⟩ = .ok TelemetrySubscriptionMachine.sampleSubscription from rfl)
      (by rfl) rfl hrun).2
    simp

open WaveformCaptureMachine in
/-- After a stop request was lost on the way to the device the capture never stops. -/
theorem diagnosticRecovery_fails :
    ∃ history system,
      Run (overLink sampleDevice).Step (sampleCapture.started none) history system ∧
      system.intent = .stop ∧ sampleDevice.session system.device = some .configured ∧
      ¬ (overLink sampleDevice).Recoverable system := by
  have hstopping : Run (overLink sampleDevice).Step
      ⟨.configure, sampleConfigured, some .configured, .idle⟩
      [.ordered .stop, .asked, .requestLost (sampleRequest .waveformStop)]
      ⟨.stop, { sampleConfigured with phase := .reconcilingStop }, some .configured, .idle⟩ :=
    .cons (.ordered rfl) (.cons (.asked rfl) (.cons .requestLost (.nil _)))
  have hrun := sampleConfigured_run.append hstopping
  refine ⟨_, _, hrun, rfl, rfl, ?_⟩
  have hsound : Sound sampleDevice .configure sampleCapture none .idle :=
    ⟨⟨rfl, rfl⟩, rfl, rfl, rfl⟩
  have hrecoverable := (waveformCertificate ⟨_, rfl⟩).recoverable_iff hsound hrun
  rw [hrecoverable]
  intro hnone
  exact hnone (sampleRequest .waveformStop) (by simp) rfl

end Sample

end Alumina.Client
