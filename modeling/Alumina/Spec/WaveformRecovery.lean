import Alumina.ForStd.Exchange
import Alumina.Spec.WaveformDownload

/-!
# Recovery of a waveform capture

A capture machine and its device, over a link that may lose requests and responses. The device
holds at most one session of the capture, applies what it receives and reports the session
truthfully.

A lost configure or arm request is repeated after its status poll. A lost stop request is not:
the machine keeps polling a session that nobody stops.

## Key results

- `acceptResponse_of_answered`: what a truthful answer makes of each phase
- `sound_preserved`: how machine, session and link agree as long as no stop request is lost
- `waveformCertificate`: a capture recovers exactly until a stop request is lost
-/

namespace Alumina.Client.WaveformCaptureMachine

open Except (failIf)

section Recovery

variable [DiagnosticWire]

/-! ## The device -/

/-- A response that reports a session in a phase. A complete one announces a record that the
capture can download. -/
structure Reports (reference : WaveformSessionRequest) (maximumRecordBytes : UInt32)
    (phase : WaveformPhase) (response : Response) : Prop where
  ok : response.status = .ok
  body : response.body ≠ []
  reported : ∃ status, DiagnosticWire.decodeWaveformStatus response.body = .ok status ∧
    status.phase = phase ∧ status.captureId = reference.captureId ∧
    status.configureDigest = reference.configureDigest ∧
    (phase = .complete → ¬ (status.recordBytes = 0 ∨ maximumRecordBytes < status.recordBytes ∨
      status.recordDigest.isZero))

/-- The truth about a session, or that there is none. -/
def Truthful (reference : WaveformSessionRequest) (maximumRecordBytes : UInt32) :
    Option WaveformPhase → Response → Prop
  | none, response => response.status = .notFound ∧ response.body = []
  | some phase, response => Reports reference maximumRecordBytes phase response

/-- An armed capture, or what became of it. -/
def Acquiring (session : Option WaveformPhase) : Prop :=
  session = some .armed ∨ session = some .complete

def Held (session : Option WaveformPhase) : Prop :=
  session = some .configured ∨ Acquiring session

/-- A stopped session may be kept or forgotten. -/
def Released (session : Option WaveformPhase) : Prop :=
  session = none ∨ session = some .stopped

/-- An armed capture may complete at any time. -/
def Elapses (session later : Option WaveformPhase) : Prop :=
  later = session ∨ session = some .armed ∧ later = some .complete

/-- A device that applies what it receives and answers truthfully. -/
structure Device (reference : WaveformSessionRequest) (maximumRecordBytes : UInt32) (δ : Type) where
  session : δ → Option WaveformPhase
  serve : δ → DiagnosticOperation → δ × Response
  configures : ∀ device request, request.operation = .waveformConfigure → session device = none →
    session (serve device request).1 = some .configured ∧
      Reports reference maximumRecordBytes .configured (serve device request).2
  arms : ∀ device request, request.operation = .waveformArm →
    session device = some .configured → Acquiring (session (serve device request).1) ∧
      Truthful reference maximumRecordBytes (session (serve device request).1)
        (serve device request).2
  stops : ∀ device request, request.operation = .waveformStop → Held (session device) →
    Released (session (serve device request).1) ∧
      Reports reference maximumRecordBytes .stopped (serve device request).2
  reports : ∀ device request, request.operation = .waveformStatus →
    Elapses (session device) (session (serve device request).1) ∧
      Truthful reference maximumRecordBytes (session (serve device request).1)
        (serve device request).2
  reads : ∀ device request, request.operation = .waveformRead →
    Elapses (session device) (session (serve device request).1)

/-! ## The exchange -/

/-- What the user asked of a capture. -/
inductive Intent where
  | configure | arm | stop
  deriving DecidableEq, Repr

/-- The intent a phase belongs to. -/
def intentOf : WaveformClientPhase → Intent
  | .configuring | .reconcilingConfigure | .configured => .configure
  | .arming | .reconcilingArm | .armed | .downloading _ _ | .complete => .arm
  | .stopping | .reconcilingStop | .stopped => .stop

/-- The phase an intent aims at: configured, armed or later, or stopped. -/
def Reached : Intent → WaveformClientPhase → Prop
  | .configure, phase => phase = .configured
  | .arm, phase => phase = .armed ∨ phase = .complete ∨
      ∃ receivedBytes totalBytes, phase = .downloading receivedBytes totalBytes
  | .stop, phase => phase = .stopped

/-- A user's order that the machine took. -/
def Orders (machine : WaveformCaptureMachine) : Intent → WaveformCaptureMachine → Prop
  | .configure, _ => False
  | .arm, next => machine.requestArm = .ok next
  | .stop, next => machine.requestStop = .ok next

/-- A capture machine and its device. A call that returns an error is no step, but for a
rejected response. -/
def overLink {reference : WaveformSessionRequest} {maximumRecordBytes : UInt32} {δ : Type}
    (device : Device reference maximumRecordBytes δ) :
    Exchange WaveformCaptureMachine δ DiagnosticOperation Response Intent where
  ask machine request next := machine.nextRequest = .ok (some request, next)
  serve := device.serve
  accept machine response := (machine.acceptResponse response).1
  abandon machine := machine.abandonPending.1
  push _ _ _ _ := False
  order := Orders
  goal intent machine := Reached intent machine.phase

theorem overLink_accept {reference : WaveformSessionRequest} {maximumRecordBytes : UInt32}
    {δ : Type} (device : Device reference maximumRecordBytes δ) (machine : WaveformCaptureMachine)
    (response : Response) :
    (overLink device).accept machine response = (machine.acceptResponse response).1 :=
  rfl

/-- A stop request is the one that is never repeated. -/
def Harmful (request : DiagnosticOperation) : Prop := request.operation = .waveformStop

/-! ## Machine, session and link -/

/-- The sessions a device may hold in a phase of the machine. -/
def Allows : WaveformClientPhase → Option WaveformPhase → Prop
  | .configuring, session => session = none
  | .reconcilingConfigure, session => session = none ∨ session = some .configured
  | .configured, session | .arming, session => session = some .configured
  | .reconcilingArm, session | .stopping, session => Held session
  | .armed, session => Acquiring session
  | .downloading _ _, session | .complete, session => session = some .complete
  | .reconcilingStop, session | .stopped, session => Released session

/-- The session and the response an action got. -/
def Answered (reference : WaveformSessionRequest) (maximumRecordBytes : UInt32)
    (action : WaveformAction) (session : Option WaveformPhase) (response : Response) : Prop :=
  match action with
  | .configure => session = some .configured ∧
      Truthful reference maximumRecordBytes session response
  | .pollConfigure => (session = none ∨ session = some .configured) ∧
      Truthful reference maximumRecordBytes session response
  | .arm | .pollComplete => Acquiring session ∧
      Truthful reference maximumRecordBytes session response
  | .pollArm => Held session ∧ Truthful reference maximumRecordBytes session response
  | .read => session = some .complete
  | .stop => Released session ∧ Reports reference maximumRecordBytes .stopped response
  | .pollStop => Released session ∧ Truthful reference maximumRecordBytes session response

/-- How the link agrees with the machine and the session. -/
def Linked (reference : WaveformSessionRequest) (maximumRecordBytes : UInt32)
    (machine : WaveformCaptureMachine) (session : Option WaveformPhase) :
    Exchange.Link DiagnosticOperation Response → Prop
  | .idle => machine.pending = none ∧ Allows machine.phase session
  | .request request => ∃ action : WaveformAction, machine.pending = some action ∧
      action.Fits machine.phase ∧ request.operation = action.operation ∧
      Allows machine.phase session
  | .response response => ∃ action : WaveformAction, machine.pending = some action ∧
      action.Fits machine.phase ∧
      Answered reference maximumRecordBytes action session response

/-- The machine belongs to the capture the device serves. -/
structure Belongs (reference : WaveformSessionRequest) (maximumRecordBytes : UInt32)
    (machine : WaveformCaptureMachine) : Prop where
  reference : machine.reference = reference
  limit : machine.limits.maximumWaveformRecordBytes = maximumRecordBytes

variable {reference : WaveformSessionRequest} {maximumRecordBytes : UInt32} {δ : Type}
  {machine next : WaveformCaptureMachine}

/-! ## Answers -/

/-- A reported status passes the checks every status passes. -/
theorem settle_of_reports {phase : WaveformPhase} {response : Response} (action : WaveformAction)
    (hbelongs : Belongs reference maximumRecordBytes machine)
    (h : Reports reference maximumRecordBytes phase response) :
    ∃ status, status.phase = phase ∧
      (phase = .complete → ¬ (status.recordBytes = 0 ∨ maximumRecordBytes < status.recordBytes ∨
        status.recordDigest.isZero)) ∧
      machine.settle action response = (do
        let accepted ← machine.acceptStatus action status
        pure { accepted with status := some status }) := by
  obtain ⟨hok, hbody, status, hdecoded, hphase, hcapture, hdigest, hrecord⟩ := h
  refine ⟨status, hphase, hrecord, ?_⟩
  have hfound : response.status ≠ .notFound := by
    rw [hok]
    exact StatusCode.noConfusion
  have hrequired : requireBody response = .ok () := by
    rw [requireBody, if_pos hok]
    exact Except.failIf_of_not hbody
  have hvalid : machine.validateStatus status = .ok () := by
    apply Except.failIf_of_not
    rw [hbelongs.reference, hcapture, hdigest]
    simp
  unfold settle
  rw [if_neg (fun h => hfound h.2), if_neg (fun h => hfound h.2)]
  simp [hrequired, hdecoded, hvalid, Except.mapError, bind, Except.bind]

/-- How many exchanges a phase is from its intent. -/
def level : WaveformClientPhase → Nat
  | .reconcilingConfigure | .reconcilingArm => 2
  | .configuring | .arming | .stopping | .reconcilingStop => 1
  | .configured | .armed | .downloading _ _ | .complete | .stopped => 0

/-- What a settled request makes of a phase. -/
structure Advances (session : Option WaveformPhase) (phase phase' : WaveformClientPhase) :
    Prop where
  allowed : Allows phase' session
  intent : intentOf phase' = intentOf phase
  nearer : Reached (intentOf phase) phase ∨ Reached (intentOf phase) phase' ∨
    level phase' < level phase

/-- An acquisition that goes on: a status other than configured arms or starts the download. -/
private theorem acquisition_advances {status : WaveformStatus} {session : Option WaveformPhase}
    (hlimit : machine.limits.maximumWaveformRecordBytes = maximumRecordBytes)
    (hintent : intentOf machine.phase = .arm) (hacquiring : Acquiring session)
    (hsession : session = some status.phase)
    (hrecord : status.phase = .complete → ¬ (status.recordBytes = 0 ∨
      maximumRecordBytes < status.recordBytes ∨ status.recordDigest.isZero)) :
    ∃ phase record, machine.acceptAcquisitionStatus status = .ok { machine with phase, record } ∧
      Advances session machine.phase phase := by
  rcases hacquiring with harmed | hcomplete
  · have hphase : status.phase = .armed := Option.some.inj (hsession.symm.trans harmed)
    refine ⟨.armed, machine.record, ?_, Or.inl harmed, hintent.symm, ?_⟩
    · unfold acceptAcquisitionStatus
      rw [hphase]
      rfl
    · rw [hintent]
      exact Or.inr (Or.inl (Or.inl rfl))
  · have hphase : status.phase = .complete := Option.some.inj (hsession.symm.trans hcomplete)
    refine ⟨.downloading 0 status.recordBytes, [], ?_, hcomplete, hintent.symm, ?_⟩
    · have hchecked := Except.failIf_of_not (e := DiagnosticClientError.state) (hrecord hphase)
      unfold acceptAcquisitionStatus
      rw [hphase]
      simp only [beginDownload, hlimit, hchecked]
      rfl
    · rw [hintent]
      exact Or.inr (Or.inl (Or.inr (Or.inr ⟨_, _, rfl⟩)))

/-- A status of an acquired session settles every request of an acquisition. -/
private theorem settle_of_acquiring {action : WaveformAction} {session : Option WaveformPhase}
    {response : Response} (hbelongs : Belongs reference maximumRecordBytes machine)
    (haction : ∀ status, machine.acceptStatus action status =
      machine.acceptAcquisitionStatus status)
    (hintent : intentOf machine.phase = .arm) (hacquiring : Acquiring session)
    (htruth : Truthful reference maximumRecordBytes session response) :
    ∃ phase status record,
      machine.settle action response = .ok { machine with phase, status, record } ∧
        Advances session machine.phase phase := by
  have hsome : ∃ phase, session = some phase := by
    rcases hacquiring with hsession | hsession <;> exact ⟨_, hsession⟩
  obtain ⟨phase, rfl⟩ := hsome
  obtain ⟨status, rfl, hrecord, hsettle⟩ := settle_of_reports action hbelongs htruth
  obtain ⟨phase, record, haccepted, hadvances⟩ :=
    acquisition_advances hbelongs.limit hintent hacquiring rfl hrecord
  refine ⟨phase, some status, record, ?_, hadvances⟩
  rw [hsettle, haction, haccepted]
  rfl

/-- A status in the phase an action waits for settles it. -/
private theorem settle_of_expected (action : WaveformAction) {phase : WaveformPhase}
    {phase' : WaveformClientPhase} {response : Response} {record : List UInt8}
    (hbelongs : Belongs reference maximumRecordBytes machine)
    (haction : ∀ status : WaveformStatus, status.phase = phase →
      machine.acceptStatus action status = .ok { machine with phase := phase', record })
    (hreports : Reports reference maximumRecordBytes phase response) :
    ∃ status, machine.settle action response =
      .ok { machine with phase := phase', status, record } := by
  obtain ⟨status, hstatus, -, hsettle⟩ := settle_of_reports action hbelongs hreports
  refine ⟨some status, ?_⟩
  rw [hsettle, haction status hstatus]
  rfl

/-- A truthful answer settles its request. -/
theorem settle_of_answered {action : WaveformAction} {session : Option WaveformPhase}
    {response : Response} (hbelongs : Belongs reference maximumRecordBytes machine)
    (hread : action ≠ .read) (hfits : action.Fits machine.phase)
    (h : Answered reference maximumRecordBytes action session response) :
    ∃ phase status record,
      machine.settle action response = .ok { machine with phase, status, record } ∧
        Advances session machine.phase phase := by
  have hmissing : response.status = .notFound ∧ response.body = [] →
      requireEmpty response = .ok () := fun h => Except.failIf_of_not (not_not.2 h.2)
  have hconfigured : ∀ status : WaveformStatus, status.phase = .configured →
      machine.acceptStatus .configure status = .ok { machine with phase := .configured } := by
    intro status hstatus
    rw [acceptStatus, Except.failIf_of_not (not_not.2 hstatus)]
    rfl
  have hstopped : ∀ status : WaveformStatus, status.phase = .stopped →
      machine.acceptStatus .stop status = .ok { machine with phase := .stopped, record := [] } := by
    intro status hstatus
    rw [acceptStatus, Except.failIf_of_not (not_not.2 hstatus)]
    rfl
  cases action with
  | read => exact absurd rfl hread
  | configure =>
    have hphase : machine.phase = .configuring := hfits
    obtain ⟨rfl, htruth⟩ := h
    obtain ⟨status, hsettle⟩ := settle_of_expected .configure hbelongs hconfigured htruth
    refine ⟨.configured, status, machine.record, hsettle, ?_⟩
    rw [hphase]
    exact ⟨rfl, rfl, Or.inr (Or.inl rfl)⟩
  | pollConfigure =>
    have hphase : machine.phase = .reconcilingConfigure := hfits
    obtain ⟨rfl | rfl, htruth⟩ := h
    · -- the configure request never arrived, so it is sent again
      refine ⟨.configuring, machine.status, machine.record, ?_, ?_⟩
      · rw [settle, if_pos ⟨rfl, htruth.1⟩, hmissing htruth]
        rfl
      · rw [hphase]
        exact ⟨rfl, rfl, Or.inr (Or.inr (by decide))⟩
    · obtain ⟨status, hsettle⟩ :=
        settle_of_expected .pollConfigure hbelongs hconfigured htruth
      refine ⟨.configured, status, machine.record, hsettle, ?_⟩
      rw [hphase]
      exact ⟨rfl, rfl, Or.inr (Or.inl rfl)⟩
  | arm =>
    have hphase : machine.phase = .arming := hfits
    exact settle_of_acquiring hbelongs (fun _ => rfl) (by rw [hphase]; rfl) h.1 h.2
  | pollComplete =>
    have hphase : machine.phase = .armed := hfits
    exact settle_of_acquiring hbelongs (fun _ => rfl) (by rw [hphase]; rfl) h.1 h.2
  | pollArm =>
    have hphase : machine.phase = .reconcilingArm := hfits
    obtain ⟨rfl | hacquiring, htruth⟩ := h
    · -- the arm request never arrived, so it is sent again
      have hagain : ∀ status : WaveformStatus, status.phase = .configured →
          machine.acceptStatus .pollArm status = .ok { machine with phase := .arming } := by
        intro status hstatus
        rw [acceptStatus, acceptAcquisitionStatus, hstatus]
        simp only [if_pos hphase]
        rfl
      obtain ⟨status, hsettle⟩ := settle_of_expected .pollArm hbelongs hagain htruth
      refine ⟨.arming, status, machine.record, hsettle, ?_⟩
      rw [hphase]
      exact ⟨rfl, rfl, Or.inr (Or.inr (by decide))⟩
    · exact settle_of_acquiring hbelongs (fun _ => rfl) (by rw [hphase]; rfl) hacquiring htruth
  | stop =>
    have hphase : machine.phase = .stopping := hfits
    obtain ⟨status, hsettle⟩ := settle_of_expected .stop hbelongs hstopped h.2
    refine ⟨.stopped, status, [], hsettle, ?_⟩
    rw [hphase]
    exact ⟨h.1, rfl, Or.inr (Or.inl rfl)⟩
  | pollStop =>
    have hphase : machine.phase = .reconcilingStop := hfits
    have hreached : Advances session machine.phase .stopped := by
      rw [hphase]
      exact ⟨h.1, rfl, Or.inr (Or.inl rfl)⟩
    obtain ⟨rfl | rfl, htruth⟩ := h
    · refine ⟨.stopped, none, [], ?_, hreached⟩
      rw [settle, if_neg (by simp), if_pos ⟨rfl, htruth.1⟩, hmissing htruth]
      rfl
    · obtain ⟨status, hsettle⟩ := settle_of_expected .pollStop hbelongs hstopped htruth
      exact ⟨.stopped, status, [], hsettle, hreached⟩

/-- A phase a read may leave. -/
def ReadPhase (phase phase' : WaveformClientPhase) : Prop :=
  phase' = phase ∨ phase' = .complete ∨
    ∃ receivedBytes totalBytes, phase' = .downloading receivedBytes totalBytes

private theorem finishRecord_phase (machine : WaveformCaptureMachine) (status : WaveformStatus)
    (totalBytes : UInt32) :
    ∃ phase record, (machine.finishRecord status totalBytes).1 = { machine with phase, record } ∧
      ReadPhase machine.phase phase := by
  unfold finishRecord
  split
  · exact ⟨machine.phase, machine.record, rfl, Or.inl rfl⟩
  · split
    · exact ⟨_, _, rfl, Or.inr (Or.inr ⟨_, _, rfl⟩)⟩
    · split
      · exact ⟨_, _, rfl, Or.inr (Or.inr ⟨_, _, rfl⟩)⟩
      · exact ⟨_, _, rfl, Or.inr (Or.inl rfl)⟩

/-- A range keeps the download, completes it or restarts it. -/
theorem acceptRange_phase (machine : WaveformCaptureMachine) (encoded : List UInt8) :
    ∃ phase record, (machine.acceptRange encoded).1 = { machine with phase, record } ∧
      ReadPhase machine.phase phase := by
  unfold acceptRange
  split
  · next status receivedBytes totalBytes hstatus hphase =>
    split
    · exact ⟨machine.phase, machine.record, rfl, Or.inl rfl⟩
    · next chunk hchecked =>
      by_cases hlast : chunk.endOffset = totalBytes
      · rw [if_pos hlast]
        exact finishRecord_phase { machine with record := machine.record ++ chunk.bytes } status
          totalBytes
      · rw [if_neg hlast]
        exact ⟨_, machine.record ++ chunk.bytes, rfl, Or.inr (Or.inr ⟨_, _, rfl⟩)⟩
  · exact ⟨machine.phase, machine.record, rfl, Or.inl rfl⟩

/-- What an answer makes of the machine. -/
theorem acceptResponse_of_answered {action : WaveformAction} {session : Option WaveformPhase}
    {response : Response} (hbelongs : Belongs reference maximumRecordBytes machine)
    (hpending : machine.pending = some action) (hfits : action.Fits machine.phase)
    (h : Answered reference maximumRecordBytes action session response) :
    ∃ phase status record, (machine.acceptResponse response).1 =
        { machine with pending := none, phase, status, record } ∧
      Advances session machine.phase phase := by
  by_cases hread : action = .read
  · subst hread
    obtain ⟨receivedBytes, totalBytes, hphase⟩ := hfits
    have hdownloading : Reached (intentOf machine.phase) machine.phase := by
      rw [hphase]
      exact Or.inr (Or.inr ⟨_, _, rfl⟩)
    have hsession : session = some .complete := h
    cases hbody : requireBody response with
    | error error =>
      refine ⟨machine.phase, machine.status, machine.record, ?_, ?_, rfl, Or.inl hdownloading⟩
      · simp only [acceptResponse, hpending, hbody]
      · rw [hphase]
        exact hsession
    | ok =>
      have hvalue : machine.acceptResponse response =
          { machine with pending := none }.acceptRange response.body := by
        simp only [acceptResponse, hpending, hbody]
      obtain ⟨phase, record, hrange, hcases⟩ :=
        { machine with pending := none }.acceptRange_phase response.body
      refine ⟨phase, machine.status, record, by rw [hvalue, hrange], ?_, ?_, Or.inl hdownloading⟩
      · rcases hcases with rfl | rfl | ⟨received, total, rfl⟩
        · show Allows machine.phase session
          rw [hphase]
          exact hsession
        · exact hsession
        · exact hsession
      · rcases hcases with rfl | rfl | ⟨received, total, rfl⟩
        · rfl
        · rw [hphase]
          rfl
        · rw [hphase]
          rfl
  · have hbelongs' : Belongs reference maximumRecordBytes { machine with pending := none } :=
      ⟨hbelongs.reference, hbelongs.limit⟩
    obtain ⟨phase, status, record, hsettle, hadvances⟩ :=
      settle_of_answered hbelongs' hread hfits h
    refine ⟨phase, status, record, ?_, hadvances⟩
    cases action with
    | read => exact absurd rfl hread
    | _ => simp only [acceptResponse, hpending, hsettle]

/-! ## Preservation -/

/-- How machine, session and link agree as long as no stop request was lost. -/
structure Sound (device : Device reference maximumRecordBytes δ) (intent : Intent)
    (machine : WaveformCaptureMachine) (state : δ)
    (link : Exchange.Link DiagnosticOperation Response) : Prop where
  belongs : Belongs reference maximumRecordBytes machine
  intent : intent = intentOf machine.phase
  linked : Linked reference maximumRecordBytes machine (device.session state) link

/-- A stop request was lost: the machine polls a session that is still held. -/
structure Trapped (device : Device reference maximumRecordBytes δ) (_intent : Intent)
    (machine : WaveformCaptureMachine) (state : δ)
    (link : Exchange.Link DiagnosticOperation Response) : Prop where
  belongs : Belongs reference maximumRecordBytes machine
  phase : machine.phase = .reconcilingStop
  held : Held (device.session state)
  linked : match link with
    | .idle => machine.pending = none
    | .request request => machine.pending = some .pollStop ∧ request.operation = .waveformStatus
    | .response response => machine.pending = some .pollStop ∧
      Truthful reference maximumRecordBytes (device.session state) response

variable {device : Device reference maximumRecordBytes δ}

/-- A served request is answered truthfully. -/
private theorem answered_of_serve {action : WaveformAction} {phase : WaveformClientPhase}
    {state : δ} {request : DiagnosticOperation} (hfits : action.Fits phase)
    (hoperation : request.operation = action.operation)
    (hallows : Allows phase (device.session state)) :
    Answered reference maximumRecordBytes action (device.session (device.serve state request).1)
      (device.serve state request).2 := by
  cases action with
  | configure =>
    obtain rfl : phase = .configuring := hfits
    obtain ⟨hsession, hreports⟩ := device.configures state request hoperation hallows
    refine ⟨hsession, ?_⟩
    rw [hsession]
    exact hreports
  | pollConfigure =>
    obtain rfl : phase = .reconcilingConfigure := hfits
    obtain ⟨helapses, htruth⟩ := device.reports state request hoperation
    refine ⟨?_, htruth⟩
    rcases helapses with hsame | ⟨harmed, -⟩
    · rw [hsame]
      exact hallows
    · rcases hallows with hnone | hconfigured
      · simp [hnone] at harmed
      · simp [hconfigured] at harmed
  | arm =>
    obtain rfl : phase = .arming := hfits
    exact device.arms state request hoperation hallows
  | pollArm =>
    obtain rfl : phase = .reconcilingArm := hfits
    obtain ⟨helapses, htruth⟩ := device.reports state request hoperation
    refine ⟨?_, htruth⟩
    rcases helapses with hsame | ⟨-, hcomplete⟩
    · rw [hsame]
      exact hallows
    · exact Or.inr (Or.inr hcomplete)
  | pollComplete =>
    obtain rfl : phase = .armed := hfits
    obtain ⟨helapses, htruth⟩ := device.reports state request hoperation
    refine ⟨?_, htruth⟩
    rcases helapses with hsame | ⟨-, hcomplete⟩
    · rw [hsame]
      exact hallows
    · exact Or.inr hcomplete
  | read =>
    obtain ⟨receivedBytes, totalBytes, rfl⟩ := hfits
    have hcomplete : device.session state = some .complete := hallows
    rcases device.reads state request hoperation with hsame | ⟨-, hlater⟩
    · exact hsame.trans hcomplete
    · exact hlater
  | stop =>
    obtain rfl : phase = .stopping := hfits
    exact device.stops state request hoperation hallows
  | pollStop =>
    obtain rfl : phase = .reconcilingStop := hfits
    obtain ⟨helapses, htruth⟩ := device.reports state request hoperation
    refine ⟨?_, htruth⟩
    rcases helapses with hsame | ⟨harmed, -⟩
    · rw [hsame]
      exact hallows
    · rcases hallows with hnone | hstopped
      · simp [hnone] at harmed
      · simp [hstopped] at harmed

omit [DiagnosticWire] in
/-- A request that was abandoned before the device saw it leaves a phase that allows the
session, but for a stop. -/
private theorem allows_of_requestLost {action : WaveformAction} {phase : WaveformClientPhase}
    {session : Option WaveformPhase} (hfits : action.Fits phase) (hallows : Allows phase session)
    (hstop : action ≠ .stop) : Allows (action.abandonedPhase phase) session := by
  cases action with
  | stop => exact absurd rfl hstop
  | configure =>
    obtain rfl : phase = .configuring := hfits
    exact Or.inl hallows
  | arm =>
    obtain rfl : phase = .arming := hfits
    exact Or.inl hallows
  | pollConfigure | pollArm | pollComplete | pollStop =>
    obtain rfl : phase = _ := hfits
    exact hallows
  | read => exact hallows

/-- A response that was abandoned leaves a phase that allows the session. -/
private theorem allows_of_responseLost {action : WaveformAction} {phase : WaveformClientPhase}
    {session : Option WaveformPhase} {response : Response} (hfits : action.Fits phase)
    (h : Answered reference maximumRecordBytes action session response) :
    Allows (action.abandonedPhase phase) session := by
  cases action with
  | configure => exact Or.inr h.1
  | arm => exact Or.inr h.1
  | read =>
    obtain ⟨receivedBytes, totalBytes, rfl⟩ := hfits
    exact h
  | pollConfigure | pollArm | pollComplete | stop | pollStop => exact h.1

omit [DiagnosticWire] in
/-- An abandoned action keeps the intent. -/
private theorem intentOf_abandonedPhase {action : WaveformAction} {phase : WaveformClientPhase}
    (hfits : action.Fits phase) :
    intentOf (action.abandonedPhase phase) = intentOf phase := by
  cases action with
  | read => rfl
  | _ =>
    obtain rfl : phase = _ := hfits
    rfl

omit [DiagnosticWire] in
theorem abandonPending_of_pending {action : WaveformAction}
    (hpending : machine.pending = some action) :
    machine.abandonPending.1 = { machine with
      pending := none, phase := action.abandonedPhase machine.phase } := by
  unfold abandonPending
  rw [hpending]
  cases action <;> rfl

/-- Only a machine without a request takes an order. -/
private theorem orders_cases {intent : Intent} (h : Orders machine intent next) :
    machine.pending = none ∧ ∃ phase, next = { machine with phase } ∧ intent = intentOf phase ∧
      ∀ session, Allows machine.phase session → Allows phase session := by
  cases intent with
  | configure => exact h.elim
  | arm =>
    obtain ⟨hidle, hphase, rfl⟩ := requestArm_eq_ok.1 h
    refine ⟨hidle, .arming, rfl, rfl, ?_⟩
    rw [hphase]
    exact fun session hallows => hallows
  | stop =>
    obtain ⟨hidle, ⟨hphase, rfl⟩ | ⟨hphase, rfl⟩⟩ := requestStop_eq_ok.1 h
    · refine ⟨hidle, .stopped, by rw [← hphase], rfl, ?_⟩
      rw [hphase]
      exact fun session hallows => hallows
    · refine ⟨hidle, .stopping, rfl, rfl, ?_⟩
      intro session hallows
      simp only [List.mem_cons, List.not_mem_nil, or_false] at hphase
      rcases hphase with (hphase | hphase | hphase) | ⟨receivedBytes, totalBytes, hphase⟩
      · rw [hphase] at hallows
        exact Or.inl hallows
      · rw [hphase] at hallows
        exact Or.inr hallows
      · rw [hphase] at hallows
        exact Or.inr (Or.inr hallows)
      · rw [hphase] at hallows
        exact Or.inr (Or.inr hallows)

/-- Machine, session and link agree until a stop request is lost. -/
theorem sound_preserved : (overLink device).Preserved (Sound device) fun request =>
    ¬ Harmful request := by
  constructor
  · intro intent machine state request next h hasks
    obtain ⟨hidle, hallows⟩ := h.linked
    rcases nextRequest_cases hasks with
      ⟨hnone, -⟩ | ⟨action, operation, hsome, -, hfits, hoperation, rfl⟩
    · cases hnone
    · obtain rfl := Option.some.inj hsome
      exact ⟨⟨h.belongs.reference, h.belongs.limit⟩, h.intent,
        action, rfl, hfits, hoperation, hallows⟩
  · intro intent machine state request h
    obtain ⟨action, hpending, hfits, hoperation, hallows⟩ := h.linked
    exact ⟨h.belongs, h.intent, action, hpending, hfits,
      answered_of_serve hfits hoperation hallows⟩
  · intro intent machine state response h
    obtain ⟨action, hpending, hfits, hanswered⟩ := h.linked
    obtain ⟨phase, status, record, haccept, hadvances⟩ :=
      acceptResponse_of_answered h.belongs hpending hfits hanswered
    show Sound device intent (machine.acceptResponse response).1 state .idle
    rw [haccept]
    exact ⟨⟨h.belongs.reference, h.belongs.limit⟩, h.intent.trans hadvances.intent.symm, rfl,
      hadvances.allowed⟩
  · intro intent machine state link next later h hpushes
    exact hpushes.elim
  · intro intent machine state request h hharmless
    obtain ⟨action, hpending, hfits, hoperation, hallows⟩ := h.linked
    show Sound device intent machine.abandonPending.1 state .idle
    rw [abandonPending_of_pending hpending]
    refine ⟨⟨h.belongs.reference, h.belongs.limit⟩, h.intent.trans (intentOf_abandonedPhase hfits).symm,
      rfl, allows_of_requestLost hfits hallows ?_⟩
    rintro rfl
    exact hharmless hoperation
  · intro intent machine state response h
    obtain ⟨action, hpending, hfits, hanswered⟩ := h.linked
    show Sound device intent machine.abandonPending.1 state .idle
    rw [abandonPending_of_pending hpending]
    exact ⟨⟨h.belongs.reference, h.belongs.limit⟩,
      h.intent.trans (intentOf_abandonedPhase hfits).symm, rfl,
      allows_of_responseLost hfits hanswered⟩
  · intro intent machine state link intent' next h horders
    obtain ⟨hidle, phase, rfl, hintent, hallows⟩ := orders_cases horders
    refine ⟨⟨h.belongs.reference, h.belongs.limit⟩, hintent, ?_⟩
    have hlinked := h.linked
    cases link with
    | idle => exact ⟨hidle, hallows _ hlinked.2⟩
    | request request =>
      obtain ⟨action, hpending, -⟩ := hlinked
      simp [hidle] at hpending
    | response response =>
      obtain ⟨action, hpending, -⟩ := hlinked
      simp [hidle] at hpending

/-- A held session contradicts what a stop waits for. -/
private theorem settle_of_held {session : Option WaveformPhase} {response : Response}
    (hbelongs : Belongs reference maximumRecordBytes machine) (hheld : Held session)
    (htruth : Truthful reference maximumRecordBytes session response) :
    machine.settle .pollStop response = .error .state := by
  have hsome : ∃ phase, session = some phase ∧ phase ≠ .stopped := by
    rcases hheld with hsession | hsession | hsession <;> exact ⟨_, hsession, by decide⟩
  obtain ⟨phase, rfl, hphase⟩ := hsome
  obtain ⟨status, rfl, -, hsettle⟩ := settle_of_reports .pollStop hbelongs htruth
  rw [hsettle, acceptStatus, Except.failIf, if_pos hphase]
  rfl

/-- A machine that lost a stop request polls for good. -/
theorem trapped_preserved : (overLink device).Preserved (Trapped device) fun _ => True := by
  have hidle : ∀ {intent intent' machine state link},
      Trapped device intent machine state link → Trapped device intent'
        { machine with pending := none, phase := .reconcilingStop } state .idle := by
    intro intent intent' machine state link h
    exact ⟨⟨h.belongs.reference, h.belongs.limit⟩, rfl, h.held, rfl⟩
  constructor
  · intro intent machine state request next h hasks
    rcases nextRequest_cases hasks with
      ⟨hnone, -⟩ | ⟨action, operation, hsome, -, hfits, hoperation, rfl⟩
    · cases hnone
    · obtain rfl := Option.some.inj hsome
      rw [h.phase] at hfits
      -- in this phase nothing but a status is asked for
      have haction : action = .pollStop := by
        cases action <;> simp [WaveformAction.Fits] at hfits ⊢
      subst haction
      exact ⟨⟨h.belongs.reference, h.belongs.limit⟩, h.phase, h.held, rfl, hoperation⟩
  · intro intent machine state request h
    obtain ⟨hpending, hoperation⟩ := h.linked
    obtain ⟨helapses, htruth⟩ := device.reports state request hoperation
    refine ⟨h.belongs, h.phase, ?_, hpending, htruth⟩
    rcases helapses with hsame | ⟨-, hcomplete⟩
    · show Held (device.session (device.serve state request).1)
      rw [hsame]
      exact h.held
    · exact Or.inr (Or.inr hcomplete)
  · intro intent machine state response h
    obtain ⟨hpending, htruth⟩ := h.linked
    have hfreed : Belongs reference maximumRecordBytes { machine with pending := none } :=
      ⟨h.belongs.reference, h.belongs.limit⟩
    have hsettle := settle_of_held hfreed h.held htruth
    have haccept : (machine.acceptResponse response).1 = { machine with pending := none } := by
      simp only [acceptResponse, hpending, hsettle]
    show Trapped device intent (machine.acceptResponse response).1 state .idle
    rw [haccept]
    exact ⟨⟨h.belongs.reference, h.belongs.limit⟩, h.phase, h.held, rfl⟩
  · intro intent machine state link next later h hpushes
    exact hpushes.elim
  · intro intent machine state request h _
    show Trapped device intent machine.abandonPending.1 state .idle
    rw [abandonPending_of_pending h.linked.1]
    exact hidle h
  · intro intent machine state response h
    show Trapped device intent machine.abandonPending.1 state .idle
    rw [abandonPending_of_pending h.linked.1]
    exact hidle h
  · intro intent machine state link intent' next h horders
    cases intent' with
    | configure => exact horders.elim
    | arm =>
      obtain ⟨-, hphase, -⟩ := requestArm_eq_ok.1 horders
      simp [h.phase] at hphase
    | stop =>
      obtain ⟨-, ⟨hphase, -⟩ | ⟨hphase, -⟩⟩ := requestStop_eq_ok.1 horders
      · simp [h.phase] at hphase
      · simp [h.phase] at hphase

/-- A phase short of its intent asks for something. -/
theorem nextRequest_of_unreached (hidle : machine.pending = none)
    (hencode : ∃ body, DiagnosticWire.encodeWaveformSession machine.reference = .ok body)
    (hgoal : ¬ Reached (intentOf machine.phase) machine.phase) :
    ∃ request next, machine.nextRequest = .ok (some request, next) := by
  obtain ⟨body, hbody⟩ := hencode
  have hask : ∀ action operation, ∃ request next,
      machine.ask action operation = .ok (some request, next) := by
    intro action operation
    exact ⟨_, _, ask_eq_ok.2 ⟨body, by rw [encodeReference, hbody]; rfl, rfl, rfl⟩⟩
  have hfree : failIf (machine.pending.isSome = true) DiagnosticClientError.requestPending =
      .ok () := by
    rw [hidle]
    rfl
  unfold nextRequest
  rw [hfree]
  cases hphase : machine.phase with
  | configuring => exact ⟨_, _, rfl⟩
  | reconcilingConfigure => exact hask .pollConfigure .waveformStatus
  | arming => exact hask .arm .waveformArm
  | reconcilingArm => exact hask .pollArm .waveformStatus
  | stopping => exact hask .stop .waveformStop
  | reconcilingStop => exact hask .pollStop .waveformStatus
  | configured | armed | downloading | complete | stopped =>
    rw [hphase] at hgoal
    simp [Reached, intentOf] at hgoal

/-- **Waveform recovery.** A capture recovers exactly until a stop request is lost. -/
theorem waveformCertificate
    (hencode : ∃ body, DiagnosticWire.encodeWaveformSession reference = .ok body) :
    (overLink device).Certificate (Sound device) (Trapped device) Harmful
      fun machine => level machine.phase := by
  constructor
  · exact sound_preserved
  · exact trapped_preserved
  · intro intent machine state request h hharmful
    obtain ⟨action, hpending, hfits, hoperation, hallows⟩ := h.linked
    have hstop : action = .stop := by
      have hsame : action.operation = .waveformStop := hoperation.symm.trans hharmful
      cases action <;> simp [WaveformAction.operation] at hsame ⊢
    subst hstop
    have hphase : machine.phase = .stopping := hfits
    rw [hphase] at hallows
    show Trapped device intent machine.abandonPending.1 state .idle
    rw [abandonPending_of_pending hpending]
    exact ⟨⟨h.belongs.reference, h.belongs.limit⟩, rfl, hallows, rfl⟩
  · intro intent machine state link h hreached
    have hphase : Reached intent machine.phase := hreached
    rw [h.phase] at hphase
    cases intent <;> simp [Reached] at hphase
  · intro intent machine state h hgoal
    apply nextRequest_of_unreached h.linked.1
    · rw [h.belongs.reference]
      exact hencode
    · rw [← h.intent]
      exact hgoal
  · intro intent machine state request next h _ hasks
    rcases nextRequest_cases hasks with ⟨hnone, -⟩ | ⟨action, operation, -, -, -, -, rfl⟩
    · cases hnone
    · rfl
  · intro intent machine state response h hgoal
    obtain ⟨action, hpending, hfits, hanswered⟩ := h.linked
    obtain ⟨phase, status, record, haccept, hadvances⟩ :=
      acceptResponse_of_answered h.belongs hpending hfits hanswered
    show Reached intent (machine.acceptResponse response).1.phase ∨
      level (machine.acceptResponse response).1.phase < level machine.phase
    rw [haccept]
    rcases hadvances.nearer with hreached | hreached | hless
    · rw [← h.intent] at hreached
      exact absurd hreached hgoal
    · rw [← h.intent] at hreached
      exact Or.inl hreached
    · exact Or.inr hless
  · intro intent machine state link next later _ _ hpushes
    exact hpushes.elim

end Recovery

end Alumina.Client.WaveformCaptureMachine
