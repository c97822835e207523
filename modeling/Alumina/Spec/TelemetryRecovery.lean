import Alumina.ForStd.Exchange
import Alumina.Spec.TelemetryOrder

/-!
# Recovery of a telemetry subscription

A subscription machine and its device, over a link that may lose requests and responses. The
device holds at most one session of the subscription, applies what it receives, counts its
events and reports the session truthfully; events may also be pushed at any time.

A lost subscribe request is repeated after its status poll. A lost unsubscribe request is not:
the machine keeps polling a session that nobody removes.

## Key results

- `acceptResponse_of_answered`: what a truthful answer makes of each phase
- `sound_preserved`: how machine, session and link agree as long as no unsubscribe request is
  lost
- `telemetryCertificate`: a subscription recovers exactly until an unsubscribe request is lost
-/

namespace Alumina.Client

/-- The phase in which a machine asks for an action. -/
def TelemetryAction.Fits : TelemetryAction → TelemetryClientPhase → Prop
  | .subscribe, phase => phase = .subscribing
  | .pollSubscribe, phase => phase = .reconcilingSubscribe
  | .pollEvent, phase => phase = .active
  | .unsubscribe, phase => phase = .unsubscribing
  | .pollUnsubscribe, phase => phase = .reconcilingUnsubscribe

/-- The operation an action asks for. -/
def TelemetryAction.operation : TelemetryAction → Operation
  | .subscribe => .telemetrySubscribe
  | .pollSubscribe | .pollUnsubscribe => .telemetryStatus
  | .pollEvent => .telemetryPoll
  | .unsubscribe => .telemetryUnsubscribe

/-- The phase an abandoned action leaves. -/
def TelemetryAction.abandonedPhase : TelemetryAction → TelemetryClientPhase
  | .subscribe | .pollSubscribe => .reconcilingSubscribe
  | .unsubscribe | .pollUnsubscribe => .reconcilingUnsubscribe
  | .pollEvent => .active

namespace TelemetrySubscriptionMachine

open Except (failIf)

section Recovery

variable [DiagnosticWire]

/-! ## The device -/

/-- The events a device counted. -/
structure Counters where
  nextEventSequence : UInt64
  droppedEvents : UInt64
  deriving DecidableEq, Repr

/-- Counters only grow. -/
structure Counters.Grows (counters later : Counters) : Prop where
  sequence : counters.nextEventSequence ≤ later.nextEventSequence
  dropped : counters.droppedEvents ≤ later.droppedEvents

/-- An event the device counted. -/
structure Counters.Counted (counters : Counters) (progress : TelemetryEventProgress) : Prop where
  sequence : progress.eventSequence < counters.nextEventSequence
  dropped : progress.droppedEvents ≤ counters.droppedEvents

omit [DiagnosticWire] in
theorem Counters.Counted.mono {counters later : Counters} {progress : TelemetryEventProgress}
    (h : counters.Counted progress) (hgrows : counters.Grows later) : later.Counted progress :=
  ⟨UInt64.lt_of_lt_of_le h.sequence hgrows.sequence, UInt64.le_trans h.dropped hgrows.dropped⟩

/-- A response that reports a session of the subscription in a phase. -/
structure Reports (subscription : TelemetrySubscribeView) (counters : Counters)
    (phase : TelemetryPhase) (response : Response) : Prop where
  ok : response.status = .ok
  body : response.body ≠ []
  reported : ∃ status, DiagnosticWire.decodeTelemetryStatus response.body = .ok status ∧
    status.phase = phase ∧ validateTelemetryStatus status subscription = .ok () ∧
    status.nextEventSequence = counters.nextEventSequence ∧
    status.droppedEvents = counters.droppedEvents

/-- The truth about a session, or that there is none. -/
def Truthful (subscription : TelemetrySubscribeView) (counters : Counters) :
    Option TelemetryPhase → Response → Prop
  | none, response => response.status = .notFound ∧ response.body = []
  | some phase, response => Reports subscription counters phase response

/-- A removed session may be kept or forgotten. -/
def Released (session : Option TelemetryPhase) : Prop :=
  session = none ∨ session = some .unsubscribed

/-- Whatever event the bytes hold was counted. -/
def Sent (subscription : TelemetrySubscribeView) (counters : Counters) (encoded : List UInt8) :
    Prop :=
  ∀ limits event, DiagnosticWire.decodeTelemetryEvent encoded subscription limits = .ok event →
    counters.Counted event.progress

theorem Sent.mono {subscription : TelemetrySubscribeView} {counters later : Counters}
    {encoded : List UInt8} (h : Sent subscription counters encoded)
    (hgrows : counters.Grows later) : Sent subscription later encoded :=
  fun limits event hevent => (h limits event hevent).mono hgrows

/-- A device that applies what it receives and answers truthfully. -/
structure Device (subscription : TelemetrySubscribeView) (δ : Type) where
  session : δ → Option TelemetryPhase
  counters : δ → Counters
  serve : δ → DiagnosticOperation → δ × Response
  subscribes : ∀ device request, request.operation = .telemetrySubscribe →
    session device = none → session (serve device request).1 = some .active ∧
      Reports subscription (counters (serve device request).1) .active (serve device request).2
  unsubscribes : ∀ device request, request.operation = .telemetryUnsubscribe →
    session device = some .active → Released (session (serve device request).1) ∧
      (counters device).Grows (counters (serve device request).1) ∧
      Reports subscription (counters (serve device request).1) .unsubscribed
        (serve device request).2
  reports : ∀ device request, request.operation = .telemetryStatus →
    session (serve device request).1 = session device ∧
      (counters device).Grows (counters (serve device request).1) ∧
      Truthful subscription (counters (serve device request).1)
        (session (serve device request).1) (serve device request).2
  polls : ∀ device request, request.operation = .telemetryPoll →
    session (serve device request).1 = session device ∧
      (counters device).Grows (counters (serve device request).1) ∧
      Sent subscription (counters (serve device request).1) (serve device request).2.body

/-! ## The exchange -/

/-- What the user asked of a subscription. -/
inductive Intent where
  | subscribe | unsubscribe
  deriving DecidableEq, Repr

/-- The intent a phase belongs to. -/
def intentOf : TelemetryClientPhase → Intent
  | .subscribing | .reconcilingSubscribe | .active => .subscribe
  | .unsubscribing | .reconcilingUnsubscribe | .unsubscribed => .unsubscribe

/-- The phase an intent aims at. -/
def Reached : Intent → TelemetryClientPhase → Prop
  | .subscribe, phase => phase = .active
  | .unsubscribe, phase => phase = .unsubscribed

/-- A user's order that the machine took. -/
def Orders (machine : TelemetrySubscriptionMachine) : Intent → TelemetrySubscriptionMachine → Prop
  | .subscribe, _ => False
  | .unsubscribe, next => machine.requestUnsubscribe = .ok next

/-- A response goes to the call that its request waits for. -/
def accept (machine : TelemetrySubscriptionMachine) (response : Response) :
    TelemetrySubscriptionMachine :=
  if machine.pending = some .pollEvent then (machine.acceptEventResponse response).1
  else (machine.acceptResponse response).1

/-- A subscription machine and its device. A call that returns an error is no step, but for a
rejected response. -/
def overLink {subscription : TelemetrySubscribeView} {δ : Type} (device : Device subscription δ) :
    Exchange TelemetrySubscriptionMachine δ DiagnosticOperation Response Intent where
  ask machine request next := machine.nextRequest = .ok (some request, next) ∨
    machine.nextEventRequest = .ok (request, next)
  serve := device.serve
  accept := accept
  abandon machine := machine.abandonPending.1
  push machine state next later := ∃ encoded accepted,
    machine.acceptEvent encoded = .ok (accepted, next) ∧
    device.session later = device.session state ∧
    (device.counters state).Grows (device.counters later) ∧
    Sent subscription (device.counters later) encoded
  order := Orders
  goal intent machine := Reached intent machine.phase

/-- An unsubscribe request is the one that is never repeated. -/
def Harmful (request : DiagnosticOperation) : Prop := request.operation = .telemetryUnsubscribe

/-! ## Machine, session and link -/

/-- The sessions a device may hold in a phase of the machine. -/
def Allows : TelemetryClientPhase → Option TelemetryPhase → Prop
  | .subscribing, session => session = none
  | .reconcilingSubscribe, session => session = none ∨ session = some .active
  | .active, session | .unsubscribing, session => session = some .active
  | .reconcilingUnsubscribe, session | .unsubscribed, session => Released session

/-- The session and the response an action got. -/
def Answered (subscription : TelemetrySubscribeView) (counters : Counters)
    (action : TelemetryAction) (session : Option TelemetryPhase) (response : Response) : Prop :=
  match action with
  | .subscribe => session = some .active ∧ Truthful subscription counters session response
  | .pollSubscribe => (session = none ∨ session = some .active) ∧
      Truthful subscription counters session response
  | .pollEvent => session = some .active ∧ Sent subscription counters response.body
  | .unsubscribe => Released session ∧ Reports subscription counters .unsubscribed response
  | .pollUnsubscribe => Released session ∧ Truthful subscription counters session response

/-- How the link agrees with the machine and the session. -/
def Linked (subscription : TelemetrySubscribeView) (counters : Counters)
    (machine : TelemetrySubscriptionMachine) (session : Option TelemetryPhase) :
    Exchange.Link DiagnosticOperation Response → Prop
  | .idle => machine.pending = none ∧ Allows machine.phase session
  | .request request => ∃ action : TelemetryAction, machine.pending = some action ∧
      action.Fits machine.phase ∧ request.operation = action.operation ∧
      Allows machine.phase session
  | .response response => ∃ action : TelemetryAction, machine.pending = some action ∧
      action.Fits machine.phase ∧ Answered subscription counters action session response

/-- The machine belongs to the subscription the device serves. -/
structure Belongs (subscription : TelemetrySubscribeView)
    (machine : TelemetrySubscriptionMachine) : Prop where
  subscribed : machine.subscription = .ok subscription
  reference : machine.reference = ⟨subscription.subscriptionId, subscription.digest⟩

/-- The events of the machine were counted, and there are none before it subscribed. -/
structure Behind (counters : Counters) (phase : TelemetryClientPhase)
    (progress : Option TelemetryEventProgress) : Prop where
  fresh : phase = .subscribing ∨ phase = .reconcilingSubscribe → progress = none
  counted : ∀ newest, progress = some newest → counters.Counted newest

variable {subscription : TelemetrySubscribeView} {counters : Counters} {δ : Type}
  {machine next : TelemetrySubscriptionMachine}

/-- How many exchanges a phase is from its intent. -/
def level : TelemetryClientPhase → Nat
  | .reconcilingSubscribe => 2
  | .subscribing | .unsubscribing | .reconcilingUnsubscribe => 1
  | .active | .unsubscribed => 0

/-- What a settled request makes of a phase. -/
structure Advances (session : Option TelemetryPhase) (phase phase' : TelemetryClientPhase) :
    Prop where
  allowed : Allows phase' session
  intent : intentOf phase' = intentOf phase
  nearer : Reached (intentOf phase) phase ∨ Reached (intentOf phase) phase' ∨
    level phase' < level phase

/-! ## Answers -/

/-- A reported status in the phase an action waits for settles it. -/
theorem settle_of_reports (action : TelemetryAction) {response : Response}
    (hsubscribed : machine.subscription = .ok subscription)
    (hcounted : ∀ newest, machine.eventProgress = some newest → counters.Counted newest)
    (h : Reports subscription counters (expectedPhase action) response) :
    ∃ status, machine.settle action response = .ok { machine with
      status
      phase := match expectedPhase action with
        | .active => .active
        | .unsubscribed => .unsubscribed } := by
  obtain ⟨hok, hbody, status, hdecoded, hphase, hvalid, hnext, hdropped⟩ := h
  have hfound : response.status ≠ .notFound := by
    rw [hok]
    exact StatusCode.noConfusion
  have hrequired : requireBody response = .ok () := by
    rw [requireBody, if_pos hok]
    exact Except.failIf_of_not hbody
  have hagrees : machine.eventProgress.any (TelemetryEventProgress.contradicts · status) = false := by
    cases hprogress : machine.eventProgress with
    | none => rfl
    | some newest =>
      have hnewest := hcounted newest hprogress
      rw [Option.any_some, TelemetryEventProgress.contradicts, hnext, hdropped,
        Bool.or_eq_false_iff, decide_eq_false_iff_not, decide_eq_false_iff_not, UInt64.not_le,
        UInt64.not_lt]
      exact ⟨hnewest.sequence, hnewest.dropped⟩
  have hchecked : machine.checkedStatus action response = .ok status := by
    simp only [checkedStatus, Except.bind_eq_ok, Except.exists_unit, Except.failIf_eq_ok,
      Except.mapError_eq_ok, Except.pure_eq_ok]
    refine ⟨hrequired, status, hdecoded, subscription, hsubscribed, hvalid, ?_, ?_, rfl⟩
    · rw [hagrees]
      exact Bool.false_ne_true
    · rw [hphase]
      exact not_not.2 rfl
  refine ⟨some status, ?_⟩
  unfold settle
  rw [if_neg (fun h => hfound h.2), if_neg (fun h => hfound h.2), hchecked]
  rfl

/-- A truthful answer settles its request. -/
theorem settle_of_answered {action : TelemetryAction} {session : Option TelemetryPhase}
    {response : Response} (hsubscribed : machine.subscription = .ok subscription)
    (hcounted : ∀ newest, machine.eventProgress = some newest → counters.Counted newest)
    (hpoll : action ≠ .pollEvent) (hfits : action.Fits machine.phase)
    (h : Answered subscription counters action session response) :
    ∃ phase status, machine.settle action response = .ok { machine with phase, status } ∧
      Advances session machine.phase phase := by
  have hmissing : response.status = .notFound ∧ response.body = [] →
      requireEmpty response = .ok () := fun h => Except.failIf_of_not (not_not.2 h.2)
  cases action with
  | pollEvent => exact absurd rfl hpoll
  | subscribe =>
    have hphase : machine.phase = .subscribing := hfits
    obtain ⟨rfl, htruth⟩ := h
    obtain ⟨status, hsettle⟩ :=
      settle_of_reports .subscribe hsubscribed hcounted htruth
    refine ⟨.active, status, hsettle, ?_⟩
    rw [hphase]
    exact ⟨rfl, rfl, Or.inr (Or.inl rfl)⟩
  | pollSubscribe =>
    have hphase : machine.phase = .reconcilingSubscribe := hfits
    obtain ⟨rfl | rfl, htruth⟩ := h
    · -- the subscribe request never arrived, so it is sent again
      refine ⟨.subscribing, machine.status, ?_, ?_⟩
      · rw [settle, if_pos ⟨rfl, htruth.1⟩, hmissing htruth]
        rfl
      · rw [hphase]
        exact ⟨rfl, rfl, Or.inr (Or.inr (by decide))⟩
    · obtain ⟨status, hsettle⟩ :=
        settle_of_reports .pollSubscribe hsubscribed hcounted htruth
      refine ⟨.active, status, hsettle, ?_⟩
      rw [hphase]
      exact ⟨rfl, rfl, Or.inr (Or.inl rfl)⟩
  | unsubscribe =>
    have hphase : machine.phase = .unsubscribing := hfits
    obtain ⟨status, hsettle⟩ :=
      settle_of_reports .unsubscribe hsubscribed hcounted h.2
    refine ⟨.unsubscribed, status, hsettle, ?_⟩
    rw [hphase]
    exact ⟨h.1, rfl, Or.inr (Or.inl rfl)⟩
  | pollUnsubscribe =>
    have hphase : machine.phase = .reconcilingUnsubscribe := hfits
    have hreached : Advances session machine.phase .unsubscribed := by
      rw [hphase]
      exact ⟨h.1, rfl, Or.inr (Or.inl rfl)⟩
    obtain ⟨rfl | rfl, htruth⟩ := h
    · refine ⟨.unsubscribed, none, ?_, hreached⟩
      rw [settle, if_neg (by simp), if_pos ⟨rfl, htruth.1⟩, hmissing htruth]
      rfl
    · obtain ⟨status, hsettle⟩ :=
        settle_of_reports .pollUnsubscribe hsubscribed hcounted htruth
      exact ⟨.unsubscribed, status, hsettle, hreached⟩

/-- A counted event that is accepted leaves a counted newest event. -/
theorem acceptEvent_counted {encoded : List UInt8} {accepted : TelemetryEventAcceptance}
    (hsubscribed : machine.subscription = .ok subscription)
    (hcounted : ∀ newest, machine.eventProgress = some newest → counters.Counted newest)
    (hsent : Sent subscription counters encoded)
    (h : machine.acceptEvent encoded = .ok (accepted, next)) :
    machine.phase = .active ∧ ∃ eventProgress, next = { machine with eventProgress } ∧
      ∀ newest, eventProgress = some newest → counters.Counted newest := by
  obtain ⟨hactive, subscription', hsubscription, hevent, hbranch⟩ := acceptEvent_eq_ok.1 h
  obtain rfl := Except.ok.inj (hsubscription.symm.trans hsubscribed)
  refine ⟨hactive, ?_⟩
  split at hbranch
  · obtain ⟨-, rfl⟩ := hbranch
    exact ⟨machine.eventProgress, rfl, hcounted⟩
  · obtain ⟨-, -, rfl⟩ := hbranch
    refine ⟨some accepted.event.progress, rfl, ?_⟩
    intro newest hnewest
    obtain rfl := Option.some.inj hnewest
    exact hsent _ _ hevent

/-- What an answer makes of the machine. -/
theorem accept_of_answered {action : TelemetryAction} {session : Option TelemetryPhase}
    {response : Response} (hsubscribed : machine.subscription = .ok subscription)
    (hbehind : Behind counters machine.phase machine.eventProgress)
    (hpending : machine.pending = some action) (hfits : action.Fits machine.phase)
    (h : Answered subscription counters action session response) :
    ∃ phase status eventProgress, machine.accept response =
        { machine with pending := none, phase, status, eventProgress } ∧
      Advances session machine.phase phase ∧ Behind counters phase eventProgress := by
  have hfreed : { machine with pending := none }.subscription = .ok subscription := hsubscribed
  by_cases hpoll : action = .pollEvent
  · subst hpoll
    have hphase : machine.phase = .active := hfits
    have hkeep : Advances session machine.phase machine.phase := by
      rw [hphase]
      exact ⟨h.1, rfl, Or.inl rfl⟩
    have hbehind' : ∀ {progress : Option TelemetryEventProgress},
        (∀ newest, progress = some newest → counters.Counted newest) →
          Behind counters machine.phase progress := by
      intro progress hcounted
      refine ⟨?_, hcounted⟩
      rw [hphase]
      simp
    have hsame : { machine with pending := none } =
        { machine with
          pending := none, phase := machine.phase, status := machine.status
          eventProgress := machine.eventProgress } := rfl
    rw [accept, if_pos hpending]
    rcases machine.acceptEventResponse_cases response with
      ⟨hother, -⟩ | ⟨-, ⟨error, -, hvalue⟩ | ⟨accepted, polled, hpolled, hvalue⟩⟩
    · exact absurd hpending hother
    · rw [hvalue]
      exact ⟨_, _, _, hsame, hkeep, hbehind⟩
    · rw [hvalue]
      obtain ⟨-, ⟨-, -, rfl⟩ | ⟨-, event, -, hevent⟩⟩ := pollEvent_eq_ok.1 hpolled
      · exact ⟨_, _, _, hsame, hkeep, hbehind⟩
      · obtain ⟨-, eventProgress, rfl, hcounted⟩ :=
          acceptEvent_counted hfreed hbehind.counted h.2 hevent
        exact ⟨machine.phase, machine.status, eventProgress, rfl, hkeep, hbehind' hcounted⟩
  · obtain ⟨phase, status, hsettle, hadvances⟩ :=
      settle_of_answered hfreed hbehind.counted hpoll hfits h
    have hother : machine.pending ≠ some .pollEvent := by
      rw [hpending]
      exact fun h => hpoll (Option.some.inj h)
    refine ⟨phase, status, machine.eventProgress, ?_, hadvances, ?_, hbehind.counted⟩
    · rw [accept, if_neg hother]
      cases action with
      | pollEvent => exact absurd rfl hpoll
      | _ => simp only [acceptResponse, hpending, hsettle]
    · -- a machine that has yet to subscribe was not further before
      intro hearly
      apply hbehind.fresh
      have hintent := hadvances.intent
      cases action with
      | subscribe => exact Or.inl hfits
      | pollSubscribe => exact Or.inr hfits
      | pollEvent => exact absurd rfl hpoll
      | unsubscribe | pollUnsubscribe =>
        have hphase : machine.phase = _ := hfits
        rw [hphase] at hintent
        rcases hearly with rfl | rfl <;> simp [intentOf] at hintent

/-! ## Preservation -/

/-- How machine, session and link agree as long as no unsubscribe request was lost. -/
structure Sound (device : Device subscription δ) (intent : Intent)
    (machine : TelemetrySubscriptionMachine) (state : δ)
    (link : Exchange.Link DiagnosticOperation Response) : Prop where
  belongs : Belongs subscription machine
  intent : intent = intentOf machine.phase
  behind : Behind (device.counters state) machine.phase machine.eventProgress
  linked : Linked subscription (device.counters state) machine (device.session state) link

/-- An unsubscribe request was lost: the machine polls a session that is still active. -/
structure Trapped (device : Device subscription δ) (_intent : Intent)
    (machine : TelemetrySubscriptionMachine) (state : δ)
    (link : Exchange.Link DiagnosticOperation Response) : Prop where
  belongs : Belongs subscription machine
  phase : machine.phase = .reconcilingUnsubscribe
  held : device.session state = some .active
  linked : match link with
    | .idle => machine.pending = none
    | .request request => machine.pending = some .pollUnsubscribe ∧
      request.operation = .telemetryStatus
    | .response response => machine.pending = some .pollUnsubscribe ∧
      Truthful subscription (device.counters state) (device.session state) response

variable {device : Device subscription δ}

omit [DiagnosticWire] in
theorem Behind.mono {later : Counters} {phase : TelemetryClientPhase}
    {progress : Option TelemetryEventProgress} (h : Behind counters phase progress)
    (hgrows : counters.Grows later) : Behind later phase progress :=
  ⟨h.fresh, fun newest hnewest => (h.counted newest hnewest).mono hgrows⟩

/-- A request belongs to the phase it was asked in. -/
private theorem asks_cases {request : DiagnosticOperation}
    (h : (overLink device).ask machine request next) :
    ∃ action : TelemetryAction, machine.pending = none ∧ action.Fits machine.phase ∧
      request.operation = action.operation ∧ next = { machine with pending := some action } := by
  rcases h with h | h
  · simp only [nextRequest, Except.bind_eq_ok, Except.exists_unit, Except.failIf_eq_ok,
      Bool.not_eq_true, Option.isSome_eq_false_iff, Option.isNone_iff_eq_none] at h
    obtain ⟨hidle, h⟩ := h
    cases hphase : machine.phase <;>
      simp only [hphase, Except.bind_eq_ok, Except.pure_eq_ok, Prod.mk.injEq, Option.some.injEq,
        reduceCtorEq, false_and] at h
    case subscribing =>
      obtain ⟨rfl, rfl⟩ := h
      exact ⟨.subscribe, hidle, rfl, rfl, by simp⟩
    case reconcilingSubscribe =>
      obtain ⟨body, -, rfl, rfl⟩ := h
      exact ⟨.pollSubscribe, hidle, rfl, rfl, by simp⟩
    case unsubscribing =>
      obtain ⟨body, -, rfl, rfl⟩ := h
      exact ⟨.unsubscribe, hidle, rfl, rfl, by simp⟩
    case reconcilingUnsubscribe =>
      obtain ⟨body, -, rfl, rfl⟩ := h
      exact ⟨.pollUnsubscribe, hidle, rfl, rfl, by simp⟩
  · obtain ⟨hidle, hactive, body, -, rfl, rfl⟩ := nextEventRequest_eq_ok.1 h
    exact ⟨.pollEvent, hidle, hactive, rfl, rfl⟩

/-- A served request is answered truthfully, and what was counted stays counted. -/
private theorem answered_of_serve {action : TelemetryAction} {phase : TelemetryClientPhase}
    {progress : Option TelemetryEventProgress} {state : δ} {request : DiagnosticOperation}
    (hfits : action.Fits phase) (hoperation : request.operation = action.operation)
    (hallows : Allows phase (device.session state))
    (hbehind : Behind (device.counters state) phase progress) :
    Answered subscription (device.counters (device.serve state request).1) action
        (device.session (device.serve state request).1) (device.serve state request).2 ∧
      Behind (device.counters (device.serve state request).1) phase progress := by
  cases action with
  | subscribe =>
    obtain rfl : phase = .subscribing := hfits
    obtain ⟨hsession, hreports⟩ := device.subscribes state request hoperation hallows
    refine ⟨⟨hsession, ?_⟩, hbehind.fresh, ?_⟩
    · rw [hsession]
      exact hreports
    · rw [hbehind.fresh (Or.inl rfl)]
      simp
  | pollSubscribe =>
    obtain rfl : phase = .reconcilingSubscribe := hfits
    obtain ⟨hsame, hgrows, htruth⟩ := device.reports state request hoperation
    refine ⟨⟨?_, htruth⟩, hbehind.mono hgrows⟩
    rw [hsame]
    exact hallows
  | pollEvent =>
    obtain rfl : phase = .active := hfits
    obtain ⟨hsame, hgrows, hsent⟩ := device.polls state request hoperation
    exact ⟨⟨hsame.trans hallows, hsent⟩, hbehind.mono hgrows⟩
  | unsubscribe =>
    obtain rfl : phase = .unsubscribing := hfits
    obtain ⟨hreleased, hgrows, hreports⟩ := device.unsubscribes state request hoperation hallows
    exact ⟨⟨hreleased, hreports⟩, hbehind.mono hgrows⟩
  | pollUnsubscribe =>
    obtain rfl : phase = .reconcilingUnsubscribe := hfits
    obtain ⟨hsame, hgrows, htruth⟩ := device.reports state request hoperation
    refine ⟨⟨?_, htruth⟩, hbehind.mono hgrows⟩
    rw [hsame]
    exact hallows

omit [DiagnosticWire] in
/-- A request that was abandoned before the device saw it leaves a phase that allows the
session, but for an unsubscribe. -/
private theorem allows_of_requestLost {action : TelemetryAction} {phase : TelemetryClientPhase}
    {session : Option TelemetryPhase} (hfits : action.Fits phase) (hallows : Allows phase session)
    (hremove : action ≠ .unsubscribe) : Allows action.abandonedPhase session := by
  cases action with
  | unsubscribe => exact absurd rfl hremove
  | subscribe =>
    obtain rfl : phase = .subscribing := hfits
    exact Or.inl hallows
  | pollSubscribe | pollEvent | pollUnsubscribe =>
    obtain rfl : phase = _ := hfits
    exact hallows

/-- A response that was abandoned leaves a phase that allows the session. -/
private theorem allows_of_responseLost {action : TelemetryAction}
    {session : Option TelemetryPhase} {response : Response}
    (h : Answered subscription counters action session response) :
    Allows action.abandonedPhase session := by
  cases action with
  | subscribe => exact Or.inr h.1
  | pollSubscribe | pollEvent | unsubscribe | pollUnsubscribe => exact h.1

omit [DiagnosticWire] in
/-- An abandoned action keeps the intent, and what was subscribed stays so. -/
private theorem abandonedPhase_keeps {action : TelemetryAction} {phase : TelemetryClientPhase}
    {progress : Option TelemetryEventProgress} (hfits : action.Fits phase)
    (hbehind : Behind counters phase progress) :
    intentOf action.abandonedPhase = intentOf phase ∧
      Behind counters action.abandonedPhase progress := by
  cases action with
  | subscribe | pollSubscribe =>
    obtain rfl : phase = _ := hfits
    refine ⟨rfl, ?_, hbehind.counted⟩
    intro _
    exact hbehind.fresh (by simp)
  | pollEvent | unsubscribe | pollUnsubscribe =>
    obtain rfl : phase = _ := hfits
    refine ⟨rfl, ?_, hbehind.counted⟩
    intro hearly
    simp [TelemetryAction.abandonedPhase] at hearly

omit [DiagnosticWire] in
theorem abandonPending_of_pending {action : TelemetryAction}
    (hpending : machine.pending = some action) :
    machine.abandonPending.1 = { machine with pending := none, phase := action.abandonedPhase } := by
  unfold abandonPending
  rw [hpending]
  cases action <;> rfl

/-- An active machine without a request takes the order. -/
theorem requestUnsubscribe_cases (h : machine.requestUnsubscribe = .ok next) :
    machine.pending = none ∧ ((machine.phase = .active ∧
      next = { machine with phase := .unsubscribing }) ∨
        (machine.phase = .unsubscribed ∧ next = machine)) := by
  simp only [requestUnsubscribe, Except.bind_eq_ok, Except.exists_unit, Except.failIf_eq_ok,
    Bool.not_eq_true, Option.isSome_eq_false_iff, Option.isNone_iff_eq_none] at h
  obtain ⟨hidle, h⟩ := h
  refine ⟨hidle, ?_⟩
  split at h
  · next hactive => exact Or.inl ⟨hactive, (Except.pure_eq_ok.1 h).symm⟩
  · next hremoved => exact Or.inr ⟨hremoved, (Except.pure_eq_ok.1 h).symm⟩
  · cases h

/-- Machine, session and link agree until an unsubscribe request is lost. -/
theorem sound_preserved : (overLink device).Preserved (Sound device) fun request =>
    ¬ Harmful request := by
  constructor
  · intro intent machine state request next h hasks
    obtain ⟨hidle, hallows⟩ := h.linked
    obtain ⟨action, -, hfits, hoperation, rfl⟩ := asks_cases hasks
    exact ⟨⟨h.belongs.subscribed, h.belongs.reference⟩, h.intent, h.behind,
      action, rfl, hfits, hoperation, hallows⟩
  · intro intent machine state request h
    obtain ⟨action, hpending, hfits, hoperation, hallows⟩ := h.linked
    obtain ⟨hanswered, hbehind⟩ := answered_of_serve hfits hoperation hallows h.behind
    exact ⟨h.belongs, h.intent, hbehind, action, hpending, hfits, hanswered⟩
  · intro intent machine state response h
    obtain ⟨action, hpending, hfits, hanswered⟩ := h.linked
    obtain ⟨phase, status, eventProgress, haccept, hadvances, hbehind⟩ :=
      accept_of_answered h.belongs.subscribed h.behind hpending hfits hanswered
    show Sound device intent (machine.accept response) state .idle
    rw [haccept]
    exact ⟨⟨h.belongs.subscribed, h.belongs.reference⟩,
      h.intent.trans hadvances.intent.symm, hbehind, rfl, hadvances.allowed⟩
  · rintro intent machine state link next later h ⟨encoded, accepted, hevent, hsame, hgrows, hsent⟩
    have hbehind := h.behind.mono hgrows
    obtain ⟨hactive, eventProgress, rfl, hcounted⟩ :=
      acceptEvent_counted h.belongs.subscribed hbehind.counted hsent hevent
    refine ⟨⟨h.belongs.subscribed, h.belongs.reference⟩, h.intent, ⟨?_, hcounted⟩, ?_⟩
    · intro hearly
      have hearly' : machine.phase = .subscribing ∨ machine.phase = .reconcilingSubscribe := hearly
      simp [hactive] at hearly'
    · have hlinked := h.linked
      rw [← hsame] at hlinked
      cases link with
      | idle => exact hlinked
      | request request => exact hlinked
      | response response =>
        obtain ⟨action, hpending, hfits, hanswered⟩ := hlinked
        refine ⟨action, hpending, hfits, ?_⟩
        -- an active machine waits for nothing but an event
        rw [hactive] at hfits
        cases action with
        | pollEvent => exact ⟨hanswered.1, hanswered.2.mono hgrows⟩
        | _ => simp [TelemetryAction.Fits] at hfits
  · intro intent machine state request h hharmless
    obtain ⟨action, hpending, hfits, hoperation, hallows⟩ := h.linked
    obtain ⟨hintent, hbehind⟩ := abandonedPhase_keeps hfits h.behind
    show Sound device intent machine.abandonPending.1 state .idle
    rw [abandonPending_of_pending hpending]
    refine ⟨⟨h.belongs.subscribed, h.belongs.reference⟩, h.intent.trans hintent.symm, hbehind, rfl,
      allows_of_requestLost hfits hallows ?_⟩
    rintro rfl
    exact hharmless hoperation
  · intro intent machine state response h
    obtain ⟨action, hpending, hfits, hanswered⟩ := h.linked
    obtain ⟨hintent, hbehind⟩ := abandonedPhase_keeps hfits h.behind
    show Sound device intent machine.abandonPending.1 state .idle
    rw [abandonPending_of_pending hpending]
    exact ⟨⟨h.belongs.subscribed, h.belongs.reference⟩, h.intent.trans hintent.symm, hbehind, rfl,
      allows_of_responseLost hanswered⟩
  · intro intent machine state link intent' next h horders
    cases intent' with
    | subscribe => exact horders.elim
    | unsubscribe =>
      obtain ⟨hidle, hcases⟩ := requestUnsubscribe_cases horders
      have hlinked := h.linked
      have hlink : link = .idle ∧ Allows machine.phase (device.session state) := by
        cases link with
        | idle => exact ⟨rfl, hlinked.2⟩
        | request request =>
          obtain ⟨action, hpending, -⟩ := hlinked
          simp [hidle] at hpending
        | response response =>
          obtain ⟨action, hpending, -⟩ := hlinked
          simp [hidle] at hpending
      obtain ⟨rfl, hallows⟩ := hlink
      rcases hcases with ⟨hactive, rfl⟩ | ⟨hremoved, rfl⟩
      · rw [hactive] at hallows
        refine ⟨⟨h.belongs.subscribed, h.belongs.reference⟩, rfl, ⟨?_, h.behind.counted⟩, hidle,
          hallows⟩
        intro hearly
        simp at hearly
      · exact ⟨h.belongs, by rw [hremoved]; rfl, h.behind, hidle, hallows⟩

/-- An active session contradicts what a removal waits for. -/
private theorem settle_of_held (machine : TelemetrySubscriptionMachine) {response : Response}
    (htruth : Reports subscription counters .active response) :
    ∃ error, machine.settle .pollUnsubscribe response = .error error := by
  obtain ⟨hok, -, status, hdecoded, hphase, -⟩ := htruth
  cases hresult : machine.settle .pollUnsubscribe response with
  | error error => exact ⟨error, rfl⟩
  | ok settled =>
    exfalso
    unfold settle at hresult
    rw [if_neg (by simp), if_neg (by simp [hok])] at hresult
    simp only [Except.bind_eq_ok, Except.pure_eq_ok, checkedStatus, Except.exists_unit,
      Except.failIf_eq_ok, Except.mapError_eq_ok] at hresult
    obtain ⟨checked, ⟨-, decoded, hdecoded', -, -, -, -, hexpected, rfl⟩, -⟩ := hresult
    obtain rfl := Except.ok.inj (hdecoded'.symm.trans hdecoded)
    simp [hphase, expectedPhase] at hexpected

/-- A machine that lost an unsubscribe request polls for good. -/
theorem trapped_preserved : (overLink device).Preserved (Trapped device) fun _ => True := by
  have hidle : ∀ {intent intent' machine state link},
      Trapped device intent machine state link → Trapped device intent'
        { machine with pending := none, phase := .reconcilingUnsubscribe } state .idle := by
    intro intent intent' machine state link h
    exact ⟨⟨h.belongs.subscribed, h.belongs.reference⟩, rfl, h.held, rfl⟩
  constructor
  · intro intent machine state request next h hasks
    obtain ⟨action, -, hfits, hoperation, rfl⟩ := asks_cases hasks
    rw [h.phase] at hfits
    -- in this phase nothing but a status is asked for
    have haction : action = .pollUnsubscribe := by
      cases action <;> simp [TelemetryAction.Fits] at hfits ⊢
    subst haction
    exact ⟨⟨h.belongs.subscribed, h.belongs.reference⟩, h.phase, h.held, rfl, hoperation⟩
  · intro intent machine state request h
    obtain ⟨hpending, hoperation⟩ := h.linked
    obtain ⟨hsame, -, htruth⟩ := device.reports state request hoperation
    exact ⟨h.belongs, h.phase, hsame.trans h.held, hpending, htruth⟩
  · intro intent machine state response h
    obtain ⟨hpending, htruth⟩ := h.linked
    rw [h.held] at htruth
    obtain ⟨error, hsettle⟩ := settle_of_held { machine with pending := none } htruth
    have hother : machine.pending ≠ some .pollEvent := by simp [hpending]
    have haccept : machine.accept response = { machine with pending := none } := by
      rw [accept, if_neg hother]
      simp only [acceptResponse, hpending, hsettle]
    show Trapped device intent (machine.accept response) state .idle
    rw [haccept]
    exact ⟨⟨h.belongs.subscribed, h.belongs.reference⟩, h.phase, h.held, rfl⟩
  · rintro intent machine state link next later h ⟨encoded, accepted, hevent, -⟩
    have hactive := (acceptEvent_eq_ok.1 hevent).1
    simp [h.phase] at hactive
  · intro intent machine state request h _
    show Trapped device intent machine.abandonPending.1 state .idle
    rw [abandonPending_of_pending h.linked.1]
    exact hidle h
  · intro intent machine state response h
    show Trapped device intent machine.abandonPending.1 state .idle
    rw [abandonPending_of_pending h.linked.1]
    exact hidle h
  · intro intent machine state link intent' next h horders
    cases intent' with
    | subscribe => exact horders.elim
    | unsubscribe =>
      obtain ⟨-, ⟨hphase, -⟩ | ⟨hphase, -⟩⟩ := requestUnsubscribe_cases horders
      · simp [h.phase] at hphase
      · simp [h.phase] at hphase

/-- A phase short of its intent asks for something. -/
theorem nextRequest_of_unreached (hidle : machine.pending = none)
    (hencode : ∃ body, DiagnosticWire.encodeTelemetrySession machine.reference = .ok body)
    (hgoal : ¬ Reached (intentOf machine.phase) machine.phase) :
    ∃ request next, machine.nextRequest = .ok (some request, next) := by
  obtain ⟨body, hbody⟩ := hencode
  have hreference : machine.encodeReference = .ok body := by
    rw [encodeReference, hbody]
    rfl
  have hfree : failIf (machine.pending.isSome = true) DiagnosticClientError.requestPending =
      .ok () := by
    rw [hidle]
    rfl
  unfold nextRequest
  rw [hfree]
  cases hphase : machine.phase with
  | subscribing => exact ⟨_, _, rfl⟩
  | reconcilingSubscribe | unsubscribing | reconcilingUnsubscribe =>
    rw [hreference]
    exact ⟨_, _, rfl⟩
  | active | unsubscribed =>
    rw [hphase] at hgoal
    simp [Reached, intentOf] at hgoal

/-- **Telemetry recovery.** A subscription recovers exactly until an unsubscribe request is
lost. -/
theorem telemetryCertificate
    (hencode : ∃ body, DiagnosticWire.encodeTelemetrySession
      ⟨subscription.subscriptionId, subscription.digest⟩ = .ok body) :
    (overLink device).Certificate (Sound device) (Trapped device) Harmful
      fun machine => level machine.phase := by
  constructor
  · exact sound_preserved
  · exact trapped_preserved
  · intro intent machine state request h hharmful
    obtain ⟨action, hpending, hfits, hoperation, hallows⟩ := h.linked
    have hremove : action = .unsubscribe := by
      have hsame : action.operation = .telemetryUnsubscribe := hoperation.symm.trans hharmful
      cases action <;> simp [TelemetryAction.operation] at hsame ⊢
    subst hremove
    have hphase : machine.phase = .unsubscribing := hfits
    rw [hphase] at hallows
    show Trapped device intent machine.abandonPending.1 state .idle
    rw [abandonPending_of_pending hpending]
    exact ⟨⟨h.belongs.subscribed, h.belongs.reference⟩, rfl, hallows, rfl⟩
  · intro intent machine state link h hreached
    have hphase : Reached intent machine.phase := hreached
    rw [h.phase] at hphase
    cases intent <;> simp [Reached] at hphase
  · intro intent machine state h hgoal
    have hasks : ∃ request next, machine.nextRequest = .ok (some request, next) := by
      apply nextRequest_of_unreached h.linked.1
      · rw [h.belongs.reference]
        exact hencode
      · rw [← h.intent]
        exact hgoal
    obtain ⟨request, next, hrequest⟩ := hasks
    exact ⟨request, next, Or.inl hrequest⟩
  · intro intent machine state request next h _ hasks
    obtain ⟨action, -, -, -, rfl⟩ := asks_cases hasks
    rfl
  · intro intent machine state response h hgoal
    obtain ⟨action, hpending, hfits, hanswered⟩ := h.linked
    obtain ⟨phase, status, eventProgress, haccept, hadvances, -⟩ :=
      accept_of_answered h.belongs.subscribed h.behind hpending hfits hanswered
    show Reached intent (machine.accept response).phase ∨
      level (machine.accept response).phase < level machine.phase
    rw [haccept]
    rcases hadvances.nearer with hreached | hreached | hless
    · rw [← h.intent] at hreached
      exact absurd hreached hgoal
    · rw [← h.intent] at hreached
      exact Or.inl hreached
    · exact Or.inr hless
  · rintro intent machine state link next later h hgoal ⟨encoded, accepted, hevent, -⟩
    -- only an active subscription takes events, and it has reached its intent
    have hactive := (acceptEvent_eq_ok.1 hevent).1
    apply hgoal
    show Reached intent machine.phase
    rw [h.intent, hactive]
    rfl

end Recovery

end TelemetrySubscriptionMachine

end Alumina.Client
