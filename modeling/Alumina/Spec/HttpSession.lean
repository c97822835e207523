import Alumina.Client.HttpLibrary

/-!
# Proofs and answers of an HTTP session

A `Ledger` records beside a session the nonces it was bound to, every request it signed and
every request whose answer was authenticated. What the session promises over all orders of
calls is a statement about these lists.

## Key results

- `AuthenticatedHttpSession.perform_cases`: everything a call on a session can do
- `Ledger.sound_step`: a call with a fresh nonce keeps the ledger sound
- `Ledger.authenticatedSession`: no proof is signed twice and no foreign answer is accepted
- `Ledger.authenticatedSession_fails`: a rebinding starts the correlations again
-/

namespace Alumina.Client

open Except (failIf)
open Alumina.Graph (Digest FixedArray)

section Runs

variable [ProtocolWire]

/-- A frame answers a request: its headers name the sequence, the configuration, the operation
and the correlation of the request. -/
def PendingRequest.AnsweredBy (pending : PendingRequest) (body : List UInt8)
    (answer : Response) : Prop :=
  ∃ frame message,
    ProtocolWire.decodeFrame (body.take ProtocolWire.frameWireLen) maximumPayloadBytes =
      .ok frame ∧
    body.length = ProtocolWire.frameWireLen + frame.payloadLen.toNat ∧
    frame.sequence = pending.sequence ∧ frame.configDigest = pending.configDigest ∧
    ProtocolWire.decodeMessage
        ((body.drop ProtocolWire.frameWireLen).take ProtocolWire.messageWireLen) frame.kind
        frame.payloadLen = .ok message ∧
    message.direction = .response ∧ message.operation = pending.operation ∧
    message.correlationId = pending.correlation ∧ answer.status = message.status ∧
    answer.body = (body.drop ProtocolWire.frameWireLen).drop ProtocolWire.messageWireLen

variable [AuthWire]

namespace AuthenticatedHttpSession

variable {session session' : AuthenticatedHttpSession} {call : Call} {outcome : Outcome}
  {operation : Operation} {body secret : List UInt8} {configDigest : Digest}
  {request : AuthenticatedProtocolRequest} {response : AuthenticatedProtocolResponse}
  {pending : PendingRequest}

/-! ## What a call can do -/

/-- The request the next construction makes pending. -/
def upcoming (session : AuthenticatedHttpSession) (operation : Operation)
    (configDigest : Digest) : PendingRequest :=
  ⟨operation, session.nextSequence, session.nextCorrelation, session.nextHttpCounter,
    configDigest⟩

/-- A request signed under a nonce for an origin carries the frame of a pending request. -/
def Signs (nonce : BootNonce) (origin : CorsOrigin) (pending : PendingRequest)
    (request : AuthenticatedProtocolRequest) : Prop :=
  request.counter = pending.httpCounter ∧ ∃ body secret proof,
    encodeRequest pending.operation body pending.sequence pending.correlation
      pending.configDigest = .ok request.body ∧
    AuthWire.signRequest secret nonce request.counter .post controlPath origin request.body =
      .ok proof ∧
    AuthWire.writeLowerHex proof.tag = .ok request.authorization

/-- A response whose proof names the pending counter and verifies. -/
def Authentic (session : AuthenticatedHttpSession) (pending : PendingRequest)
    (response : AuthenticatedProtocolResponse) (secret : List UInt8) : Prop :=
  ∃ tag, AuthWire.parseRequestProof response.counterHeader response.authorizationHeader =
      .ok ⟨pending.httpCounter, tag⟩ ∧
    AuthWire.verifyResponseProof secret session.nonce ⟨pending.httpCounter, tag⟩
      response.httpStatus response.media session.origin response.body = .ok ()

theorem authenticate_eq_ok :
    session.authenticate pending response secret = .ok () ↔
      session.Authentic pending response secret := by
  simp only [authenticate, Except.bind_eq_ok, Except.exists_unit, Except.failIf_eq_ok,
    Except.mapError_eq_ok, not_not, Authentic]
  constructor
  · rintro ⟨⟨counter, tag⟩, hparsed, rfl, hverified⟩
    exact ⟨tag, hparsed, hverified⟩
  · rintro ⟨tag, hparsed, hverified⟩
    exact ⟨⟨pending.httpCounter, tag⟩, hparsed, rfl, hverified⟩

/-- A constructed request spends the counter, the sequence and the correlation. -/
theorem beginRequestForConfig_eq_ok
    (h : session.beginRequestForConfig operation body configDigest secret =
      .ok (request, session')) :
    session.pending = none ∧ ∃ next, session.nextHttpCounter.checkedAdd 1 = some next ∧
      Signs session.nonce session.origin (session.upcoming operation configDigest) request ∧
      session' =
        { session with
          pending := some (session.upcoming operation configDigest)
          nextHttpCounter := next
          nextSequence := session.nextSequence + 1
          nextCorrelation := max (session.nextCorrelation + 1) 1 } := by
  simp only [beginRequestForConfig, Except.bind_eq_ok, Except.exists_unit, Except.failIf_eq_ok,
    Option.okOr_eq_ok, Except.mapError_eq_ok, Except.pure_eq_ok, Prod.mk.injEq, Bool.not_eq_true,
    Option.isSome_eq_false_iff, Option.isNone_iff_eq_none] at h
  obtain ⟨hquiet, next, hnext, frame, hframe, proof, hproof, authorization, hhex, rfl, rfl⟩ := h
  exact ⟨hquiet, next, hnext, ⟨rfl, body, secret, proof, hframe, hproof, hhex⟩, rfl⟩

omit [AuthWire] in
/-- A decoded response answers its request. -/
theorem answeredBy_of_decodeResponse {answer : Response}
    (h : decodeResponse body pending.operation pending.sequence pending.correlation
      pending.configDigest = .ok answer) : pending.AnsweredBy body answer := by
  simp only [decodeResponse, Except.bind_eq_ok, Except.exists_unit, Except.failIf_eq_ok,
    Except.mapError_eq_ok, Except.pure_eq_ok, not_or, not_not] at h
  obtain ⟨-, frame, hframe, hlength, hsequence, hconfig, message, hmessage,
    ⟨hdirection, hoperation, hcorrelation⟩, rfl⟩ := h
  exact ⟨frame, message, hframe, hlength, hsequence, hconfig, hmessage, hdirection, hoperation,
    hcorrelation, rfl, rfl⟩

/-- The request a call emitted. -/
def Outcome.emitted : Outcome → Option AuthenticatedProtocolRequest
  | .request (.ok request) => some request
  | _ => none

/-- Everything a call can do. -/
inductive Transition (session : AuthenticatedHttpSession) :
    Call × Outcome → AuthenticatedHttpSession → Prop
  | refused (call : Call) (outcome : Outcome) (silent : outcome.emitted = none)
      (unbound : outcome ≠ .rebound (.ok ())) : Transition session (call, outcome) session
  | signed (call : Call) (operation : Operation) (configDigest : Digest) (next : UInt64)
      (request : AuthenticatedProtocolRequest) (kept : ∀ nonce digest, call ≠ .rebindBoot nonce digest)
      (quiet : session.pending = none)
      (counter : session.nextHttpCounter.checkedAdd 1 = some next)
      (signs : Signs session.nonce session.origin (session.upcoming operation configDigest)
        request) :
      Transition session (call, .request (.ok request))
        { session with
          pending := some (session.upcoming operation configDigest)
          nextHttpCounter := next
          nextSequence := session.nextSequence + 1
          nextCorrelation := max (session.nextCorrelation + 1) 1 }
  | answered (response : AuthenticatedProtocolResponse) (secret : List UInt8)
      (result : HttpResult Response) (pending : PendingRequest)
      (found : session.pending = some pending)
      (authentic : session.Authentic pending response secret) :
      Transition session (.acceptResponse response secret, .response result)
        { session with pending := none }
  | abandoned (had : Bool) :
      Transition session (.abandonPending, .abandoned had) { session with pending := none }
  | rebound (nonce : BootNonce) (configDigest : Digest) (quiet : session.pending = none) :
      Transition session (.rebindBoot nonce configDigest, .rebound (.ok ()))
        (.new nonce configDigest session.origin)

private theorem requested_transition (hkept : ∀ nonce digest, call ≠ .rebindBoot nonce digest) :
    Transition session
      (call, (session.requested (session.beginRequestForConfig operation body configDigest
        secret)).2)
      (session.requested (session.beginRequestForConfig operation body configDigest secret)).1 := by
  cases hresult : session.beginRequestForConfig operation body configDigest secret with
  | error error => exact .refused _ _ rfl nofun
  | ok signed =>
    obtain ⟨request, session'⟩ := signed
    obtain ⟨hquiet, next, hnext, hsigns, rfl⟩ := beginRequestForConfig_eq_ok hresult
    exact .signed call operation configDigest next request hkept hquiet hnext hsigns

theorem perform_cases (h : Step session (call, outcome) session') :
    Transition session (call, outcome) session' := by
  have hperform : session.perform call = (session', outcome) := h
  have hgoal : Transition session (call, (session.perform call).2) (session.perform call).1 := by
    cases call with
    | beginRequest operation body secret => exact requested_transition nofun
    | beginRequestForConfig operation body configDigest secret =>
      exact requested_transition nofun
    | acceptResponse response secret =>
      unfold perform acceptResponse
      cases hpending : session.pending with
      | none => exact .refused _ _ rfl nofun
      | some pending =>
        simp only
        cases hauthentic : session.authenticate pending response secret with
        | error error => exact .refused _ _ rfl nofun
        | ok =>
          exact .answered response secret _ pending hpending (authenticate_eq_ok.1 hauthentic)
    | abandonPending => exact .abandoned _
    | rebindBoot nonce configDigest =>
      simp only [perform]
      cases hresult : (session.rebindBoot nonce configDigest : HttpResult _) with
      | error error => exact .refused _ _ rfl nofun
      | ok session' =>
        simp only [rebindBoot, Except.bind_eq_ok, Except.exists_unit, Except.failIf_eq_ok,
          Except.pure_eq_ok, Bool.not_eq_true, Option.isSome_eq_false_iff,
          Option.isNone_iff_eq_none] at hresult
        obtain ⟨hquiet, rfl⟩ := hresult
        exact .rebound nonce configDigest hquiet
  rw [hperform] at hgoal
  exact hgoal

/-! ## Responses -/

/-- A response that is not authentic leaves the session as it was. -/
theorem acceptResponse_of_foreign
    (h : ∀ pending, session.pending = some pending →
      ¬ session.Authentic pending response secret) :
    (session.acceptResponse response secret).1 = session ∧
      ∀ answer, (session.acceptResponse response secret).2 ≠ .ok answer := by
  unfold acceptResponse
  cases hpending : session.pending with
  | none => exact ⟨rfl, nofun⟩
  | some pending =>
    simp only
    cases hauthentic : session.authenticate pending response secret with
    | error error => exact ⟨rfl, nofun⟩
    | ok => exact absurd (authenticate_eq_ok.1 hauthentic) (h pending hpending)

/-- An authentic response consumes the pending request, whatever its frame is. -/
theorem acceptResponse_of_authentic (hpending : session.pending = some pending)
    (h : session.Authentic pending response secret) :
    session.acceptResponse response secret =
      ({ session with pending := none }, openResponse pending response) := by
  unfold acceptResponse
  rw [hpending]
  simp only
  rw [authenticate_eq_ok.2 h]

/-- An answer is returned only for a response that is authentic and answers the request. -/
theorem acceptResponse_eq_ok {answer : Response}
    (h : (session.acceptResponse response secret).2 = .ok answer) :
    ∃ pending, session.pending = some pending ∧ session.Authentic pending response secret ∧
      response.httpStatus = 200 ∧ response.media = .nativeFrame ∧
      pending.AnsweredBy response.body answer := by
  by_cases hauthentic : ∃ pending, session.pending = some pending ∧
      session.Authentic pending response secret
  · obtain ⟨pending, hpending, hauthentic⟩ := hauthentic
    rw [acceptResponse_of_authentic hpending hauthentic] at h
    simp only [openResponse, Except.bind_eq_ok, Except.exists_unit, Except.failIf_eq_ok,
      Except.mapError_eq_ok, not_not] at h
    obtain ⟨hstatus, hmedia, hdecoded⟩ := h
    exact ⟨pending, hpending, hauthentic, hstatus, hmedia, answeredBy_of_decodeResponse hdecoded⟩
  · refine absurd h ((acceptResponse_of_foreign ?_).2 answer)
    intro pending hpending hforeign
    exact hauthentic ⟨pending, hpending, hforeign⟩

/-! ## Correlations -/

/-- A correlation that counts the requests modulo `2 ^ 32 - 1`, from one. -/
def Correlates (correlation : UInt32) (count : Nat) : Prop :=
  correlation.toNat = count % (2 ^ 32 - 1) + 1

omit [ProtocolWire] [AuthWire] in
theorem Correlates.next {correlation : UInt32} {count : Nat} (h : Correlates correlation count) :
    Correlates (max (correlation + 1) 1) (count + 1) := by
  unfold Correlates at *
  have hlt := Nat.mod_lt count (by decide : 0 < 2 ^ 32 - 1)
  have hsum : (correlation + 1).toNat = (correlation.toNat + 1) % 2 ^ 32 := UInt32.toNat_add _ _
  have hone : (1 : UInt32).toNat = 1 := rfl
  show (if correlation + 1 ≤ 1 then (1 : UInt32) else correlation + 1).toNat = _
  split
  · next hwrapped =>
    rw [UInt32.le_iff_toNat_le, hsum, hone] at hwrapped
    rw [hone]
    omega
  · next hlater =>
    rw [UInt32.le_iff_toNat_le, hsum, hone] at hlater
    rw [hsum]
    omega

omit [ProtocolWire] [AuthWire] in
/-- Two requests of one window have distinct correlations. -/
theorem Correlates.ne {a b : UInt32} {i j : Nat} (ha : Correlates a i) (hb : Correlates b j)
    (hlt : i < j) (hnear : j < i + (2 ^ 32 - 1)) : a ≠ b := by
  rintro rfl
  have hsame : i % (2 ^ 32 - 1) + 1 = j % (2 ^ 32 - 1) + 1 := ha.symm.trans hb
  omega

end AuthenticatedHttpSession

/-! ## The ledger of a session -/

open AuthenticatedHttpSession (Call Outcome Correlates Signs Authentic)

/-- A request with the nonce it was signed under. -/
structure SignedRequest where
  nonce : BootNonce
  pending : PendingRequest
  request : AuthenticatedProtocolRequest
  deriving DecidableEq, Repr

/-- A session with the nonces it was bound to, the requests it signed and those whose answer was
authenticated. -/
structure Ledger where
  session : AuthenticatedHttpSession
  bound : List BootNonce
  signed : List SignedRequest
  consumed : List (BootNonce × PendingRequest)

namespace Ledger

def start (session : AuthenticatedHttpSession) : Ledger := ⟨session, [session.nonce], [], []⟩

/-- The requests signed under a nonce, oldest first. -/
def under (signed : List SignedRequest) (nonce : BootNonce) : List PendingRequest :=
  (signed.filter (·.nonce = nonce)).map (·.pending)

/-- A call on the session of a ledger. -/
def perform (w : Ledger) (call : Call) : Ledger × Outcome :=
  let (session, outcome) := w.session.perform call
  let w' : Ledger :=
    match outcome with
    | .request (.ok request) =>
      { w with
        session
        signed := w.signed ++ (session.pending.map (⟨session.nonce, ·, request⟩)).toList }
    | .response _ =>
      if session.pending.isNone then
        { w with
          session
          consumed := w.consumed ++ (w.session.pending.map (w.session.nonce, ·)).toList }
      else { w with session }
    | .rebound (.ok ()) => { w with session, bound := w.bound ++ [session.nonce] }
    | _ => { w with session }
  (w', outcome)

/-- The session is rebound to nonces it was not bound to before. -/
def Ready (w : Ledger) : Call → Prop
  | .rebindBoot nonce _ => nonce ∉ w.bound
  | _ => True

/-- One call that is ready. -/
def Step (w : Ledger) (event : Call × Outcome) (w' : Ledger) : Prop :=
  Run.Calls perform w event w' ∧ w.Ready event.1

/-- The counters of each nonce increase and are behind the next one, the correlations of each
nonce count its requests, and what is pending was signed and not answered. -/
structure Sound (w : Ledger) : Prop where
  current : w.session.nonce ∈ w.bound
  known : ∀ entry ∈ w.signed, entry.nonce ∈ w.bound
  signs : ∀ entry ∈ w.signed, Signs entry.nonce w.session.origin entry.pending entry.request
  counters : w.signed.Pairwise fun a b =>
    a.nonce = b.nonce → a.pending.httpCounter < b.pending.httpCounter
  behind : ∀ entry ∈ w.signed, entry.nonce = w.session.nonce →
    entry.pending.httpCounter < w.session.nextHttpCounter
  correlations : ∀ nonce i pending, (under w.signed nonce)[i]? = some pending →
    Correlates pending.correlation i
  upcoming : Correlates w.session.nextCorrelation (under w.signed w.session.nonce).length
  pending : ∀ pending, w.session.pending = some pending →
    (∃ entry ∈ w.signed, entry.nonce = w.session.nonce ∧ entry.pending = pending) ∧
      (w.session.nonce, pending) ∉ w.consumed
  answered : ∀ entry ∈ w.consumed, ∃ request, ⟨entry.1, entry.2, request⟩ ∈ w.signed
  once : w.consumed.Nodup

variable {w w' : Ledger} {event : Call × Outcome} {history : List (Call × Outcome)}

omit [ProtocolWire] [AuthWire] in
theorem under_append {signed : List SignedRequest} {entry : SignedRequest} {nonce : BootNonce} :
    under (signed ++ [entry]) nonce =
      under signed nonce ++ if entry.nonce = nonce then [entry.pending] else [] := by
  unfold under
  rw [List.filter_append, List.map_append]
  by_cases hsame : entry.nonce = nonce <;> simp [hsame]

/-- A signed request is the next one of its nonce. -/
private theorem sound_signed {operation : Operation} {configDigest : Digest} {next : UInt64}
    {request : AuthenticatedProtocolRequest} (hs : w.Sound)
    (hnext : w.session.nextHttpCounter.checkedAdd 1 = some next)
    (hsigns : Signs w.session.nonce w.session.origin (w.session.upcoming operation configDigest)
      request) :
    Sound
      { w with
        session :=
          { w.session with
            pending := some (w.session.upcoming operation configDigest)
            nextHttpCounter := next
            nextSequence := w.session.nextSequence + 1
            nextCorrelation := max (w.session.nextCorrelation + 1) 1 }
        signed := w.signed ++
          [⟨w.session.nonce, w.session.upcoming operation configDigest, request⟩] } := by
  have hlater : w.session.nextHttpCounter < next := by
    have hsum := UInt64.checkedAdd_eq_some.1 hnext
    have hone : (1 : UInt64).toNat = 1 := rfl
    rw [UInt64.lt_iff_toNat_lt]
    omega
  refine
    { current := hs.current
      known := ?_
      signs := ?_
      counters := ?_
      behind := ?_
      correlations := ?_
      upcoming := ?_
      pending := ?_
      answered := ?_
      once := hs.once }
  · intro entry hmem
    rcases List.mem_append.1 hmem with hold | hnew
    · exact hs.known entry hold
    · rw [List.mem_singleton.1 hnew]
      exact hs.current
  · intro entry hmem
    rcases List.mem_append.1 hmem with hold | hnew
    · exact hs.signs entry hold
    · rw [List.mem_singleton.1 hnew]
      exact hsigns
  · rw [List.pairwise_append]
    refine ⟨hs.counters, List.pairwise_singleton _ _, ?_⟩
    intro earlier hearlier entry hnew hsame
    rw [List.mem_singleton.1 hnew] at hsame ⊢
    exact hs.behind earlier hearlier hsame
  · intro entry hmem hsame
    rcases List.mem_append.1 hmem with hold | hnew
    · exact UInt64.lt_trans (hs.behind entry hold hsame) hlater
    · rw [List.mem_singleton.1 hnew]
      exact hlater
  · intro nonce i pending hi
    rw [under_append] at hi
    by_cases hlt : i < (under w.signed nonce).length
    · rw [List.getElem?_append_left hlt] at hi
      exact hs.correlations nonce i pending hi
    · rw [List.getElem?_append_right (by omega)] at hi
      split at hi
      · next hsame =>
        -- the new request is the last one of its nonce
        rw [List.getElem?_singleton] at hi
        split at hi
        · cases hi
          have hlength : i = (under w.signed nonce).length := by omega
          rw [hlength, ← hsame]
          exact hs.upcoming
        · cases hi
      · simp at hi
  · show Correlates (max (w.session.nextCorrelation + 1) 1) (under (_ ++ [_]) w.session.nonce).length
    rw [under_append, if_pos rfl, List.length_append]
    exact hs.upcoming.next
  · rintro _ ⟨⟩
    refine ⟨⟨_, List.mem_append_right _ (List.mem_singleton_self _), rfl, rfl⟩, ?_⟩
    intro hconsumed
    obtain ⟨request, hmem⟩ := hs.answered _ hconsumed
    exact UInt64.lt_irrefl _ (hs.behind _ hmem rfl)
  · intro entry hmem
    obtain ⟨request, hsigned⟩ := hs.answered entry hmem
    exact ⟨request, List.mem_append_left _ hsigned⟩

/-- A ledger whose session has nothing pending and is otherwise the same. -/
private theorem sound_settled (hs : w.Sound) {consumed : List (BootNonce × PendingRequest)}
    (hanswered : ∀ entry ∈ consumed, ∃ request, ⟨entry.1, entry.2, request⟩ ∈ w.signed)
    (honce : consumed.Nodup) :
    Sound { w with session := { w.session with pending := none }, consumed } :=
  { current := hs.current
    known := hs.known
    signs := hs.signs
    counters := hs.counters
    behind := hs.behind
    correlations := hs.correlations
    upcoming := hs.upcoming
    pending := nofun
    answered := hanswered
    once := honce }

/-- A fresh nonce starts a new count. -/
private theorem sound_rebound {nonce : BootNonce} {configDigest : Digest} (hs : w.Sound)
    (hfresh : nonce ∉ w.bound) :
    Sound
      { w with
        session := .new nonce configDigest w.session.origin
        bound := w.bound ++ [nonce] } := by
  have hnone : under w.signed nonce = [] := by
    rw [under, List.map_eq_nil_iff, List.filter_eq_nil_iff]
    intro entry hmem hsame
    rw [decide_eq_true_eq] at hsame
    exact hfresh (hsame ▸ hs.known entry hmem)
  exact
    { current := by simp [AuthenticatedHttpSession.new]
      known := fun entry hmem => List.mem_append_left _ (hs.known entry hmem)
      signs := hs.signs
      counters := hs.counters
      behind := by
        intro entry hmem hsame
        have hknown := hs.known entry hmem
        rw [hsame] at hknown
        exact absurd hknown hfresh
      correlations := hs.correlations
      upcoming := by
        show Correlates 1 (under w.signed nonce).length
        rw [hnone]
        rfl
      pending := nofun
      answered := hs.answered
      once := hs.once }

/-- A call on a ledger is one on its session. -/
theorem of_calls (h : Run.Calls perform w event w') :
    AuthenticatedHttpSession.Step w.session event w'.session := by
  obtain ⟨call, outcome⟩ := event
  have hperform : w.perform call = (w', outcome) := h
  show w.session.perform call = (w'.session, outcome)
  unfold perform at hperform
  generalize w.session.perform call = result at hperform
  obtain ⟨session, outcome'⟩ := result
  simp only [Prod.mk.injEq] at hperform
  obtain ⟨rfl, rfl⟩ := hperform
  split <;> first | rfl | (split <;> rfl)

/-- A call with a fresh nonce keeps the ledger sound. -/
theorem sound_step (h : w.Step event w') (hs : w.Sound) : w'.Sound := by
  obtain ⟨call, outcome⟩ := event
  obtain ⟨hcalls, hready⟩ := h
  have hcases := AuthenticatedHttpSession.perform_cases (of_calls hcalls)
  have hperform : w.perform call = (w', outcome) := hcalls
  have hsession : w.session.perform call = (w'.session, outcome) := of_calls hcalls
  rw [perform, hsession] at hperform
  generalize w'.session = session' at hcases hperform
  simp only [Prod.mk.injEq, and_true] at hperform
  subst hperform
  cases hcases with
  | refused _ _ silent unbound =>
    cases outcome with
    | request result =>
      cases result with
      | error error => exact hs
      | ok request => cases silent
    | response result =>
      simp only
      split
      · next hnone =>
        rw [Option.isNone_iff_eq_none] at hnone
        simp only [hnone, Option.map_none, Option.toList_none, List.append_nil]
        exact hs
      · exact hs
    | abandoned had => exact hs
    | rebound result =>
      cases result with
      | error error => exact hs
      | ok => exact absurd rfl unbound
  | signed _ operation configDigest next request kept quiet counter signs =>
    exact sound_signed hs counter signs
  | answered response secret result pending found authentic =>
    obtain ⟨⟨entry, hmem, hnonce, rfl⟩, hunanswered⟩ := hs.pending pending found
    simp only [Option.isNone_none, if_true, found, Option.map_some, Option.toList_some]
    refine sound_settled hs ?_ ?_
    · intro answered hanswered
      rcases List.mem_append.1 hanswered with hold | hnew
      · exact hs.answered answered hold
      · rw [List.mem_singleton.1 hnew, ← hnonce]
        exact ⟨entry.request, hmem⟩
    · rw [List.nodup_append]
      refine ⟨hs.once, List.nodup_singleton _, ?_⟩
      intro earlier hearlier answered hnew hsame
      rw [List.mem_singleton.1 hnew] at hsame
      exact hunanswered (hsame ▸ hearlier)
  | abandoned had => exact sound_settled hs hs.answered hs.once
  | rebound nonce configDigest quiet => exact sound_rebound hs hready

/-! ## What the ledger shows -/

/-- No proof is signed twice, no answer is accepted twice, and what is accepted is authentic. -/
structure Disciplined (w : Ledger) (history : List (Call × Outcome)) : Prop where
  /-- The requests of the ledger are those that were emitted, each signed under its nonce. -/
  emitted : w.signed.map (·.request) = history.filterMap (·.2.emitted)
  signs : ∀ entry ∈ w.signed, Signs entry.nonce w.session.origin entry.pending entry.request
  proofs : (w.signed.map fun entry => (entry.nonce, entry.request.counter)).Nodup
  counters : ∀ nonce, ((w.signed.filter (·.nonce = nonce)).map (·.request.counter)).Pairwise (· < ·)
  nonzero : ∀ entry ∈ w.signed, entry.pending.correlation ≠ 0
  /-- Any `2 ^ 32 - 1` consecutive requests of one nonce. -/
  correlations : ∀ nonce i j a b, i < j → j < i + (2 ^ 32 - 1) →
    (under w.signed nonce)[i]? = some a → (under w.signed nonce)[j]? = some b →
    a.correlation ≠ b.correlation
  single : w.session.pending.isSome → ∀ operation body configDigest secret,
    w.session.beginRequestForConfig operation body configDigest secret = .error .requestPending
  foreign : ∀ response secret,
    (∀ pending, w.session.pending = some pending →
      ¬ w.session.Authentic pending response secret) →
    (w.session.acceptResponse response secret).1 = w.session
  consumes : ∀ response secret pending, w.session.pending = some pending →
    w.session.Authentic pending response secret →
    (w.session.acceptResponse response secret).1 = { w.session with pending := none }
  once : w.consumed.Nodup ∧
    ∀ entry ∈ w.consumed, ∃ request, ⟨entry.1, entry.2, request⟩ ∈ w.signed
  answers : ∀ response secret answer,
    (w.session.acceptResponse response secret).2 = .ok answer →
    ∃ pending, w.session.pending = some pending ∧ w.session.Authentic pending response secret ∧
      response.httpStatus = 200 ∧ response.media = .nativeFrame ∧
      pending.AnsweredBy response.body answer

/-- The requests of a ledger are those its calls emitted. -/
theorem emitted_step (h : w.Step event w') :
    w'.signed.map (·.request) = w.signed.map (·.request) ++ event.2.emitted.toList := by
  obtain ⟨call, outcome⟩ := event
  have hcases := AuthenticatedHttpSession.perform_cases (of_calls h.1)
  have hperform : w.perform call = (w', outcome) := h.1
  have hsession : w.session.perform call = (w'.session, outcome) := of_calls h.1
  rw [perform, hsession] at hperform
  generalize w'.session = session' at hcases hperform
  simp only [Prod.mk.injEq, and_true] at hperform
  subst hperform
  cases hcases with
  | refused _ _ silent unbound =>
    rw [silent, Option.toList_none, List.append_nil]
    cases outcome with
    | request result =>
      cases result with
      | error error => rfl
      | ok request => cases silent
    | response result =>
      simp only
      split <;> rfl
    | abandoned had => rfl
    | rebound result => cases result <;> rfl
  | signed _ operation configDigest next request kept quiet counter signs =>
    rw [Outcome.emitted, Option.toList_some, ← List.map_singleton]
    exact List.map_append
  | answered response secret result pending found authentic =>
    simp only [Option.isNone_none, if_true]
    exact (List.append_nil _).symm
  | abandoned had => exact (List.append_nil _).symm
  | rebound nonce configDigest quiet => exact (List.append_nil _).symm

theorem emitted_of_run {session : AuthenticatedHttpSession}
    (h : Run Step (start session) history w) :
    w.signed.map (·.request) = history.filterMap (·.2.emitted) := by
  have hinitial : (start session).signed.map (·.request) =
      ([] : List (Call × Outcome)).filterMap (·.2.emitted) := rfl
  refine h.along_history
    (p := fun past w => w.signed.map (·.request) = past.filterMap (·.2.emitted)) ?_ hinitial
  intro past w event w' hstep hpast
  rw [emitted_step hstep, hpast, List.filterMap_append]
  cases hemitted : event.2.emitted <;> simp [hemitted]

/-- A session that starts a ledger. -/
theorem sound_start {session : AuthenticatedHttpSession} (hpending : session.pending = none)
    (hcorrelation : session.nextCorrelation = 1) : (start session).Sound :=
  { current := List.mem_singleton_self _
    known := by simp [start]
    signs := by simp [start]
    counters := .nil
    behind := by simp [start]
    correlations := by simp [start, under]
    upcoming := by
      show Correlates session.nextCorrelation 0
      rw [hcorrelation]
      rfl
    pending := by simp [start, hpending]
    answered := by simp [start]
    once := .nil }

/-- A session is built by `new` or by `startingAt`. -/
def Built (session : AuthenticatedHttpSession) : Prop :=
  ∃ nonce configDigest origin, session = .new nonce configDigest origin ∨
    ∃ counter, (AuthenticatedHttpSession.startingAt nonce configDigest origin counter :
      HttpResult _) = .ok session

theorem state_of_built {session : AuthenticatedHttpSession} (h : Built session) :
    session.pending = none ∧ session.nextCorrelation = 1 := by
  obtain ⟨nonce, configDigest, origin, rfl | ⟨counter, hstart⟩⟩ := h
  · exact ⟨rfl, rfl⟩
  · simp only [AuthenticatedHttpSession.startingAt, Except.bind_eq_ok, Except.exists_unit,
      Except.pure_eq_ok] at hstart
    obtain ⟨-, rfl⟩ := hstart
    exact ⟨rfl, rfl⟩

/-- Over every run of a session whose bindings are to fresh nonces, no proof is signed twice,
and an answer is accepted only for the pending request, authentically and once. -/
theorem authenticatedSession {session : AuthenticatedHttpSession} (hbuilt : Built session)
    (h : Run Step (start session) history w) : w.Disciplined history := by
  obtain ⟨hpending, hcorrelation⟩ := state_of_built hbuilt
  have hs : w.Sound := h.invariant (fun _ _ _ hstep hs => sound_step hstep hs)
    (sound_start hpending hcorrelation)
  have hcounter : ∀ entry ∈ w.signed, entry.request.counter = entry.pending.httpCounter :=
    fun entry hmem => (hs.signs entry hmem).1
  have hincreasing : w.signed.Pairwise fun a b =>
      a.nonce = b.nonce → a.request.counter < b.request.counter := by
    refine hs.counters.imp_of_mem ?_
    intro a b ha hb hlt hsame
    rw [hcounter a ha, hcounter b hb]
    exact hlt hsame
  have hcorrelates : ∀ entry ∈ w.signed, ∃ i, Correlates entry.pending.correlation i := by
    intro entry hmem
    have hunder : entry.pending ∈ under w.signed entry.nonce :=
      List.mem_map_of_mem (List.mem_filter.2 ⟨hmem, by simp⟩)
    obtain ⟨i, hi⟩ := List.mem_iff_getElem?.1 hunder
    exact ⟨i, hs.correlations entry.nonce i entry.pending hi⟩
  refine
    { emitted := emitted_of_run h
      signs := hs.signs
      proofs := ?_
      counters := ?_
      nonzero := ?_
      correlations := ?_
      single := ?_
      foreign := fun _ _ hforeign =>
        (AuthenticatedHttpSession.acceptResponse_of_foreign hforeign).1
      consumes := ?_
      once := ⟨hs.once, hs.answered⟩
      answers := fun _ _ _ => AuthenticatedHttpSession.acceptResponse_eq_ok }
  · rw [List.Nodup, List.pairwise_map]
    refine hincreasing.imp ?_
    intro a b hlt hsame
    rw [Prod.mk.injEq] at hsame
    have hless := hlt hsame.1
    rw [hsame.2] at hless
    exact UInt64.lt_irrefl _ hless
  · intro nonce
    rw [List.pairwise_map, List.pairwise_filter]
    refine hincreasing.imp ?_
    intro a b hlt ha hb
    rw [decide_eq_true_eq] at ha hb
    exact hlt (ha.trans hb.symm)
  · intro entry hmem hzero
    obtain ⟨i, hi⟩ := hcorrelates entry hmem
    rw [hzero] at hi
    cases hi
  · intro nonce i j a b hlt hnear ha hb
    exact (hs.correlations nonce i a ha).ne (hs.correlations nonce j b hb) hlt hnear
  · intro hsome operation body configDigest secret
    unfold AuthenticatedHttpSession.beginRequestForConfig
    rw [Except.failIf, if_pos hsome]
    rfl
  · intro response secret pending hpending hauthentic
    rw [AuthenticatedHttpSession.acceptResponse_of_authentic hpending hauthentic]

end Ledger

end Runs

/-! ## A rebound session -/

namespace Ledger

section Sample

open HostLibrary
open AuthenticatedHttpSession (Call Outcome)

instance [ProtocolWire] [AuthWire] (w : Ledger) (call : Call) : Decidable (w.Ready call) := by
  cases call <;> unfold Ready <;> infer_instance

def sampleNonce (byte : UInt8) : BootNonce := ⟨.replicate 16 byte⟩

def sampleSession : AuthenticatedHttpSession :=
  .new (sampleNonce 1) (.replicate 32 0x5a) ⟨"http://alumina-ui.local"⟩

/-- One request in each of two boots; no answer to the first arrives. -/
def rebindingCalls : List Call := [
    .beginRequest .graphGet [] [7], .abandonPending,
    .rebindBoot (sampleNonce 2) (.replicate 32 0x5a), .beginRequest .graphGet [] [7]]

def rebound : Ledger × List (Call × Outcome) :=
  Run.execute perform (start sampleSession) rebindingCalls

theorem rebound_run : Run Step (start sampleSession) rebound.2 rebound.1 :=
  Run.run_execute_along (p := Ready) (by decide +kernel)

theorem authenticatedSession_sample : rebound.1.Disciplined rebound.2 :=
  authenticatedSession ⟨_, _, _, Or.inl rfl⟩ rebound_run

/-- The correlations start again with every boot. -/
theorem authenticatedSession_fails :
    ¬ ∀ session history w, Built session → Run Step (start session) history w →
        ∀ (i j : Nat) (a b : SignedRequest), i < j → j < i + (2 ^ 32 - 1) →
          w.signed[i]? = some a → w.signed[j]? = some b →
          a.pending.correlation ≠ b.pending.correlation := by
  intro h
  have hcorrelations : rebound.1.signed.map (·.pending.correlation) = [1, 1] := by decide +kernel
  have hlength := congrArg List.length hcorrelations
  rw [List.length_map] at hlength
  have hfirst : rebound.1.signed[0]? = some rebound.1.signed[0] := List.getElem?_eq_getElem _
  have hsecond : rebound.1.signed[1]? = some rebound.1.signed[1] := List.getElem?_eq_getElem _
  have hdistinct := h _ _ _ ⟨_, _, _, Or.inl rfl⟩ rebound_run 0 1 _ _ (by decide) (by decide) hfirst
    hsecond
  have hone : (rebound.1.signed.map (·.pending.correlation))[0]? = some 1 := by
    rw [hcorrelations]
    rfl
  have htwo : (rebound.1.signed.map (·.pending.correlation))[1]? = some 1 := by
    rw [hcorrelations]
    rfl
  rw [List.getElem?_map, hfirst, Option.map_some, Option.some.injEq] at hone
  rw [List.getElem?_map, hsecond, Option.map_some, Option.some.injEq] at htwo
  exact hdistinct (hone.trans htwo.symm)

end Sample

end Ledger

end Alumina.Client
