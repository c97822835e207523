import Alumina.Client.HttpLibrary
import Alumina.Client.ProtocolClient

/-!
# Which answer belongs to which request

The requests of a client that reach its transport are told apart by their sequence and
correlation. The counters advance when a request is answered, so a request that is sent after an
unanswered one repeats its numbers.

## Key results

- `exchanges_numbered`: while requests are answered their sequences count up
- `separated_iff`: requests are told apart exactly when all before the last are answered
-/

namespace Alumina.Client.ProtocolClient

open Alumina.Graph (Digest)

/-! ## Exchanges -/

section Exchanges

variable {T : Type} [Transport T] [ProtocolWire]

/-- A request that reached the transport, with what the transport answered. -/
structure Exchange (T : Type) [Transport T] where
  operation : Operation
  sequence : UInt32
  correlation : UInt32
  configDigest : Digest
  answer : Except (Transport.Error T) (List UInt8)

namespace Exchange

/-- The pair that tells a request from others. -/
def identity (exchange : Exchange T) : UInt32 × UInt32 := (exchange.sequence, exchange.correlation)

/-- A frame whose two headers answer the request. -/
def IsAnswer (exchange : Exchange T) (frame : List UInt8) : Prop :=
  ∃ header message,
    ProtocolWire.frameWireLen + ProtocolWire.messageWireLen ≤ frame.length ∧
      ProtocolWire.decodeFrame (frame.take ProtocolWire.frameWireLen) maximumPayloadBytes =
        .ok header ∧
      frame.length = ProtocolWire.frameWireLen + header.payloadLen.toNat ∧
      header.sequence = exchange.sequence ∧ header.configDigest = exchange.configDigest ∧
      ProtocolWire.decodeMessage
        ((frame.drop ProtocolWire.frameWireLen).take ProtocolWire.messageWireLen) header.kind
          header.payloadLen = .ok message ∧
      message.direction = .response ∧ message.operation = exchange.operation ∧
        message.correlationId = exchange.correlation

/-- The transport answered the request. -/
def Answered (exchange : Exchange T) : Prop :=
  ∃ frame, exchange.answer = .ok frame ∧ exchange.IsAnswer frame

/-- The result of taking a frame for the answer of the request. -/
def decode (exchange : Exchange T) (frame : List UInt8) : Except ResponseDecodeError Response :=
  decodeResponse frame exchange.operation exchange.sequence exchange.correlation
    exchange.configDigest

/-- A frame is accepted exactly when it answers the request. -/
theorem decode_eq_ok {exchange : Exchange T} {frame : List UInt8} :
    (∃ response, exchange.decode frame = .ok response) ↔ exchange.IsAnswer frame := by
  simp only [decode, decodeResponse, Except.bind_eq_ok, Except.exists_unit, Except.failIf_eq_ok,
    Except.mapError_eq_ok, Except.pure_eq_ok, not_lt, not_not, not_or, IsAnswer]
  constructor
  · rintro ⟨_, hlong, header, hframe, hlength, hsequence, hdigest, message, hmessage,
      ⟨hdirection, hoperation, hcorrelation⟩, -⟩
    exact ⟨header, message, hlong, hframe, hlength, hsequence, hdigest, hmessage, hdirection,
      hoperation, hcorrelation⟩
  · rintro ⟨header, message, hlong, hframe, hlength, hsequence, hdigest, hmessage, hdirection,
      hoperation, hcorrelation⟩
    exact ⟨_, hlong, header, hframe, hlength, hsequence, hdigest, message, hmessage,
      ⟨hdirection, hoperation, hcorrelation⟩, rfl⟩

end Exchange

variable {client : ProtocolClient T} {operation : Operation} {body : List UInt8}
  {sent : Exchange T} {events : List (Event T)}

/-- The exchange of a request, if it was encoded. -/
def exchangeOf (client : ProtocolClient T) (operation : Operation) (body : List UInt8) :
    Option (Exchange T) :=
  match encodeRequest operation body client.nextSequence client.nextCorrelation
      client.configDigest with
  | .error _ => none
  | .ok request => some ⟨operation, client.nextSequence, client.nextCorrelation,
      client.configDigest, (Transport.exchange client.transport request).2⟩

/-- The exchanges of a run, in order. -/
def exchanges (client : ProtocolClient T) : List (Event T) → List (Exchange T)
  | [] => []
  | .request operation body :: events =>
    (client.exchangeOf operation body).toList ++ (client.request operation body).1.exchanges events
  | .transportMut transport :: events => { client with transport }.exchanges events

/-- Every exchange has an identity of its own, and no answer to an earlier request is taken for
the answer to a later one. -/
def Separated (exchanges : List (Exchange T)) : Prop :=
  (exchanges.map Exchange.identity).Nodup ∧
    exchanges.Pairwise fun earlier later =>
      ∀ frame, earlier.IsAnswer frame → ∀ response, later.decode frame ≠ .ok response

/-! ## Counters -/

/-- A request that does not reach the transport changes nothing. -/
theorem request_of_unsent (h : client.exchangeOf operation body = none) :
    (client.request operation body).1 = client := by
  unfold exchangeOf at h
  unfold request
  dsimp only
  cases hencode : encodeRequest operation body client.nextSequence client.nextCorrelation
      client.configDigest with
  | error error => rfl
  | ok request =>
    rw [hencode] at h
    cases h

/-- An exchange carries the counters of the client. -/
theorem exchangeOf_identity (h : client.exchangeOf operation body = some sent) :
    sent.identity = (client.nextSequence, client.nextCorrelation) := by
  unfold exchangeOf at h
  split at h
  · cases h
  · cases h
    rfl

/-- The counters advance exactly when a request is answered. -/
theorem request_counters (h : client.exchangeOf operation body = some sent) :
    (sent.Answered ∧
      (client.request operation body).1.nextSequence = client.nextSequence + 1) ∨
      (¬ sent.Answered ∧
        (client.request operation body).1.nextSequence = client.nextSequence ∧
          (client.request operation body).1.nextCorrelation = client.nextCorrelation) := by
  unfold exchangeOf at h
  unfold request
  split at h
  · cases h
  next request hencode =>
  cases h
  dsimp only
  rw [hencode]
  dsimp only
  cases hanswer : (Transport.exchange client.transport request).2 with
  | error error =>
    refine Or.inr ⟨?_, rfl, rfl⟩
    rintro ⟨frame, hframe, -⟩
    cases hframe
  | ok frame =>
    dsimp only
    cases hdecode : decodeResponse frame operation client.nextSequence client.nextCorrelation
        client.configDigest with
    | error error =>
      refine Or.inr ⟨?_, rfl, rfl⟩
      rintro ⟨other, hother, hanswers⟩
      cases hother
      obtain ⟨response, hresponse⟩ := Exchange.decode_eq_ok.2 hanswers
      have hsame := hdecode.symm.trans hresponse
      cases hsame
    | ok response =>
      exact Or.inl ⟨⟨frame, rfl, Exchange.decode_eq_ok.1 ⟨response, hdecode⟩⟩, rfl⟩

/-- The next exchange carries the counters of the client. -/
theorem exchanges_head (h : (client.exchanges events).head? = some sent) :
    sent.identity = (client.nextSequence, client.nextCorrelation) := by
  induction events generalizing client with
  | nil => cases h
  | cons event events ih =>
    cases event with
    | transportMut transport =>
      have hhead : (({ client with transport } : ProtocolClient T).exchanges events).head? =
          some sent := h
      have hidentity := ih hhead
      exact hidentity
    | request operation body =>
      rw [exchanges] at h
      cases hexchange : client.exchangeOf operation body with
      | none =>
        rw [hexchange, request_of_unsent hexchange] at h
        exact ih h
      | some first =>
        rw [hexchange] at h
        cases h
        exact exchangeOf_identity hexchange

/-- There are no more exchanges than requests. -/
theorem exchanges_length : (client.exchanges events).length ≤ events.countP Event.isRequest := by
  induction events generalizing client with
  | nil => exact le_rfl
  | cons event events ih =>
    cases event with
    | transportMut transport =>
      rw [List.countP_cons_of_neg (by simp [Event.isRequest])]
      exact ih
    | request operation body =>
      have hone : (client.exchangeOf operation body).toList.length ≤ 1 := by
        cases client.exchangeOf operation body <;> simp
      have hrest : ((client.request operation body).1.exchanges events).length ≤
          events.countP Event.isRequest := ih
      rw [exchanges, List.length_append, List.countP_cons_of_pos (by simp [Event.isRequest])]
      omega

/-- While requests are answered their sequences count up. -/
theorem exchanges_numbered
    (hanswered : ∀ sent ∈ (client.exchanges events).dropLast, sent.Answered)
    (hbound : client.nextSequence.toNat + (client.exchanges events).length ≤ 2 ^ 32) :
    (client.exchanges events).map (·.sequence.toNat) =
      List.range' client.nextSequence.toNat (client.exchanges events).length := by
  induction events generalizing client with
  | nil => rfl
  | cons event events ih =>
    cases event with
    | transportMut transport => exact ih hanswered hbound
    | request operation body =>
      rw [exchanges] at hanswered hbound ⊢
      cases hexchange : client.exchangeOf operation body with
      | none =>
        rw [hexchange, request_of_unsent hexchange] at hanswered hbound
        rw [request_of_unsent hexchange]
        exact ih hanswered hbound
      | some first =>
        have hfirst : first.sequence = client.nextSequence :=
          congrArg Prod.fst (exchangeOf_identity hexchange)
        rw [hexchange] at hanswered hbound
        simp only [Option.toList_some, List.singleton_append, List.length_cons] at hanswered hbound
        simp only [Option.toList_some, List.singleton_append, List.length_cons, List.map_cons,
          hfirst, List.range'_succ]
        congr 1
        cases hrest : (client.request operation body).1.exchanges events with
        | nil => rfl
        | cons second rest =>
          rw [hrest, List.dropLast_cons_cons] at hanswered
          -- Another exchange follows, so this one was answered.
          rcases request_counters hexchange with ⟨-, hnext⟩ | ⟨hunanswered, -⟩
          · rw [← hrest]
            have hlength : 1 ≤ ((client.request operation body).1.exchanges events).length := by
              rw [hrest]
              simp
            have hvalue : (client.request operation body).1.nextSequence.toNat =
                client.nextSequence.toNat + 1 := by
              rw [hnext, UInt32.toNat_add]
              exact Nat.mod_eq_of_lt (by simp; omega)
            have hcount := ih
              (fun other hother => hanswered other (by rw [← hrest]; exact .tail _ hother))
              (by omega)
            rw [hcount, hvalue]
          · exact absurd (hanswered first List.mem_cons_self) hunanswered

/-- After an unanswered request the next one repeats its identity. -/
theorem answered_of_nodup (h : ((client.exchanges events).map Exchange.identity).Nodup) :
    ∀ sent ∈ (client.exchanges events).dropLast, sent.Answered := by
  induction events generalizing client with
  | nil => nofun
  | cons event events ih =>
    cases event with
    | transportMut transport => exact ih h
    | request operation body =>
      rw [exchanges] at h ⊢
      cases hexchange : client.exchangeOf operation body with
      | none =>
        rw [hexchange, request_of_unsent hexchange] at h
        rw [request_of_unsent hexchange]
        exact ih h
      | some first =>
        rw [hexchange] at h
        simp only [Option.toList_some, List.singleton_append, List.map_cons,
          List.nodup_cons] at h ⊢
        cases hrest : (client.request operation body).1.exchanges events with
        | nil => nofun
        | cons second rest =>
          rw [List.dropLast_cons_cons]
          intro other hother
          rcases List.mem_cons.1 hother with rfl | hother
          · rcases request_counters hexchange with ⟨hanswered, -⟩ | ⟨-, hsequence, hcorrelation⟩
            · exact hanswered
            · have hsecond : second.identity = other.identity := by
                rw [exchangeOf_identity hexchange, exchanges_head (by rw [hrest]; rfl), hsequence,
                  hcorrelation]
              have hmem : other.identity ∈ ((client.request operation body).1.exchanges events).map
                  Exchange.identity := by
                rw [hrest, ← hsecond]
                exact List.mem_cons_self
              exact absurd hmem h.1
          · exact ih h.2 other (hrest ▸ hother)

/-! ## Separation -/

/-- Requests with different identities do not share an answer. -/
theorem not_decode_of_identity {earlier later : Exchange T} {frame : List UInt8}
    (hne : earlier.identity ≠ later.identity) (h : earlier.IsAnswer frame) (response : Response) :
    later.decode frame ≠ .ok response := by
  intro hdecode
  obtain ⟨header, message, -, hframe, -, hsequence, -, hmessage, -, -, hcorrelation⟩ := h
  obtain ⟨header', message', -, hframe', -, hsequence', -, hmessage', -, -, hcorrelation'⟩ :=
    Exchange.decode_eq_ok.1 ⟨response, hdecode⟩
  rw [hframe] at hframe'
  cases hframe'
  rw [hmessage] at hmessage'
  cases hmessage'
  exact hne (Prod.ext (hsequence.symm.trans hsequence') (hcorrelation.symm.trans hcorrelation'))

/-- In a run of fewer than `2^32 - 1` requests no answer is taken for another request exactly when
every request that reached the transport, but the last, was answered. -/
theorem separated_iff (transport : T) (configDigest : Digest) (events : List (Event T))
    (hcount : events.countP Event.isRequest < 2 ^ 32 - 1) :
    Separated ((new transport configDigest).exchanges events) ↔
      ∀ sent ∈ ((new transport configDigest).exchanges events).dropLast,
        sent.Answered := by
  constructor
  · intro h
    exact answered_of_nodup h.1
  · intro h
    have hlength : ((new transport configDigest).exchanges events).length ≤
        events.countP Event.isRequest := exchanges_length
    have hstart : (new transport configDigest).nextSequence.toNat = 0 := rfl
    have hnumbered := exchanges_numbered h (by rw [hstart]; omega)
    have hsequences : (((new transport configDigest).exchanges events).map
        (·.sequence.toNat)).Nodup := by
      rw [hnumbered]
      exact List.nodup_range'
    have hidentities : (((new transport configDigest).exchanges events).map
        Exchange.identity).Nodup := by
      apply List.Nodup.of_map fun identity => identity.1.toNat
      rw [List.map_map]
      exact hsequences
    refine ⟨hidentities, ?_⟩
    rw [List.Nodup, List.pairwise_map] at hidentities
    exact hidentities.imp fun hne frame hanswer => not_decode_of_identity hne hanswer

end Exchanges

/-! ## A late answer -/

section Sample

open Alumina.Client.HostLibrary

/-- A transport that answers from a script, and with nothing at its end. -/
structure Script where
  answers : List (Option (List UInt8))

instance : Transport Script where
  Error := Unit
  exchange script _ :=
    (⟨script.answers.tail⟩,
      match script.answers.head? with
      | some (some frame) => .ok frame
      | _ => .error ())

/-- The frame a device answers a request with. -/
def answerFrame (operation : Operation) (sequence correlation : UInt32) (body : List UInt8) :
    List UInt8 :=
  encodeFrameHeader ⟨⟨1⟩, .ofNat (12 + body.length), sequence, 0, .replicate 32 0⟩ ++
    encodeMessageHeader ⟨.response, operation, correlation, .ok, .ofNat body.length⟩ ++ body

def sampleRequests : List (Event Script) :=
  [.request .jobStatus [1], .request .jobStatus [2], .request .jobStatus [3]]

/-- The first answer is late: the transport gives up, and returns it to the second request. -/
def lateScript : Script := ⟨[none, some (answerFrame .jobStatus 0 1 [1])]⟩

def promptScript : Script :=
  ⟨[some (answerFrame .jobStatus 0 1 [1]), some (answerFrame .jobStatus 1 2 [2])]⟩

/-- Requests that are answered in time are told apart. -/
theorem separated_sample :
    Separated ((new promptScript (.replicate 32 0)).exchanges sampleRequests) := by
  have hprompt : ((new promptScript (.replicate 32 0)).exchanges sampleRequests).dropLast.all
      fun sent => match sent.answer with
        | .ok frame => (sent.decode frame).isOk
        | .error _ => false := by decide +kernel
  apply (separated_iff promptScript (.replicate 32 0) sampleRequests (by decide)).2
  intro sent hsent
  have hok := List.all_eq_true.1 hprompt sent hsent
  cases hanswer : sent.answer with
  | error error =>
    rw [hanswer] at hok
    cases hok
  | ok frame =>
    rw [hanswer] at hok
    exact ⟨frame, hanswer, Exchange.decode_eq_ok.1 (Except.isOk_iff_exists.1 hok)⟩

/-- The late answer to the first request is the result of the second one. -/
theorem late_answer : ∃ response,
    ¬ Separated ((new lateScript (.replicate 32 0)).exchanges sampleRequests) ∧
      (((new lateScript (.replicate 32 0)).request .jobStatus [1]).1.request .jobStatus [2]).2 =
        .ok response ∧ response.body = [1] := by
  have hbody : ((((new lateScript (.replicate 32 0)).request .jobStatus [1]).1.request .jobStatus
      [2]).2.toOption.map (·.body)) = some [1] := by decide +kernel
  have hidentities : ((new lateScript (.replicate 32 0)).exchanges sampleRequests).map
      Exchange.identity = [(0, 1), (0, 1), (1, 2)] := by decide +kernel
  rw [Option.map_eq_some_iff] at hbody
  obtain ⟨response, hresponse, hbody⟩ := hbody
  refine ⟨response, ?_, Except.toOption_eq_some.1 hresponse, hbody⟩
  rintro ⟨hnodup, -⟩
  rw [hidentities] at hnodup
  exact absurd hnodup (by decide)

end Sample

end Alumina.Client.ProtocolClient
