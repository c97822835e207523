import Alumina.ForStd.CheckedArith
import Alumina.ForStd.Run
import Alumina.Client.Protocol

/-!
# The authenticated HTTP session

`AuthenticatedHttpSession` signs one native request at a time and authenticates its response.
The HTTP counter, the frame sequence and the native correlation advance together when a request
is constructed, each by its own rule: the counter is checked, the sequence wraps, and the
correlation wraps and skips zero.

The frame and message headers and the proofs are made by crates that are not part of this code.
They are the parameters `ProtocolWire` and `AuthWire`.
-/

namespace Alumina.Client

open Except (failIf)
open Alumina.Graph (Digest FixedArray)

/-! ## Frames -/

structure FrameKind where
  code : UInt8
  deriving DecidableEq, Repr

/-- The universal frame header. -/
structure FrameHeader where
  kind : FrameKind
  payloadLen : UInt32
  sequence : UInt32
  cycle : UInt64
  configDigest : Digest
  deriving DecidableEq, Repr

/-- The directions of a message. `other` stands for the variants nothing here names. -/
inductive MessageDirection where
  | request | response
  | other (code : UInt8)
  deriving DecidableEq, Repr

/-- The typed message header. -/
structure MessageHeader where
  direction : MessageDirection
  operation : Operation
  correlationId : UInt32
  status : StatusCode
  bodyLen : UInt32
  deriving DecidableEq, Repr

/-- The protocol crate: the two headers of a native frame. -/
class ProtocolWire where
  HeaderError : Type
  MessageError : Type
  frameKind : Operation → FrameKind
  /-- `FrameHeader::WIRE_LEN` -/
  frameWireLen : Nat
  /-- `MessageHeader::WIRE_LEN` -/
  messageWireLen : Nat
  encodeFrame : FrameHeader → List UInt8
  decodeFrame : List UInt8 → UInt32 → Except HeaderError FrameHeader
  /-- `MessageHeader::request` -/
  requestMessage : Operation → UInt32 → UInt32 → MessageHeader
  validateMessage : MessageHeader → FrameKind → UInt32 → Except MessageError Unit
  encodeMessage : MessageHeader → List UInt8
  /-- `MessageHeader::decode_and_validate` -/
  decodeMessage : List UInt8 → FrameKind → UInt32 → Except MessageError MessageHeader

/-- `MAXIMUM_PAYLOAD_BYTES` -/
def maximumPayloadBytes : UInt32 := 64 * 1024

section Frames

variable [ProtocolWire]

/-- Failure while constructing a canonical native request frame. -/
inductive RequestEncodeError where
  | requestTooLarge
  | message (error : ProtocolWire.MessageError)

/-- Failure while validating one exact correlated native response frame. -/
inductive ResponseDecodeError where
  | truncatedResponse | responseLength
  | frame (error : ProtocolWire.HeaderError)
  | message (error : ProtocolWire.MessageError)
  | sequence | correlation | configurationIdentity

def encodeRequest (operation : Operation) (body : List UInt8) (sequence correlation : UInt32)
    (configDigest : Digest) : Except RequestEncodeError (List UInt8) := do
  failIf (2 ^ 32 ≤ body.length) .requestTooLarge
  let payload := ProtocolWire.messageWireLen + body.length
  failIf (2 ^ 32 ≤ payload ∨ maximumPayloadBytes.toNat < payload) .requestTooLarge
  let kind := ProtocolWire.frameKind operation
  let message := ProtocolWire.requestMessage operation correlation (.ofNat body.length)
  (ProtocolWire.validateMessage message kind (.ofNat payload)).mapError .message
  let frame : FrameHeader := ⟨kind, .ofNat payload, sequence, 0, configDigest⟩
  pure (ProtocolWire.encodeFrame frame ++ ProtocolWire.encodeMessage message ++ body)

def decodeResponse (encoded : List UInt8) (operation : Operation) (sequence correlation : UInt32)
    (configDigest : Digest) : Except ResponseDecodeError Response := do
  failIf (encoded.length < ProtocolWire.frameWireLen + ProtocolWire.messageWireLen)
    .truncatedResponse
  let frame ← (ProtocolWire.decodeFrame (encoded.take ProtocolWire.frameWireLen)
    maximumPayloadBytes).mapError .frame
  failIf (encoded.length ≠ ProtocolWire.frameWireLen + frame.payloadLen.toNat) .responseLength
  failIf (frame.sequence ≠ sequence) .sequence
  failIf (frame.configDigest ≠ configDigest) .configurationIdentity
  let payload := encoded.drop ProtocolWire.frameWireLen
  let message ← (ProtocolWire.decodeMessage (payload.take ProtocolWire.messageWireLen) frame.kind
    frame.payloadLen).mapError .message
  failIf (message.direction ≠ .response ∨ message.operation ≠ operation ∨
    message.correlationId ≠ correlation) .correlation
  pure ⟨message.status, payload.drop ProtocolWire.messageWireLen⟩

end Frames

/-! ## Proofs -/

/-- The public challenge of one boot. -/
structure BootNonce where
  asBytes : FixedArray UInt8 16
  deriving DecidableEq, Repr

/-- The origin of the calling document. -/
structure CorsOrigin where
  text : String
  deriving DecidableEq, Repr

inductive HttpMethod where
  | post
  | other (code : UInt8)
  deriving DecidableEq, Repr

/-- The representation of a response. `other` stands for the variants nothing here names. -/
inductive AuthenticatedMedia where
  | nativeFrame | json
  | other (code : UInt8)
  deriving DecidableEq, Repr

/-- A counter with the authentication tag over it. -/
structure RequestProof where
  counter : UInt64
  tag : List UInt8
  deriving DecidableEq, Repr

structure ResponseProof where
  counter : UInt64
  tag : List UInt8
  deriving DecidableEq, Repr

/-- The network crate: the proofs of requests and responses. -/
class AuthWire where
  AuthError : Type
  /-- Secret, nonce, counter, method, path, origin and body. -/
  signRequest : List UInt8 → BootNonce → UInt64 → HttpMethod → String → CorsOrigin →
    List UInt8 → Except AuthError RequestProof
  writeLowerHex : List UInt8 → Except AuthError (List UInt8)
  /-- Counter header and authorization header. -/
  parseRequestProof : String → String → Except AuthError RequestProof
  /-- Secret, nonce, proof, HTTP status, media, origin and body. -/
  verifyResponseProof : List UInt8 → BootNonce → ResponseProof → UInt16 → AuthenticatedMedia →
    CorsOrigin → List UInt8 → Except AuthError Unit

/-- `CONTROL_PATH` -/
def controlPath : String := "/api/v1/control"

/-! ## Sessions -/

structure PendingRequest where
  operation : Operation
  sequence : UInt32
  correlation : UInt32
  httpCounter : UInt64
  configDigest : Digest
  deriving DecidableEq, Repr

/-- One fully authenticated HTTP request ready for I/O. -/
structure AuthenticatedProtocolRequest where
  counter : UInt64
  authorization : List UInt8
  body : List UInt8
  deriving DecidableEq, Repr

/-- Exact transport facts observed from one authenticated HTTP response. -/
structure AuthenticatedProtocolResponse where
  httpStatus : UInt16
  media : AuthenticatedMedia
  counterHeader : String
  authorizationHeader : String
  body : List UInt8
  deriving DecidableEq, Repr

/-- Boot-scoped protocol and authentication state. -/
structure AuthenticatedHttpSession where
  nonce : BootNonce
  origin : CorsOrigin
  nextHttpCounter : UInt64
  nextSequence : UInt32
  nextCorrelation : UInt32
  configDigest : Digest
  pending : Option PendingRequest
  deriving DecidableEq, Repr

/-- Failure in the split-phase HTTP authentication boundary. -/
inductive HttpSessionError [ProtocolWire] [AuthWire] where
  | requestPending | noPendingRequest | counterExhausted | counterSeed
  | request (error : RequestEncodeError)
  | authentication (error : AuthWire.AuthError)
  | counterMismatch (received expected : UInt64)
  | httpStatus (status : UInt16)
  | media (media : AuthenticatedMedia)
  | response (error : ResponseDecodeError)

abbrev HttpResult [ProtocolWire] [AuthWire] := Except HttpSessionError

namespace AuthenticatedHttpSession

/-- A fresh boot-scoped session at counter and correlation one. -/
def new (nonce : BootNonce) (configDigest : Digest) (origin : CorsOrigin) :
    AuthenticatedHttpSession :=
  ⟨nonce, origin, 1, 0, 1, configDigest, none⟩

variable [ProtocolWire] [AuthWire]

/-- A fresh boot-scoped session at a caller-selected counter. -/
def startingAt (nonce : BootNonce) (configDigest : Digest) (origin : CorsOrigin)
    (initialCounter : UInt64) : HttpResult AuthenticatedHttpSession := do
  failIf (initialCounter = 0 ∨ initialCounter = .ofNat (2 ^ 64 - 1)) .counterSeed
  pure ⟨nonce, origin, initialCounter, 0, 1, configDigest, none⟩

/-- Construct one request against an explicit configuration identity. -/
def beginRequestForConfig (session : AuthenticatedHttpSession) (operation : Operation)
    (body : List UInt8) (configDigest : Digest) (secret : List UInt8) :
    HttpResult (AuthenticatedProtocolRequest × AuthenticatedHttpSession) := do
  failIf session.pending.isSome .requestPending
  let counter := session.nextHttpCounter
  let nextCounter ← (counter.checkedAdd 1).okOr .counterExhausted
  let sequence := session.nextSequence
  let correlation := session.nextCorrelation
  let body ← (encodeRequest operation body sequence correlation configDigest).mapError .request
  let proof ← (AuthWire.signRequest secret session.nonce counter .post controlPath session.origin
    body).mapError .authentication
  let authorization ← (AuthWire.writeLowerHex proof.tag).mapError .authentication
  pure (⟨counter, authorization, body⟩,
    { session with
      pending := some ⟨operation, sequence, correlation, counter, configDigest⟩
      nextHttpCounter := nextCounter
      nextSequence := session.nextSequence + 1
      nextCorrelation := max (session.nextCorrelation + 1) 1 })

/-- Construct and sign one request before I/O begins. -/
def beginRequest (session : AuthenticatedHttpSession) (operation : Operation)
    (body secret : List UInt8) :
    HttpResult (AuthenticatedProtocolRequest × AuthenticatedHttpSession) :=
  session.beginRequestForConfig operation body session.configDigest secret

/-- Authenticate a response: its proof names the pending counter and verifies. -/
def authenticate (session : AuthenticatedHttpSession) (pending : PendingRequest)
    (response : AuthenticatedProtocolResponse) (secret : List UInt8) : HttpResult Unit := do
  let parsed ← (AuthWire.parseRequestProof response.counterHeader
    response.authorizationHeader).mapError .authentication
  failIf (parsed.counter ≠ pending.httpCounter)
    (.counterMismatch parsed.counter pending.httpCounter)
  (AuthWire.verifyResponseProof secret session.nonce ⟨parsed.counter, parsed.tag⟩
    response.httpStatus response.media session.origin response.body).mapError .authentication

/-- Decode the frame of an authenticated response. -/
def openResponse (pending : PendingRequest) (response : AuthenticatedProtocolResponse) :
    HttpResult Response := do
  failIf (response.httpStatus ≠ 200) (.httpStatus response.httpStatus)
  failIf (response.media ≠ .nativeFrame) (.media response.media)
  (decodeResponse response.body pending.operation pending.sequence pending.correlation
    pending.configDigest).mapError .response

/-- Authenticate and consume one response before its native frame is decoded. -/
def acceptResponse (session : AuthenticatedHttpSession) (response : AuthenticatedProtocolResponse)
    (secret : List UInt8) : AuthenticatedHttpSession × HttpResult Response :=
  match session.pending with
  | none => (session, .error .noPendingRequest)
  | some pending =>
    match session.authenticate pending response secret with
    | .error error => (session, .error error)
    | .ok () => ({ session with pending := none }, openResponse pending response)

/-- Resolve an ambiguous transport without reusing its spent counter. -/
def abandonPending (session : AuthenticatedHttpSession) : AuthenticatedHttpSession × Bool :=
  ({ session with pending := none }, session.pending.isSome)

/-- Rebind all boot-scoped state after fetching a new public challenge. -/
def rebindBoot (session : AuthenticatedHttpSession) (nonce : BootNonce) (configDigest : Digest) :
    HttpResult AuthenticatedHttpSession := do
  failIf session.pending.isSome .requestPending
  pure (new nonce configDigest session.origin)

/-! ## Calls -/

/-- A call on the session. -/
inductive Call where
  | beginRequest (operation : Operation) (body secret : List UInt8)
  | beginRequestForConfig (operation : Operation) (body : List UInt8) (configDigest : Digest)
      (secret : List UInt8)
  | acceptResponse (response : AuthenticatedProtocolResponse) (secret : List UInt8)
  | abandonPending
  | rebindBoot (nonce : BootNonce) (configDigest : Digest)

/-- What a call returned. -/
inductive Outcome where
  | request (result : HttpResult AuthenticatedProtocolRequest)
  | response (result : HttpResult Response)
  | abandoned (had : Bool)
  | rebound (result : HttpResult Unit)

/-- A request that failed to be constructed left the session as it was. -/
def requested (session : AuthenticatedHttpSession) :
    HttpResult (AuthenticatedProtocolRequest × AuthenticatedHttpSession) →
      AuthenticatedHttpSession × Outcome
  | .ok (request, session) => (session, .request (.ok request))
  | .error error => (session, .request (.error error))

def perform (session : AuthenticatedHttpSession) : Call → AuthenticatedHttpSession × Outcome
  | .beginRequest operation body secret =>
    session.requested (session.beginRequest operation body secret)
  | .beginRequestForConfig operation body configDigest secret =>
    session.requested (session.beginRequestForConfig operation body configDigest secret)
  | .acceptResponse response secret =>
    let (session, result) := session.acceptResponse response secret
    (session, .response result)
  | .abandonPending =>
    let (session, had) := session.abandonPending
    (session, .abandoned had)
  | .rebindBoot nonce configDigest =>
    match session.rebindBoot nonce configDigest with
    | .ok session => (session, .rebound (.ok ()))
    | .error error => (session, .rebound (.error error))

/-- One call on the session. -/
abbrev Step : AuthenticatedHttpSession → Call × Outcome → AuthenticatedHttpSession → Prop :=
  Run.Calls perform

end AuthenticatedHttpSession

end Alumina.Client
