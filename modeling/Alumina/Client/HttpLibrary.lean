import Alumina.Client.HttpSession
import Alumina.Client.HostLibrary

/-!
# Concrete frames and proofs

The model takes the headers of a frame and the proofs of requests and responses as parameters.
This file supplies headers of fixed-width little-endian fields, and proofs that are HMAC-SHA256
tags over length-prefixed facts. Concrete runs use them.
-/

namespace Alumina.Client.HostLibrary

open Codec
open Alumina.Graph (WireDecoder GraphWireError decodeArray decodeU8 decodeU32 decodeU64 encodeU32
  encodeU64)
open Alumina.Graph.HostLibrary (digestBytes)
open Except (failIf)

/-! ## Headers -/

/-- Every operation, at the position that is its code. -/
def operations : List Operation := [
    .storageInspect, .storageBeginUpload, .storagePutChunk, .storageFinalize, .jobPrepare,
    .jobStatus, .jobCommit, .jobConfirm, .jobLeaseRenew, .jobAbort, .jobCancel,
    .telemetrySubscribe, .telemetryStatus, .telemetryPoll, .telemetryUnsubscribe,
    .waveformConfigure, .waveformArm, .waveformStatus, .waveformRead, .waveformStop, .graphGet,
    .graphInstall, .graphActivate, .graphStart, .graphStop, .networkStatus, .networkScan,
    .networkJoin, .networkLeave, .networkRecoverAp]

def operationTag (operation : Operation) : UInt8 := .ofNat (operations.idxOf operation)

def directionTag : MessageDirection → UInt8
  | .request => 0
  | .response => 1
  | .other code => code

def directionOfTag : UInt8 → MessageDirection
  | 0 => .request
  | 1 => .response
  | code => .other code

def statusTag : StatusCode → UInt16
  | .ok => 0
  | .notFound => 1
  | .busy => 2
  | .conflict => 3
  | .deadline => 4
  | .forbiddenState => 5
  | .internal => 6
  | .unauthorized => 7
  | .unsupported => 8
  | .other code => code

def statusOfTag : UInt16 → StatusCode
  | 0 => .ok
  | 1 => .notFound
  | 2 => .busy
  | 3 => .conflict
  | 4 => .deadline
  | 5 => .forbiddenState
  | 6 => .internal
  | 7 => .unauthorized
  | 8 => .unsupported
  | code => .other code

def encodeFrameHeader (header : FrameHeader) : List UInt8 :=
  header.kind.code :: (encodeU32 header.payloadLen ++ encodeU32 header.sequence ++
    encodeU64 header.cycle ++ header.configDigest.val)

def decodeFrameHeader (maximum : UInt32) : WireDecoder FrameHeader := do
  let code ← decodeU8
  let payloadLen ← decodeU32
  failIf (maximum < payloadLen) GraphWireError.nonCanonical
  let sequence ← decodeU32
  let cycle ← decodeU64
  let configDigest ← decodeArray 32
  return ⟨⟨code⟩, payloadLen, sequence, cycle, configDigest⟩

def encodeMessageHeader (header : MessageHeader) : List UInt8 :=
  directionTag header.direction :: operationTag header.operation ::
    (encodeU32 header.correlationId ++ Graph.encodeU16 (statusTag header.status) ++
      encodeU32 header.bodyLen)

/-- The body fills the payload behind the message header, and the correlation is not zero. -/
def validateMessageHeader (header : MessageHeader) (payloadLen : UInt32) :
    Except GraphWireError Unit :=
  failIf (header.correlationId = 0 ∨ payloadLen.toNat ≠ 12 + header.bodyLen.toNat) .nonCanonical

def decodeMessageHeader (payloadLen : UInt32) : WireDecoder MessageHeader := do
  let direction ← decodeU8
  let tag ← decodeU8
  let operation ← (operations[tag.toNat]?).okOr (GraphWireError.invalidTag "operation" tag)
  let correlationId ← decodeU32
  let status ← Graph.decodeU16
  let bodyLen ← decodeU32
  let header : MessageHeader :=
    ⟨directionOfTag direction, operation, correlationId, statusOfTag status, bodyLen⟩
  (validateMessageHeader header payloadLen : Except GraphWireError Unit)
  return header

scoped instance protocolWire : ProtocolWire where
  HeaderError := GraphWireError
  MessageError := GraphWireError
  frameKind _ := ⟨1⟩
  frameWireLen := 49
  messageWireLen := 12
  encodeFrame := encodeFrameHeader
  decodeFrame bytes maximum := whole (decodeFrameHeader maximum) bytes
  requestMessage operation correlation bodyLen := ⟨.request, operation, correlation, .ok, bodyLen⟩
  validateMessage header _ payloadLen := validateMessageHeader header payloadLen
  encodeMessage := encodeMessageHeader
  decodeMessage bytes _ payloadLen := whole (decodeMessageHeader payloadLen) bytes

/-! ## Proofs -/

/-- HMAC over SHA-256. -/
def hmac (secret message : List UInt8) : List UInt8 :=
  let short := if 64 < secret.length then digestBytes secret else secret
  let key := short ++ .replicate (64 - short.length) 0
  digestBytes (key.map (· ^^^ 0x5c) ++ digestBytes (key.map (· ^^^ 0x36) ++ message))

def methodTag : HttpMethod → UInt8
  | .post => 0
  | .other code => code

def mediaTag : AuthenticatedMedia → UInt8
  | .nativeFrame => 0
  | .json => 1
  | .other code => code

/-- The facts a request proof is over. -/
def requestFacts (nonce : BootNonce) (counter : UInt64) (method : HttpMethod) (path : String)
    (origin : CorsOrigin) (body : List UInt8) : List UInt8 :=
  0 :: (nonce.asBytes.val ++ encodeU64 counter ++ [methodTag method] ++
    encodeBytes path.toUTF8.toList ++ encodeBytes origin.text.toUTF8.toList ++ encodeBytes body)

/-- The facts a response proof is over. -/
def responseFacts (nonce : BootNonce) (counter : UInt64) (httpStatus : UInt16)
    (media : AuthenticatedMedia) (origin : CorsOrigin) (body : List UInt8) : List UInt8 :=
  1 :: (nonce.asBytes.val ++ encodeU64 counter ++ Graph.encodeU16 httpStatus ++
    [mediaTag media] ++ encodeBytes origin.text.toUTF8.toList ++ encodeBytes body)

def hexDigits : List UInt8 := "0123456789abcdef".toList.map fun digit => .ofNat digit.toNat

def lowerHex (bytes : List UInt8) : List UInt8 :=
  bytes.flatMap fun byte =>
    [hexDigits.getD (byte.toNat / 16) 0, hexDigits.getD (byte.toNat % 16) 0]

def decodeHex : List Char → Option (List UInt8)
  | [] => some []
  | high :: low :: rest => do
    let high ← hexDigits.idxOf? (.ofNat high.toNat)
    let low ← hexDigits.idxOf? (.ofNat low.toNat)
    let rest ← decodeHex rest
    pure (.ofNat (16 * high + low) :: rest)
  | [_] => none

inductive AuthError where
  | malformed | unauthorized
  deriving DecidableEq, Repr

scoped instance authWire : AuthWire where
  AuthError := AuthError
  signRequest secret nonce counter method path origin body :=
    .ok ⟨counter, hmac secret (requestFacts nonce counter method path origin body)⟩
  writeLowerHex tag := .ok (lowerHex tag)
  parseRequestProof counter authorization := do
    let counter ← counter.toNat?.okOr AuthError.malformed
    failIf (counter = 0 ∨ 2 ^ 64 ≤ counter) AuthError.malformed
    let tag ← (decodeHex authorization.toList).okOr AuthError.malformed
    failIf (tag.length ≠ 32) AuthError.malformed
    pure ⟨.ofNat counter, tag⟩
  verifyResponseProof secret nonce proof httpStatus media origin body :=
    failIf (proof.tag ≠ hmac secret (responseFacts nonce proof.counter httpStatus media origin body))
      AuthError.unauthorized

end Alumina.Client.HostLibrary
