import Alumina.Client.HttpSession

/-!
# The headless protocol client

`ProtocolClient` sends one framed request at a time over an injected byte transport and accepts
only the frame that answers it. The sequence wraps, and the correlation wraps and skips zero.
-/

namespace Alumina.Client

open Alumina.Graph (Digest)

/-- A request/response byte transport. -/
class Transport (T : Type) where
  Error : Type
  /-- Exchange exactly one framed request for exactly one framed response. -/
  exchange : T → List UInt8 → T × Except Error (List UInt8)

/-- Headless native client over an injected byte transport. -/
structure ProtocolClient (T : Type) where
  transport : T
  nextSequence : UInt32
  nextCorrelation : UInt32
  configDigest : Digest

/-- Failure before a response may influence client state. -/
inductive ClientError (T : Type) [Transport T] [ProtocolWire] where
  | transport (error : Transport.Error T)
  | request (error : RequestEncodeError)
  | response (error : ResponseDecodeError)

namespace ProtocolClient

variable {T : Type}

/-- Bind a transport and the active configuration identity. -/
def new (transport : T) (configDigest : Digest) : ProtocolClient T :=
  ⟨transport, 0, 1, configDigest⟩

variable [Transport T] [ProtocolWire]

/-- Send one typed operation with an opaque canonical body. -/
def request (client : ProtocolClient T) (operation : Operation) (body : List UInt8) :
    ProtocolClient T × Except (ClientError T) Response :=
  let correlation := client.nextCorrelation
  let sequence := client.nextSequence
  match encodeRequest operation body sequence correlation client.configDigest with
  | .error error => (client, .error (.request error))
  | .ok request =>
    let (transport, exchanged) := Transport.exchange client.transport request
    let client := { client with transport }
    match exchanged with
    | .error error => (client, .error (.transport error))
    | .ok response =>
      match decodeResponse response operation sequence correlation client.configDigest with
      | .error error => (client, .error (.response error))
      | .ok decoded =>
        ({ client with
            nextSequence := client.nextSequence + 1
            nextCorrelation := max (client.nextCorrelation + 1) 1 },
          .ok decoded)

/-- What a caller does with a client: it sends requests, and it may change the transport. -/
inductive Event (T : Type) where
  | request (operation : Operation) (body : List UInt8)
  | transportMut (transport : T)

def Event.isRequest : Event T → Bool
  | .request _ _ => true
  | .transportMut _ => false

end ProtocolClient

end Alumina.Client
