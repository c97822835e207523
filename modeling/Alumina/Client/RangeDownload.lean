import Alumina.ForStd.Run
import Alumina.Client.Protocol

/-!
# Range downloads

`CapabilityDownloadMachine` and `VisualAssetDownloadMachine` assemble an object from the ranges a
device returns. The first range pins the identity of the object, each range goes behind the bytes
received so far, and the last one is accepted only when the whole object is the one named.

The range bodies and the canonical capability document belong to a crate that is not part of this
code. They are the parameter `CapabilityWire`. Whether memory can be reserved for an object is an
input of the call that reserves it.
-/

namespace Alumina.Client

open Except (failIf)
open Alumina.Graph (Digest FixedArray Sha256)

/-! ## Ranges -/

structure CapabilityIdentity where
  byteLen : UInt32
  digest : Digest
  deriving DecidableEq, Repr

structure CapabilityReadRequest where
  expectedDigest : Digest
  offset : UInt32
  maximumBytes : UInt16
  deriving DecidableEq, Repr

structure CapabilityReadResponse where
  identity : CapabilityIdentity
  offset : UInt32
  chunkLen : UInt16
  complete : Bool
  deriving DecidableEq, Repr

structure VisualAssetIdentity where
  byteLen : UInt32
  digest : Digest
  deriving DecidableEq, Repr

structure VisualAssetReadRequest where
  capabilityDigest : Digest
  assetDigest : Digest
  offset : UInt32
  maximumBytes : UInt16
  deriving DecidableEq, Repr

structure VisualAssetReadResponse where
  capabilityDigest : Digest
  asset : VisualAssetIdentity
  offset : UInt32
  chunkLen : UInt16
  complete : Bool
  deriving DecidableEq, Repr

/-- The capability crate: range bodies and canonical documents. -/
class CapabilityWire where
  WireError : Type
  DocumentError : Type
  /-- `BoardCapabilityLimits` -/
  Limits : Type
  maximumDocumentBytes : Limits → UInt32
  /-- `BoardCapabilityView` -/
  View : Type
  viewIdentity : View → CapabilityIdentity
  /-- `CAPABILITY_DOCUMENT_HEADER_BYTES` -/
  documentHeaderBytes : UInt32
  /-- `MAX_CAPABILITY_CHUNK_BYTES` -/
  maxCapabilityChunkBytes : UInt32
  /-- `MAX_VISUAL_ASSET_CHUNK_BYTES` -/
  maxVisualAssetChunkBytes : UInt32
  encodeCapabilityRead : CapabilityReadRequest → Except WireError (List UInt8)
  decodeCapabilityRead : List UInt8 → Except WireError (CapabilityReadResponse × List UInt8)
  encodeVisualAssetRead : VisualAssetReadRequest → Except WireError (List UInt8)
  decodeVisualAssetRead : List UInt8 → Except WireError (VisualAssetReadResponse × List UInt8)
  decodeBoardCapability : List UInt8 → Limits → Except DocumentError View

/-- A chunk limit is positive and fits the 16 bits of a range request. -/
class LawfulCapabilityWire [CapabilityWire] : Prop where
  capabilityChunk : 0 < CapabilityWire.maxCapabilityChunkBytes ∧
    CapabilityWire.maxCapabilityChunkBytes < 2 ^ 16
  visualAssetChunk : 0 < CapabilityWire.maxVisualAssetChunkBytes ∧
    CapabilityWire.maxVisualAssetChunkBytes < 2 ^ 16

/-! ## The buffer -/

/-- What both machines keep of an object. -/
structure RangeBuffer (I : Type) where
  identity : Option I
  bytes : List UInt8
  receivedBytes : UInt32
  complete : Bool
  deriving DecidableEq

inductive DownloadPhase where
  | discovering | downloading | complete
  deriving DecidableEq, Repr

namespace RangeBuffer

variable {I ε : Type}

def empty : RangeBuffer I := ⟨none, [], 0, false⟩

def phase (buffer : RangeBuffer I) : DownloadPhase :=
  if buffer.complete then .complete
  else if buffer.identity.isSome then .downloading
  else .discovering

/-- The bytes, unavailable before completion. -/
def exposed (buffer : RangeBuffer I) : Option (List UInt8) :=
  if buffer.complete then some buffer.bytes else none

/-- How many bytes are still to be requested: one chunk while nothing is known. -/
def remaining (byteLen : I → UInt32) (chunk : UInt32) (buffer : RangeBuffer I) : UInt32 :=
  match buffer.identity with
  | none => chunk
  | some identity =>
    if byteLen identity ≤ buffer.receivedBytes then 0
    else byteLen identity - buffer.receivedBytes

/-- The first admitted response reserves the object and pins its identity. -/
def pin (byteLen : I → UInt32) (identity : I) (buffer : RangeBuffer I) : RangeBuffer I :=
  if buffer.identity.isNone then
    { buffer with
      bytes := .replicate (byteLen identity).toNat 0
      identity := some identity }
  else buffer

/-- Copy a chunk behind the bytes received so far, without counting it. -/
def write (chunk : List UInt8) (buffer : RangeBuffer I) : RangeBuffer I :=
  let start := buffer.receivedBytes.toNat
  { buffer with
    bytes := buffer.bytes.take start ++ (chunk ++ buffer.bytes.drop (start + chunk.length)) }

/-- Put the chunk of an admitted response behind the bytes received so far. -/
def store (byteLen : I → UInt32) (allocation range : ε) (verify : List UInt8 → Except ε Unit)
    (identity : I) (chunk : List UInt8) (complete reserved : Bool) (buffer : RangeBuffer I) :
    RangeBuffer I × Except ε Unit :=
  if buffer.identity.isNone ∧ ¬ reserved then (buffer, .error allocation)
  else
    let buffer := buffer.pin byteLen identity
    let stop := buffer.receivedBytes.toNat + chunk.length
    if buffer.bytes.length < stop then (buffer, .error range)
    else
      let buffer := buffer.write chunk
      if 2 ^ 32 ≤ stop then (buffer, .error range)
      else
        let receivedBytes := UInt32.ofNat stop
        if complete then
          if receivedBytes ≠ byteLen identity then (buffer, .error range)
          else
            match verify buffer.bytes with
            | .error error => (buffer, .error error)
            | .ok () => ({ buffer with receivedBytes, complete := true }, .ok ())
        else if byteLen identity ≤ receivedBytes then (buffer, .error range)
        else ({ buffer with receivedBytes }, .ok ())

end RangeBuffer

/-! ## Capability documents -/

section Capability

variable [CapabilityWire]

/-- One side-effect-free capability range; its operation is always the capability read. -/
structure CapabilityOperation where
  body : List UInt8
  deriving DecidableEq, Repr

inductive CapabilityDownloadError where
  | limit | allocation
  | wire (error : CapabilityWire.WireError)
  | document (error : CapabilityWire.DocumentError)
  | deviceStatus (status : StatusCode)
  | responseBody | identity | range | requestPending | noPendingRequest | incomplete

/-- Retry-safe, contiguous capability document assembler. -/
structure CapabilityDownloadMachine extends RangeBuffer CapabilityIdentity where
  limits : CapabilityWire.Limits
  pending : Option CapabilityReadRequest

namespace CapabilityDownloadMachine

def new (limits : CapabilityWire.Limits) :
    Except CapabilityDownloadError CapabilityDownloadMachine := do
  failIf (CapabilityWire.maximumDocumentBytes limits < CapabilityWire.documentHeaderBytes) .limit
  pure ⟨.empty, limits, none⟩

/-- Complete independently validated bytes. -/
def document (machine : CapabilityDownloadMachine) : Option (List UInt8) := machine.exposed

/-- Re-decode the complete canonical board document. -/
def capability (machine : CapabilityDownloadMachine) :
    Except CapabilityDownloadError CapabilityWire.View := do
  failIf (¬ machine.complete) .incomplete
  let view ← (CapabilityWire.decodeBoardCapability machine.bytes machine.limits).mapError .document
  failIf (some (CapabilityWire.viewIdentity view) ≠ machine.identity) .identity
  pure view

/-- Emit the unique next contiguous range request. -/
def nextRequest (machine : CapabilityDownloadMachine) :
    CapabilityDownloadMachine × Except CapabilityDownloadError (Option CapabilityOperation) :=
  let chunk := CapabilityWire.maxCapabilityChunkBytes
  let remaining := machine.remaining CapabilityIdentity.byteLen chunk
  if machine.pending.isSome then (machine, .error .requestPending)
  else if machine.complete then (machine, .ok none)
  else if remaining = 0 then (machine, .error .range)
  else
    let request : CapabilityReadRequest :=
      { expectedDigest := (machine.identity.map (·.digest)).getD (.replicate 32 0)
        offset := machine.receivedBytes
        maximumBytes := .ofNat (min remaining chunk).toNat }
    match CapabilityWire.encodeCapabilityRead request with
    | .error error => (machine, .error (.wire error))
    | .ok body => ({ machine with pending := some request }, .ok (some ⟨body⟩))

/-- A response names the pinned identity; without one the request named none. -/
def admitIdentity (machine : CapabilityDownloadMachine) (request : CapabilityReadRequest)
    (received : CapabilityIdentity) : Except CapabilityDownloadError Unit :=
  match machine.identity with
  | some identity =>
    failIf (received ≠ identity ∨ request.expectedDigest ≠ identity.digest) .identity
  | none => failIf (¬ request.expectedDigest.isZero) .identity

/-- The checks of a response before anything is retained of it. -/
def admitRange (machine : CapabilityDownloadMachine) (request : CapabilityReadRequest)
    (response : Response) :
    Except CapabilityDownloadError (CapabilityReadResponse × List UInt8) := do
  failIf (response.status ≠ .ok ∧ response.body.isEmpty) (.deviceStatus response.status)
  failIf (response.status ≠ .ok) .responseBody
  failIf (response.body.isEmpty) .responseBody
  let (metadata, chunk) ← (CapabilityWire.decodeCapabilityRead response.body).mapError .wire
  failIf (metadata.offset ≠ request.offset ∨ metadata.offset ≠ machine.receivedBytes ∨
    request.maximumBytes < metadata.chunkLen) .range
  failIf (CapabilityWire.maximumDocumentBytes machine.limits < metadata.identity.byteLen) .limit
  machine.admitIdentity request metadata.identity
  pure (metadata, chunk)

/-- The complete bytes decode to the document named. -/
def verify (machine : CapabilityDownloadMachine) (identity : CapabilityIdentity)
    (bytes : List UInt8) : Except CapabilityDownloadError Unit := do
  let view ← (CapabilityWire.decodeBoardCapability bytes machine.limits).mapError .document
  failIf (CapabilityWire.viewIdentity view ≠ identity) .identity

/-- Apply one already authenticated and correlated range response. -/
def acceptResponse (machine : CapabilityDownloadMachine) (response : Response) (reserved : Bool) :
    CapabilityDownloadMachine × Except CapabilityDownloadError Unit :=
  match machine.pending with
  | none => (machine, .error .noPendingRequest)
  | some request =>
    let machine := { machine with pending := none }
    match machine.admitRange request response with
    | .error error => (machine, .error error)
    | .ok (metadata, chunk) =>
      let (buffer, result) := machine.store CapabilityIdentity.byteLen .allocation .range
        (machine.verify metadata.identity) metadata.identity chunk metadata.complete reserved
      ({ machine with toRangeBuffer := buffer }, result)

def abandonPending (machine : CapabilityDownloadMachine) : CapabilityDownloadMachine × Bool :=
  ({ machine with pending := none }, machine.pending.isSome)

/-- Invalidate every retained byte and restart digest discovery. -/
def reset (machine : CapabilityDownloadMachine) : CapabilityDownloadMachine :=
  { machine with toRangeBuffer := .empty, pending := none }

end CapabilityDownloadMachine

end Capability

/-! ## Visual assets -/

section VisualAsset

variable [CapabilityWire]

/-- One side-effect-free visual range; its operation is always the visual read. -/
structure VisualAssetOperation where
  body : List UInt8
  deriving DecidableEq, Repr

inductive VisualAssetDownloadError where
  | limit | requestPending | noPendingRequest
  | wire (error : CapabilityWire.WireError)
  | deviceStatus (status : StatusCode)
  | responseBody | identity | range | allocation | digest

/-- Retry-safe contiguous downloader for one exact capability visual digest. -/
structure VisualAssetDownloadMachine extends RangeBuffer VisualAssetIdentity where
  capabilityDigest : Digest
  expectedAssetDigest : Digest
  maximumAssetBytes : UInt32
  pending : Option VisualAssetReadRequest

namespace VisualAssetDownloadMachine

def new (capabilityDigest expectedAssetDigest : Digest) (maximumAssetBytes : UInt32) :
    Except VisualAssetDownloadError VisualAssetDownloadMachine := do
  failIf (capabilityDigest.isZero ∨ expectedAssetDigest.isZero ∨ maximumAssetBytes = 0) .limit
  pure ⟨.empty, capabilityDigest, expectedAssetDigest, maximumAssetBytes, none⟩

/-- Complete independently hash-verified bytes. -/
def asset (machine : VisualAssetDownloadMachine) : Option (List UInt8) := machine.exposed

/-- Emit the unique next contiguous range request. The request is pending even when it cannot be
encoded. -/
def nextRequest (machine : VisualAssetDownloadMachine) :
    VisualAssetDownloadMachine × Except VisualAssetDownloadError (Option VisualAssetOperation) :=
  let chunk := CapabilityWire.maxVisualAssetChunkBytes
  let remaining := machine.remaining VisualAssetIdentity.byteLen chunk
  if machine.pending.isSome then (machine, .error .requestPending)
  else if machine.complete then (machine, .ok none)
  else if remaining = 0 then (machine, .error .range)
  else
    let request : VisualAssetReadRequest :=
      { capabilityDigest := machine.capabilityDigest
        assetDigest := machine.expectedAssetDigest
        offset := machine.receivedBytes
        maximumBytes := .ofNat (min remaining chunk).toNat }
    let machine := { machine with pending := some request }
    match CapabilityWire.encodeVisualAssetRead request with
    | .error error => (machine, .error (.wire error))
    | .ok body => (machine, .ok (some ⟨body⟩))

/-- The checks of a response before anything is retained of it. -/
def admitRange (machine : VisualAssetDownloadMachine) (request : VisualAssetReadRequest)
    (response : Response) :
    Except VisualAssetDownloadError (VisualAssetReadResponse × List UInt8) := do
  failIf (response.status ≠ .ok ∧ response.body.isEmpty) (.deviceStatus response.status)
  failIf (response.status ≠ .ok) .responseBody
  let (metadata, chunk) ← (CapabilityWire.decodeVisualAssetRead response.body).mapError .wire
  failIf (metadata.capabilityDigest ≠ machine.capabilityDigest ∨
    metadata.asset.digest ≠ machine.expectedAssetDigest ∨ metadata.offset ≠ request.offset ∨
    metadata.offset ≠ machine.receivedBytes ∨ request.maximumBytes < metadata.chunkLen) .identity
  failIf (machine.maximumAssetBytes < metadata.asset.byteLen) .limit
  failIf (machine.identity.isSome ∧ machine.identity ≠ some metadata.asset) .identity
  pure (metadata, chunk)

/-- The complete bytes have the expected digest. -/
def verify [Sha256] (machine : VisualAssetDownloadMachine) (bytes : List UInt8) :
    Except VisualAssetDownloadError Unit :=
  failIf (Sha256.sha256 bytes ≠ machine.expectedAssetDigest) .digest

/-- Apply one already authenticated and correlated range response. -/
def acceptResponse [Sha256] (machine : VisualAssetDownloadMachine) (response : Response)
    (reserved : Bool) : VisualAssetDownloadMachine × Except VisualAssetDownloadError Unit :=
  match machine.pending with
  | none => (machine, .error .noPendingRequest)
  | some request =>
    let machine := { machine with pending := none }
    match machine.admitRange request response with
    | .error error => (machine, .error error)
    | .ok (metadata, chunk) =>
      let (buffer, result) := machine.store VisualAssetIdentity.byteLen .allocation .range
        machine.verify metadata.asset chunk metadata.complete reserved
      ({ machine with toRangeBuffer := buffer }, result)

def abandonPending (machine : VisualAssetDownloadMachine) : VisualAssetDownloadMachine × Bool :=
  ({ machine with pending := none }, machine.pending.isSome)

end VisualAssetDownloadMachine

end VisualAsset

end Alumina.Client
