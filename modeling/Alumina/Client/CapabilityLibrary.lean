import Alumina.Client.HostLibrary
import Alumina.Client.RangeDownload

/-!
# Concrete range bodies

The model takes the range bodies and the capability document as a parameter. This file supplies
executable codecs of fixed-width little-endian fields, and a document that is its own bytes.
Concrete runs use them.
-/

namespace Alumina.Client.HostLibrary

open Alumina.Graph (GraphWireError WireDecoder Sha256 decodeArray decodeU16 decodeU32 encodeU16
  encodeU32)
open Alumina.Graph.HostLibrary
open Except (failIf)

def encodeCapabilityRequest (request : CapabilityReadRequest) :
    Except GraphWireError (List UInt8) := do
  failIf (request.maximumBytes = 0) .invalidValue
  pure (request.expectedDigest.val ++ encodeU32 request.offset ++ encodeU16 request.maximumBytes)

def encodeVisualRequest (request : VisualAssetReadRequest) :
    Except GraphWireError (List UInt8) := do
  failIf (request.maximumBytes = 0) .invalidValue
  pure (request.capabilityDigest.val ++ request.assetDigest.val ++ encodeU32 request.offset ++
    encodeU16 request.maximumBytes)

def encodeCapabilityResponse (response : CapabilityReadResponse) : List UInt8 :=
  encodeU32 response.identity.byteLen ++ response.identity.digest.val ++
    encodeU32 response.offset ++ encodeU16 response.chunkLen ++ encodeFlag response.complete

def decodeCapabilityResponse : WireDecoder CapabilityReadResponse := do
  let byteLen ← decodeU32
  let digest ← decodeArray 32
  let offset ← decodeU32
  let chunkLen ← decodeU16
  let complete ← decodeFlag
  return ⟨⟨byteLen, digest⟩, offset, chunkLen, complete⟩

def encodeVisualResponse (response : VisualAssetReadResponse) : List UInt8 :=
  response.capabilityDigest.val ++ encodeU32 response.asset.byteLen ++
    response.asset.digest.val ++ encodeU32 response.offset ++ encodeU16 response.chunkLen ++
    encodeFlag response.complete

def decodeVisualResponse : WireDecoder VisualAssetReadResponse := do
  let capabilityDigest ← decodeArray 32
  let byteLen ← decodeU32
  let digest ← decodeArray 32
  let offset ← decodeU32
  let chunkLen ← decodeU16
  let complete ← decodeFlag
  return ⟨capabilityDigest, ⟨byteLen, digest⟩, offset, chunkLen, complete⟩

/-- A prefix and the chunk that uses up the body. -/
def decodeRange {α : Type} (decoder : WireDecoder α) (chunkLen : α → UInt16)
    (bytes : List UInt8) : Except GraphWireError (α × List UInt8) := do
  let (metadata, chunk) ← decoder bytes
  failIf (chunk.length ≠ (chunkLen metadata).toNat) .trailingBytes
  pure (metadata, chunk)

scoped instance capabilityWire : CapabilityWire where
  WireError := GraphWireError
  DocumentError := GraphWireError
  Limits := UInt32
  maximumDocumentBytes := id
  View := CapabilityIdentity
  viewIdentity := id
  documentHeaderBytes := 4
  maxCapabilityChunkBytes := 256
  maxVisualAssetChunkBytes := 256
  encodeCapabilityRead := encodeCapabilityRequest
  decodeCapabilityRead := decodeRange decodeCapabilityResponse CapabilityReadResponse.chunkLen
  encodeVisualAssetRead := encodeVisualRequest
  decodeVisualAssetRead := decodeRange decodeVisualResponse VisualAssetReadResponse.chunkLen
  decodeBoardCapability bytes limits := do
    failIf (bytes.length < 4 ∨ limits.toNat < bytes.length) .truncated
    pure ⟨.ofNat bytes.length, Sha256.sha256 bytes⟩

theorem lawfulCapabilityWire : LawfulCapabilityWire where
  capabilityChunk := by decide
  visualAssetChunk := by decide

end Alumina.Client.HostLibrary
