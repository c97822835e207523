import Alumina.Client.Upload

/-!
# Owned upload sources

`OwnedUploadSource` keeps the bytes of one object and the digest of each of its chunks. The
constructor rebuilds every chunk name and the manifest from the bytes; afterwards the chunks are
cut out of the bytes on demand.

The manifest hasher comes from the storage crate and is the parameter `ManifestHashing`.
Allocation is taken to succeed.
-/

namespace Alumina.Client

open Except (failIf)
open Alumina.Graph (Sha256)

/-! ## Sizes -/

/-- The width of a pointer on the platform. -/
inductive PointerWidth where
  | bits32 | bits64
  deriving DecidableEq, Repr

namespace PointerWidth

/-- How many values a `usize` has. -/
def usizeValues : PointerWidth → Nat
  | .bits32 => 2 ^ 32
  | .bits64 => 2 ^ 64

/-- A number that fits a `usize`. -/
def usize (width : PointerWidth) (value : Nat) : Option Nat :=
  if value < width.usizeValues then some value else none

end PointerWidth

/-- Bytes in memory: a slice is never longer than `isize::MAX`. -/
structure ByteSlice (width : PointerWidth) where
  bytes : List UInt8
  fits : 2 * bytes.length < width.usizeValues

/-! ## Construction -/

/-- The storage crate's hasher of the ordered chunk manifest. -/
class ManifestHashing [StorageWire] where
  Hasher : Type
  new : StoredObject → UInt32 → UInt32 → CacheLimits → Except StorageWire.StorageError Hasher
  push : Hasher → UInt32 → ContentId → UInt32 → Except StorageWire.StorageError Hasher
  finalize : Hasher → Except StorageWire.StorageError ContentId

/-- Rejection while reconstructing an immutable upload source. -/
inductive OwnedUploadSourceError [StorageWire] where
  | storage (error : StorageWire.StorageError)
  | length | objectDigest | manifestDigest

/-- Owned, independently revalidated upload artifact. -/
structure OwnedUploadSource where
  plan : UploadPlan
  bytes : List UInt8
  chunks : List ContentId

/-- Where one chunk starts and ends (`chunk_range`). -/
def chunkRange (width : PointerWidth) (plan : UploadPlan) (bytes : Nat) (index : UInt32) :
    Option (Nat × Nat) :=
  if plan.chunkCount ≤ index then none
  else do
    let product ← index.toUInt64.checkedMul plan.chunkBytes.toUInt64
    let start ← width.usize product.toNat
    let chunk ← width.usize plan.chunkBytes.toNat
    let nominalEnd ← width.usize (start + chunk)
    let stop := min nominalEnd bytes
    if start < stop then some (start, stop) else none

/-- The bytes from `start` up to `stop`. -/
def slice (bytes : List UInt8) (start stop : Nat) : List UInt8 :=
  (bytes.drop start).take (stop - start)

namespace OwnedUploadSource

/-- `UploadSource::chunk_header` -/
def chunkHeader (width : PointerWidth) (source : OwnedUploadSource) (index : UInt32) :
    Option ChunkUploadHeader := do
  let (start, stop) ← chunkRange width source.plan source.bytes.length index
  let byteLen ← if stop - start < 2 ^ 32 then some (UInt32.ofNat (stop - start)) else none
  let content ← source.chunks[index.toNat]?
  pure ⟨source.plan.uploadId, index, byteLen, content⟩

/-- `UploadSource::chunk_bytes` -/
def chunkBytes (width : PointerWidth) (source : OwnedUploadSource) (index : UInt32) :
    Option (List UInt8) := do
  let (start, stop) ← chunkRange width source.plan source.bytes.length index
  pure (slice source.bytes start stop)

/-- What the upload machine sees of the source. -/
def uploadSource (width : PointerWidth) (source : OwnedUploadSource) : UploadSource :=
  ⟨source.plan, source.chunkHeader width, source.chunkBytes width⟩

variable [StorageWire] [ManifestHashing] [Sha256]

/-- Name one chunk and add it to the manifest. -/
def hashChunk (width : PointerWidth) (plan : UploadPlan) (bytes : List UInt8)
    (state : ManifestHashing.Hasher × List ContentId) (index : Nat) :
    Except OwnedUploadSourceError (ManifestHashing.Hasher × List ContentId) := do
  let (start, stop) ← (chunkRange width plan bytes.length (.ofNat index)).okOr .length
  failIf (2 ^ 32 ≤ stop - start) .length
  let content := contentOf (slice bytes start stop)
  let hasher ← (ManifestHashing.push state.1 (.ofNat index) content
    (.ofNat (stop - start))).mapError .storage
  pure (hasher, state.2 ++ [content])

/-- `OwnedUploadSource::try_new_shared` -/
def tryNewShared (width : PointerWidth) (plan : UploadPlan) (bytes : ByteSlice width)
    (limits : CacheLimits) : Except OwnedUploadSourceError OwnedUploadSource := do
  (StorageWire.validatePlan plan limits).mapError .storage
  failIf (bytes.bytes.length ≠ plan.object.byteLen.toNat) .length
  failIf (contentOf bytes.bytes ≠ plan.object.content) .objectDigest
  let hasher ← (ManifestHashing.new plan.object plan.chunkBytes plan.chunkCount
    limits).mapError .storage
  let (hasher, chunks) ← (List.range plan.chunkCount.toNat).foldlM
    (hashChunk width plan bytes.bytes) (hasher, [])
  let manifest ← (ManifestHashing.finalize hasher).mapError .storage
  failIf (manifest ≠ plan.manifest) .manifestDigest
  pure ⟨plan, bytes.bytes, chunks⟩

end OwnedUploadSource

end Alumina.Client
