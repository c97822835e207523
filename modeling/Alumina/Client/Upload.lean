import Mathlib
import Alumina.ForStd.CheckedArith
import Alumina.ForStd.Except
import Alumina.ForStd.Run
import Alumina.Client.Protocol

/-!
# Resumable cache uploads

`CacheUploadMachine` uploads one content-addressed object chunk by chunk. Its only
recovery edge is exact inspection: any rejected response and any abandoned request sends
it back to ask whether the object is already published.

The plan policy and the wire forms of the storage bodies come from a crate outside this
code and are the parameter `StorageWire`. Allocation is taken to succeed.
-/

namespace Alumina.Client

open Except (failIf)
open Alumina.Graph (Sha256)

/-! ## Storage data -/

structure CacheLimits where
  maximumObjectBytes : UInt64
  maximumChunkBytes : UInt32
  maximumChunks : UInt32
  deriving DecidableEq, Repr

structure UploadId where
  get : UInt64
  deriving DecidableEq, Repr

/-- Exact immutable declaration of one upload transaction. -/
structure UploadPlan where
  uploadId : UploadId
  object : StoredObject
  manifest : ContentId
  chunkBytes : UInt32
  chunkCount : UInt32
  deriving DecidableEq, Repr

/-- The publication a completed upload of this plan establishes. -/
def UploadPlan.publication (plan : UploadPlan) : PublishedObject := ⟨plan.object, plan.manifest⟩

structure ChunkUploadHeader where
  uploadId : UploadId
  index : UInt32
  byteLen : UInt32
  content : ContentId
  deriving DecidableEq, Repr

structure FinalizeUploadRequest where
  uploadId : UploadId
  deriving DecidableEq, Repr

inductive UploadPhase where
  | receiving | publishPending | complete
  deriving DecidableEq, Repr

/-- Durable progress a device reports for one upload. -/
structure UploadProgress where
  uploadId : UploadId
  phase : UploadPhase
  nextChunk : UInt32
  acceptedBytes : UInt64
  totalBytes : UInt64
  deriving DecidableEq, Repr

/-- The storage crate: plan policy and the canonical bodies of the storage operations. -/
class StorageWire where
  StorageError : Type
  WireError : Type
  validatePlan : UploadPlan → CacheLimits → Except StorageError Unit
  validatePublished : PublishedObject → CacheLimits → Except StorageError Unit
  encodePublished : PublishedObject → List UInt8
  decodePublished : List UInt8 → CacheLimits → Except WireError PublishedObject
  encodePlan : UploadPlan → List UInt8
  encodeHeader : ChunkUploadHeader → List UInt8
  encodeFinalize : FinalizeUploadRequest → List UInt8
  decodeProgress : List UInt8 → Except WireError UploadProgress

/-- Source of one canonical content-addressed upload. -/
structure UploadSource where
  uploadPlan : UploadPlan
  chunkHeader : UInt32 → Option ChunkUploadHeader
  chunkBytes : UInt32 → Option (List UInt8)

/-! ## The machine -/

/-- One storage operation body ready for native-protocol framing. -/
structure UploadOperation where
  operation : Operation
  body : List UInt8
  deriving DecidableEq, Repr

inductive UploadAction where
  | inspect | begin
  | chunk (index : UInt32)
  | finalize
  deriving DecidableEq, Repr

inductive UploadState where
  | inspect | begin
  | chunk (nextChunk : UInt32) (acceptedBytes : UInt64)
  | finalize | complete
  deriving DecidableEq, Repr

/-- Failure before upload progress may become authoritative. -/
inductive CacheUploadError [StorageWire] where
  | sourceChanged | requestPending | noPendingRequest
  | missingChunk (index : UInt32)
  | chunk (index : UInt32)
  | counterOverflow
  | deviceStatus (status : StatusCode)
  | responseBody | progressMismatch | publicationMismatch
  | storage (error : StorageWire.StorageError)
  | wire (error : StorageWire.WireError)

/-- Retry-safe upload coordinator whose only recovery edge is exact inspection. -/
structure CacheUploadMachine where
  plan : UploadPlan
  limits : CacheLimits
  state : UploadState
  pending : Option UploadAction
  deriving DecidableEq, Repr

variable [StorageWire]

abbrev UploadResult := Except CacheUploadError

def requireOk (response : Response) : UploadResult Unit :=
  if response.status ≠ .ok then
    if response.body = [] then .error (.deviceStatus response.status) else .error .responseBody
  else .ok ()

def expectedPrefixBytes (plan : UploadPlan) (nextChunk : UInt32) : UploadResult UInt64 :=
  if plan.chunkCount < nextChunk then .error .progressMismatch
  else if nextChunk = plan.chunkCount then .ok plan.object.byteLen
  else (plan.chunkBytes.toUInt64.checkedMul nextChunk.toUInt64).okOr .counterOverflow

def expectedChunkBytes (plan : UploadPlan) (index : UInt32) : UploadResult UInt32 :=
  if plan.chunkCount ≤ index then .error (.missingChunk index)
  else if index.toNat + 1 < plan.chunkCount.toNat then .ok plan.chunkBytes
  else do
    let preceding ←
      (plan.chunkBytes.toUInt64.checkedMul index.toUInt64).okOr .counterOverflow
    let rest ← (plan.object.byteLen.checkedSub preceding).okOr .counterOverflow
    failIf (2 ^ 32 ≤ rest.toNat) .counterOverflow
    pure rest.toUInt32

namespace CacheUploadMachine

/-- Bind one immutable source. -/
def new (source : UploadSource) (limits : CacheLimits) : UploadResult CacheUploadMachine := do
  let plan := source.uploadPlan
  (StorageWire.validatePlan plan limits).mapError .storage
  (StorageWire.validatePublished plan.publication limits).mapError .storage
  pure ⟨plan, limits, .inspect, none⟩

/-- Exact publication identity used for every reconciliation query. -/
def publication (machine : CacheUploadMachine) : PublishedObject := machine.plan.publication

def validateChunk [Sha256] (machine : CacheUploadMachine) (index : UInt32)
    (header : ChunkUploadHeader) (bytes : List UInt8) : UploadResult Unit := do
  let expectedLen ← expectedChunkBytes machine.plan index
  failIf (2 ^ 32 ≤ bytes.length) (.chunk index)
  let receivedLen := UInt32.ofNat bytes.length
  failIf (header.uploadId ≠ machine.plan.uploadId ∨ header.index ≠ index ∨
    header.byteLen ≠ expectedLen ∨ receivedLen ≠ expectedLen ∨
    header.content ≠ contentOf bytes) (.chunk index)

/-- The operation the current state asks for. -/
def request [Sha256] (machine : CacheUploadMachine) (source : UploadSource) :
    UploadResult (Option (UploadAction × UploadOperation)) :=
  match machine.state with
  | .inspect =>
    .ok (some (.inspect, ⟨.storageInspect, StorageWire.encodePublished machine.publication⟩))
  | .begin => .ok (some (.begin, ⟨.storageBeginUpload, StorageWire.encodePlan machine.plan⟩))
  | .chunk nextChunk _ => do
    let header ← (source.chunkHeader nextChunk).okOr (.missingChunk nextChunk)
    let bytes ← (source.chunkBytes nextChunk).okOr (.missingChunk nextChunk)
    machine.validateChunk nextChunk header bytes
    pure (some (.chunk nextChunk, ⟨.storagePutChunk, StorageWire.encodeHeader header ++ bytes⟩))
  | .finalize =>
    .ok (some (.finalize, ⟨.storageFinalize, StorageWire.encodeFinalize ⟨machine.plan.uploadId⟩⟩))
  | .complete => .ok none

/-- Emit the unique next operation and retain its correlation state. -/
def nextRequest [Sha256] (machine : CacheUploadMachine) (source : UploadSource) :
    CacheUploadMachine × UploadResult (Option UploadOperation) :=
  if machine.pending.isSome then (machine, .error .requestPending)
  else if source.uploadPlan ≠ machine.plan then (machine, .error .sourceChanged)
  else
    match machine.request source with
    | .error error => (machine, .error error)
    | .ok none => (machine, .ok none)
    | .ok (some (action, operation)) =>
      ({ machine with pending := some action }, .ok (some operation))

def stateFromProgress (machine : CacheUploadMachine) (progress : UploadProgress) :
    UploadResult UploadState := do
  failIf (progress.uploadId ≠ machine.plan.uploadId ∨
    progress.totalBytes ≠ machine.plan.object.byteLen ∨
    machine.plan.chunkCount < progress.nextChunk) .progressMismatch
  let expectedBytes ← expectedPrefixBytes machine.plan progress.nextChunk
  failIf (progress.acceptedBytes ≠ expectedBytes) .progressMismatch
  if progress.nextChunk < machine.plan.chunkCount then
    failIf (progress.phase ≠ .receiving) .progressMismatch
    pure (.chunk progress.nextChunk progress.acceptedBytes)
  else if progress.phase = .receiving ∨ progress.phase = .publishPending then
    pure .finalize
  else .error .progressMismatch

def acceptInspection (machine : CacheUploadMachine) (response : Response) :
    UploadResult UploadState :=
  match response.status with
  | .ok => do
    let observed ←
      (StorageWire.decodePublished response.body machine.limits).mapError .wire
    failIf (observed ≠ machine.publication) .publicationMismatch
    pure .complete
  | .notFound => if response.body = [] then .ok .begin else .error .responseBody
  | status =>
    if response.body = [] then .error (.deviceStatus status) else .error .responseBody

/-- The state a response to `action` leads to, or the reason it is rejected. -/
def acceptAction (machine : CacheUploadMachine) (action : UploadAction) (response : Response) :
    UploadResult UploadState :=
  match action with
  | .inspect => machine.acceptInspection response
  | .begin => do
    requireOk response
    let progress ← (StorageWire.decodeProgress response.body).mapError .wire
    machine.stateFromProgress progress
  | .chunk index => do
    requireOk response
    let progress ← (StorageWire.decodeProgress response.body).mapError .wire
    failIf (2 ^ 32 ≤ index.toNat + 1) .counterOverflow
    failIf (progress.nextChunk ≠ index + 1) .progressMismatch
    machine.stateFromProgress progress
  | .finalize => do
    requireOk response
    failIf (response.body ≠ []) .responseBody
    pure .complete

/-- Apply one already authenticated, correlated native response. -/
def acceptResponse (machine : CacheUploadMachine) (response : Response) :
    CacheUploadMachine × UploadResult Unit :=
  match machine.pending with
  | none => (machine, .error .noPendingRequest)
  | some action =>
    match machine.acceptAction action response with
    | .ok state => ({ machine with state := state, pending := none }, .ok ())
    | .error error => ({ machine with state := .inspect, pending := none }, .error error)

/-- Abandon an ambiguous I/O result and return to content inspection. -/
def abandonPending (machine : CacheUploadMachine) : CacheUploadMachine × Bool :=
  match machine.pending with
  | none => (machine, false)
  | some _ => ({ machine with state := .inspect, pending := none }, true)

/-! ## Calls -/

/-- A call on the machine with what it returned. -/
inductive Event where
  | nextRequest (source : UploadSource) (result : UploadResult (Option UploadOperation))
  | acceptResponse (response : Response) (result : UploadResult Unit)
  | abandonPending (abandoned : Bool)

/-- Whether the call put a request on the wire. -/
def Event.emits : Event → Bool
  | .nextRequest _ (.ok (some _)) => true
  | _ => false

/-- Whether the call settled the pending request, by a response or by abandoning it. -/
def Event.settles : Event → Bool
  | .nextRequest _ _ => false
  | .acceptResponse _ (.error .noPendingRequest) => false
  | .acceptResponse _ _ => true
  | .abandonPending abandoned => abandoned

/-- One call on the machine. -/
inductive Step [Sha256] : CacheUploadMachine → Event → CacheUploadMachine → Prop
  | nextRequest (machine : CacheUploadMachine) (source : UploadSource) :
      Step machine (.nextRequest source (machine.nextRequest source).2)
        (machine.nextRequest source).1
  | acceptResponse (machine : CacheUploadMachine) (response : Response) :
      Step machine (.acceptResponse response (machine.acceptResponse response).2)
        (machine.acceptResponse response).1
  | abandonPending (machine : CacheUploadMachine) :
      Step machine (.abandonPending machine.abandonPending.2) machine.abandonPending.1

end CacheUploadMachine

end Alumina.Client
