import Alumina.Client.Diagnostics
import Alumina.Client.HostLibrary

/-!
# Concrete diagnostic codecs

The model takes the diagnostics crate as a parameter. This file supplies executable codecs of
fixed-width little-endian fields. A body is identified by its SHA-256 digest, a range carries
the capture, the record and the place it belongs to, and a complete capture is identified by
the digest of its bytes. Concrete runs use them.
-/

namespace Alumina.Client.HostLibrary

open Codec
open Alumina.Graph (Digest Sha256 WireDecoder GraphWireError decodeArray decodeU8 decodeU16
  decodeU32 decodeU64 encodeU16 encodeU32 encodeU64)
open Except (failIf)
open scoped Alumina.Graph.HostLibrary

/-! ## Telemetry bodies -/

def encodeSubscribe (id : SubscriptionId) (minimumPeriodCycles : UInt64)
    (maximumEventBytes : UInt32) (resources : List UInt8) : List UInt8 :=
  encodeU64 id.get ++ encodeU64 minimumPeriodCycles ++ encodeU32 maximumEventBytes ++
    encodeBytes resources

def decodeSubscribe (bytes : List UInt8) : WireDecoder TelemetrySubscribeView := do
  let id ← decodeU64
  let minimumPeriodCycles ← decodeU64
  let maximumEventBytes ← decodeU32
  let resources ← decodeBytes
  return ⟨⟨id⟩, Sha256.sha256 bytes, minimumPeriodCycles, maximumEventBytes, resources.length,
    resources⟩

def encodeTelemetrySession (reference : TelemetrySessionRequest) : List UInt8 :=
  encodeU64 reference.subscriptionId.get ++ reference.subscriptionDigest.val

def telemetryTag : TelemetryPhase → UInt8
  | .active => 0
  | .unsubscribed => 1

def encodeTelemetryStatus (status : TelemetrySubscriptionStatus) : List UInt8 :=
  telemetryTag status.phase :: (encodeU64 status.subscriptionId.get ++
    status.subscriptionDigest.val ++ encodeU64 status.minimumPeriodCycles ++
    encodeU32 status.maximumEventBytes ++ encodeU16 status.resourceCount ++
    encodeU64 status.nextEventSequence ++ encodeU64 status.droppedEvents ++
    encodeBytes status.details)

def decodeTelemetryStatus : WireDecoder TelemetrySubscriptionStatus := do
  let tag ← decodeU8
  let id ← decodeU64
  let digest ← decodeArray 32
  let minimumPeriodCycles ← decodeU64
  let maximumEventBytes ← decodeU32
  let resourceCount ← decodeU16
  let nextEventSequence ← decodeU64
  let droppedEvents ← decodeU64
  let details ← decodeBytes
  return ⟨if tag = 0 then .active else .unsubscribed, ⟨id⟩, digest, minimumPeriodCycles,
    maximumEventBytes, resourceCount, nextEventSequence, droppedEvents, details⟩

def decodeEvent (subscription : TelemetrySubscribeView) : WireDecoder TelemetryEventView := do
  let id ← decodeU64
  let digest ← decodeArray 32
  failIf (id ≠ subscription.subscriptionId.get ∨ digest ≠ subscription.digest)
    GraphWireError.nonCanonical
  let eventSequence ← decodeU64
  let droppedEvents ← decodeU64
  let snapshotCycle ← decodeU64
  let overviewDigest ← decodeArray 32
  let overview ← decodeBytes
  return ⟨eventSequence, droppedEvents, snapshotCycle, overviewDigest, overview⟩

/-! ## Waveform bodies -/

def encodeConfigure (id : CaptureId) (maximumChunkBytes : UInt32) (details : List UInt8) :
    List UInt8 :=
  id.asBytes.val ++ encodeU32 maximumChunkBytes ++ encodeBytes details

def decodeConfigure (bytes : List UInt8) : WireDecoder WaveformConfigureView := do
  let id ← decodeArray 16
  let maximumChunkBytes ← decodeU32
  let details ← decodeBytes
  return ⟨⟨id⟩, Sha256.sha256 bytes, maximumChunkBytes, details⟩

def encodeWaveformSession (reference : WaveformSessionRequest) : List UInt8 :=
  reference.captureId.asBytes.val ++ reference.configureDigest.val

def waveformTag : WaveformPhase → UInt8
  | .configured => 0
  | .armed => 1
  | .complete => 2
  | .faulted => 3
  | .stopped => 4

def waveformOfTag : UInt8 → Option WaveformPhase
  | 0 => some .configured
  | 1 => some .armed
  | 2 => some .complete
  | 3 => some .faulted
  | 4 => some .stopped
  | _ => none

def encodeWaveformStatus (status : WaveformStatus) : List UInt8 :=
  waveformTag status.phase :: (encodeWaveformSession ⟨status.captureId, status.configureDigest⟩ ++
    encodeU32 status.recordBytes ++ status.recordDigest.val ++ encodeBytes status.details)

def decodeWaveformStatus : WireDecoder WaveformStatus := do
  let tag ← decodeU8
  let phase ← (waveformOfTag tag).okOr (GraphWireError.invalidTag "waveform phase" tag)
  let id ← decodeArray 16
  let digest ← decodeArray 32
  let recordBytes ← decodeU32
  let recordDigest ← decodeArray 32
  let details ← decodeBytes
  return ⟨phase, ⟨id⟩, digest, recordBytes, recordDigest, details⟩

/-- The range of a record at an offset. -/
def encodeChunk (reference : WaveformSessionRequest) (record : List UInt8)
    (offset length : Nat) : List UInt8 :=
  encodeWaveformSession reference ++ (Sha256.sha256 record).val ++
    encodeU32 (.ofNat record.length) ++ encodeU32 (.ofNat offset) ++
    encodeBytes ((record.drop offset).take length)

def decodeChunk (reference : WaveformSessionRequest) (recordDigest : Digest) :
    WireDecoder WaveformChunkView := do
  let id ← decodeArray 16
  let configureDigest ← decodeArray 32
  let digest ← decodeArray 32
  failIf (id ≠ reference.captureId.asBytes ∨ configureDigest ≠ reference.configureDigest ∨
    digest ≠ recordDigest) GraphWireError.nonCanonical
  let recordBytes ← decodeU32
  let offset ← decodeU32
  let bytes ← decodeBytes
  failIf (recordBytes.toNat < offset.toNat + bytes.length) GraphWireError.truncated
  return ⟨digest, recordBytes, offset, .ofNat (offset.toNat + bytes.length), bytes⟩

/-! ## The crate -/

scoped instance diagnosticWire : DiagnosticWire where
  TransportError := GraphWireError
  decodeTelemetrySubscribe bytes _ := whole (decodeSubscribe bytes) bytes
  decodeTelemetryEvent bytes subscription _ := whole (decodeEvent subscription) bytes
  decodeTelemetryStatus := whole decodeTelemetryStatus
  encodeTelemetrySession reference := .ok (encodeTelemetrySession reference)
  encodeTelemetryPoll request :=
    .ok (encodeTelemetrySession request.reference ++ encodeU64 request.acceptedEventSequence)
  decodeWaveformConfigure bytes _ := whole (decodeConfigure bytes) bytes
  encodeWaveformSession reference := .ok (encodeWaveformSession reference)
  encodeWaveformRead request _ :=
    .ok (encodeWaveformSession ⟨request.captureId, request.configureDigest⟩ ++
      request.recordDigest.val ++ encodeU32 request.offset ++ encodeU32 request.maximumBytes)
  decodeWaveformStatus := whole decodeWaveformStatus
  decodeWaveformChunk bytes reference digest _ := whole (decodeChunk reference digest) bytes
  validateRetainedCapture record _ _ limits := do
    failIf (limits.maximumWaveformRecordBytes.toNat < record.length)
      (GraphWireError.limitExceeded "record")
    return Sha256.sha256 record

end Alumina.Client.HostLibrary
