import Alumina.Client.CapabilityLibrary
import Alumina.Client.DiagnosticLibrary
import Alumina.Client.SupervisorView

/-!
# Concrete worker records

The model takes the record checks of the device crates and the contents of a capability document
as parameters. This file supplies executable ones. A board document is a four-byte header and
the digests of its visuals, a subscription carries its context as its details, and a capture is
a sequence of fixed-width fields. Concrete runs use them.
-/

namespace Alumina.Client.BoardLibrary

open Alumina.Graph (Digest GraphWireError WireDecoder Sha256 decodeArray decodeU32 decodeU64)
open Alumina.Client.HostLibrary (whole decodeBytes)
open scoped Alumina.Graph.HostLibrary Alumina.Client.HostLibrary
open Except (failIf)

/-- What a board document says. -/
structure BoardView where
  identity : CapabilityIdentity
  visuals : List Digest

/-- The digests behind the header, as many as there are bytes for. -/
def decodeVisuals (count : Nat) : WireDecoder (List Digest) :=
  (List.replicate count ()).mapM fun () => decodeArray 32

scoped instance (priority := high) boardWire : CapabilityWire :=
  { HostLibrary.capabilityWire with
    View := BoardView
    viewIdentity := BoardView.identity
    decodeBoardCapability := fun bytes limits => do
      failIf (bytes.length < 4 ∨ (show UInt32 from limits).toNat < bytes.length)
        GraphWireError.truncated
      let visuals ← whole (decodeVisuals ((bytes.length - 4) / 32)) (bytes.drop 4)
      pure ⟨⟨.ofNat bytes.length, Sha256.sha256 bytes⟩, visuals⟩ }

def decodeContext : WireDecoder DiagnosticContext := do
  let deviceId ← decodeArray 16
  let bootId ← decodeArray 16
  let byteLen ← decodeU32
  let digest ← decodeArray 32
  let configDigest ← decodeArray 32
  let clockFrequencyHz ← decodeU64
  return ⟨deviceId, bootId, ⟨byteLen, digest⟩, configDigest, clockFrequencyHz⟩

/-- A context no device has. -/
def noContext : DiagnosticContext :=
  ⟨.replicate 16 0, .replicate 16 0, ⟨0, .replicate 32 0⟩, .replicate 32 0, 0⟩

/-- The resources of four bytes each. -/
def decodeResources (count : Nat) : WireDecoder (List ResourceId) :=
  (List.replicate count ()).mapM fun () => ResourceId.mk <$> decodeArray 4

def decodeCapture : WireDecoder DigitalCaptureView := do
  let captureId ← decodeArray 16
  let context ← decodeContext
  let transitions ← decodeU32
  let pretrigger ← decodeU64
  let posttrigger ← decodeU64
  let resources ← decodeBytes
  let channels ← liftM (whole (decodeResources (resources.length / 4)) resources)
  return ⟨⟨captureId⟩, context, transitions.toNat, transitions, pretrigger, posttrigger,
    .immediate, channels.map (⟨·, .simulated⟩)⟩

scoped instance workerWire : WorkerWire where
  boardLimits := (4096 : UInt32)
  transportLimits := ⟨4096, []⟩
  diagnosticLimits := ⟨[]⟩
  subscribeContext subscription :=
    ((whole decodeContext subscription.details).toOption).getD noContext
  overviewSamples event :=
    ((whole (decodeResources (event.overview.length / 4)) event.overview).toOption).getD []
  CaptureError := GraphWireError
  decodeDigitalCapture record _ := whole decodeCapture record
  runtimeHealthValid health := health.serviceStack.domain = .serviceCore
  networkStatusValid status := status.ssid.all (· ≠ "")
  maxNetworkScanResults := 16
  networkScanEntryValid entry := entry.ssid ≠ ""
  canonicalScan scan := some scan.entries

scoped instance boardDocument : BoardDocument where
  resources _ := []
  diagnosticResources _ := []
  diagnosticAdmits _ _ := true
  captureResources _ := []
  captureAdmits _ _ := true
  digitalCapture _ := ⟨0, none, [], 0, 0, 0, 0, 0⟩
  visuals := BoardView.visuals
  digitalCaptureVersion := 1
  documentErrorText _ := "malformed"

end Alumina.Client.BoardLibrary
