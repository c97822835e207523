import Alumina.Client.HostLibrary
import Alumina.Client.Network

/-!
# Concrete provisioning bodies

The model takes the request bodies, the status and the scan result of the provisioning crate as
a parameter. This file supplies executable codecs of fixed-width little-endian fields. Concrete
runs use them.
-/

namespace Alumina.Client.HostLibrary

open Alumina.Graph (WireDecoder GraphWireError decodeU8 decodeU32 decodeU64 encodeU32 encodeU64)
open Except (failIf)

/-- Every failure, at the position that is its code. -/
def networkFailures : List NetworkFailure := [
    .none, .association, .timeout, .dhcp, .interrupted, .scan, .driver, .storage]

def linkTag : StationLinkState → UInt8
  | .disconnected => 0
  | .addressed => 1
  | .other code => code

def linkOfTag : UInt8 → StationLinkState
  | 0 => .disconnected
  | 1 => .addressed
  | code => .other code

def encodeNetworkStatus (status : NetworkStatus) : List UInt8 :=
  encodeU32 status.generation ++ encodeU64 status.lastTransactionId ++
    [.ofNat (networkFailures.idxOf status.lastFailure), linkTag status.stationLink] ++
    encodeFlag status.flags.lastOperationFailed ++ encodeFlag status.flags.apExpected ++
    encodeFlag status.flags.stationConfigured ++ encodeBytes status.details

def decodeNetworkStatus : WireDecoder NetworkStatus := do
  let generation ← decodeU32
  let lastTransactionId ← decodeU64
  let failure ← decodeU8
  let link ← decodeU8
  let lastOperationFailed ← decodeFlag
  let apExpected ← decodeFlag
  let stationConfigured ← decodeFlag
  let details ← decodeBytes
  return ⟨generation, lastTransactionId, networkFailures.getD failure.toNat .none, linkOfTag link,
    ⟨lastOperationFailed, apExpected, stationConfigured⟩, details⟩

def decodeNetworkScan : WireDecoder NetworkScanResult := do
  let transactionId ← decodeU64
  let details ← decodeBytes
  return ⟨transactionId, details⟩

def encodeText (text : String) : List UInt8 := encodeBytes (text.toList.map (.ofNat ·.toNat))

/-- A join request of a name of at most 32 and a passphrase of at most 63 bytes. -/
def buildJoin (transactionId : UInt64) (expectedGeneration : UInt32) (ssid : String)
    (authentication : NetworkAuthentication) (passphrase : String) (bssid : Option Bssid)
    (channel : Option UInt8) : Except GraphWireError NetworkJoinRequest := do
  failIf (transactionId = 0 ∨ ssid.length = 0 ∨ 32 < ssid.length ∨ 63 < passphrase.length)
    .invalidValue
  pure ⟨transactionId, expectedGeneration, encodeText ssid ++ [authentication.code] ++
    encodeText passphrase ++ encodeOption (·.val) bssid ++ encodeOption ([·]) channel⟩

def encodeMutation (request : NetworkMutationRequest) : Except GraphWireError (List UInt8) := do
  failIf (request.transactionId = 0) .invalidValue
  pure (encodeU64 request.transactionId ++ encodeU32 request.expectedGeneration)

scoped instance networkWire : NetworkWire where
  WireError := GraphWireError
  joinRequest := buildJoin
  encodeScan request := do
    failIf (request.transactionId = 0) .invalidValue
    pure (encodeU64 request.transactionId)
  encodeJoin request := encodeU64 request.transactionId ++ encodeU32 request.expectedGeneration ++
    request.credentials
  encodeMutation := encodeMutation
  decodeStatus := whole decodeNetworkStatus
  decodeScan := whole decodeNetworkScan

theorem lawfulNetworkWire : LawfulNetworkWire where
  joinRequest_transactionId h := by
    simp only [NetworkWire.joinRequest, buildJoin, Except.bind_eq_ok, Except.pure_eq_ok] at h
    obtain ⟨-, -, rfl⟩ := h
    rfl

end Alumina.Client.HostLibrary
