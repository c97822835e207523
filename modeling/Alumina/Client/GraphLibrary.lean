import Alumina.Client.GraphLifecycle
import Alumina.Client.HostLibrary

/-!
# Concrete graph bodies

The model takes the request bodies and the combined report of the graph crates as a parameter.
This file supplies executable codecs of fixed-width little-endian fields. Concrete runs use them.
-/

namespace Alumina.Client.HostLibrary

open Codec
open Alumina.Graph (WireDecoder GraphWireError decodeArray decodeU8 decodeU64 encodeU64)
open Except (failIf)

/-! ## Reports -/

/-- Every named phase, at the position that is its code. -/
def coordinatorPhases : List GraphCoordinatorPhase := [
    .recovering, .validating, .candidateValid, .rejected, .preparing, .activating, .committing,
    .authorizing, .active, .starting, .running, .stopping, .executionFaulted]

def coordinatorTag : GraphCoordinatorPhase → UInt8
  | .other code => code
  | phase => .ofNat (coordinatorPhases.idxOf phase)

def coordinatorOfTag (tag : UInt8) : GraphCoordinatorPhase :=
  coordinatorPhases.getD tag.toNat (.other tag)

def faultTag : GraphCoordinatorFault → UInt8
  | .none => 0
  | .other code => code

def faultOfTag (tag : UInt8) : GraphCoordinatorFault := if tag = 0 then .none else .other tag

def stateTag : RealtimeGraphState → UInt8
  | .active => 0
  | .rejected => 1
  | .other code => code

def stateOfTag : UInt8 → RealtimeGraphState
  | 0 => .active
  | 1 => .rejected
  | code => .other code

def actorTag : GraphActorPhase → UInt8
  | .installed => 0
  | .running => 1
  | .other code => code

def actorOfTag : UInt8 → GraphActorPhase
  | 0 => .installed
  | 1 => .running
  | code => .other code

def bridgeTag : GraphBridgePhase → UInt8
  | .empty => 0
  | .running => 1
  | .other code => code

def bridgeOfTag : UInt8 → GraphBridgePhase
  | 0 => .empty
  | 1 => .running
  | code => .other code

def encodeRealtimeGraph (report : RealtimeGraphReport) : List UInt8 :=
  stateTag report.state :: (encodeU64 report.transactionId ++ report.contentDigest.val ++
    report.packageDigest.val ++ report.activeContentDigest.val ++
    encodeFlag report.activeAuthorized ++ encodeBytes report.details)

def decodeRealtimeGraph : WireDecoder RealtimeGraphReport := do
  let state ← decodeU8
  let transactionId ← decodeU64
  let contentDigest ← decodeArray 32
  let packageDigest ← decodeArray 32
  let activeContentDigest ← decodeArray 32
  let activeAuthorized ← decodeFlag
  let details ← decodeBytes
  return ⟨stateOfTag state, transactionId, contentDigest, packageDigest, activeContentDigest,
    activeAuthorized, details⟩

def encodeExecution (report : GraphExecutionReport) : List UInt8 :=
  encodeU64 report.runId ++ encodeU64 report.startCycle ++
    [actorTag report.servicePhase, actorTag report.realtimePhase, bridgeTag report.bridgePhase] ++
    encodeOption encodeU64 report.serviceNextCycle ++
    encodeOption encodeU64 report.realtimeNextCycle ++
    encodeOption (encodeBytes ·.details) report.fault ++ encodeBytes report.details

def decodeExecution : WireDecoder GraphExecutionReport := do
  let runId ← decodeU64
  let startCycle ← decodeU64
  let service ← decodeU8
  let realtime ← decodeU8
  let bridge ← decodeU8
  let serviceNextCycle ← decodeOption decodeU64
  let realtimeNextCycle ← decodeOption decodeU64
  let fault ← decodeOption decodeBytes
  let details ← decodeBytes
  return ⟨runId, startCycle, actorOfTag service, actorOfTag realtime, bridgeOfTag bridge,
    serviceNextCycle, realtimeNextCycle, fault.map (⟨·⟩), details⟩

def encodeGraphReport (report : GraphCoordinatorReport) : List UInt8 :=
  coordinatorTag report.phase :: faultTag report.fault :: (encodeU64 report.transactionId ++
    report.contentDigest.val ++ report.packageDigest.val ++ report.activeContentDigest.val ++
    encodeRealtimeGraph report.realtime ++ encodeExecution report.execution ++
    encodeBytes report.details)

def decodeGraphReport : WireDecoder GraphCoordinatorReport := do
  let phase ← decodeU8
  let fault ← decodeU8
  let transactionId ← decodeU64
  let contentDigest ← decodeArray 32
  let packageDigest ← decodeArray 32
  let activeContentDigest ← decodeArray 32
  let realtime ← decodeRealtimeGraph
  let execution ← decodeExecution
  let details ← decodeBytes
  return ⟨coordinatorOfTag phase, faultOfTag fault, transactionId, contentDigest, packageDigest,
    activeContentDigest, realtime, execution, details⟩

/-! ## Requests -/

def contentDigest (publication : GraphPublication) : Graph.Digest :=
  publication.publication.object.content.digest

def validateGraphPublication (publication : GraphPublication) : Except GraphWireError Unit :=
  failIf (publication.transactionId = 0 ∨ (contentDigest publication).isZero ∨
    publication.packageDigest.isZero ∨ publication.implementationDigest.isZero) .invalidValue

def validateGraphRun (request : GraphRunRequest) : Except GraphWireError Unit :=
  failIf (request.transactionId = 0 ∨ request.runId = 0 ∨ request.contentDigest.isZero ∨
    request.packageDigest.isZero ∨ request.implementationDigest.isZero) .invalidValue

def encodeGraphSelection (selection : GraphSelection) : List UInt8 :=
  encodeU64 selection.transactionId ++ selection.contentDigest.val ++ selection.packageDigest.val

scoped instance graphWire : GraphWire where
  WireError := GraphWireError
  ReportError := GraphWireError
  validatePublication := validateGraphPublication
  contentDigest := contentDigest
  encodePublication publication := do
    validateGraphPublication publication
    pure (encodeU64 publication.transactionId ++ encodePublished publication.publication ++
      publication.packageDigest.val ++ publication.implementationDigest.val)
  encodeSelection selection := .ok (encodeGraphSelection selection)
  validateRun := validateGraphRun
  runSelection request := ⟨request.transactionId, request.contentDigest, request.packageDigest⟩
  encodeRun request := do
    validateGraphRun request
    pure (encodeU64 request.transactionId ++ encodeU64 request.runId ++
      encodeU64 request.startCycle ++ request.contentDigest.val ++ request.packageDigest.val ++
      request.implementationDigest.val)
  decodeReport := whole decodeGraphReport

end Alumina.Client.HostLibrary
