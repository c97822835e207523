import Alumina.Graph.Workspace

/-!
# The canonical workspace encoding

Encoder of the `ALGW` envelope, which embeds one complete `ALGR` document. The envelope files of the
source each carry the same private encoder; its fields are defined here once, over the error that
the file raises.
-/

namespace Alumina.Graph

open Codec
open Except (failIf)

/-! ## Envelope fields -/

namespace Envelope

variable {ε : Type}

/-- A length or a count as `u32`, or an overflow. -/
def encodeLength (overflow : ε) (value : Nat) : Except ε (List UInt8) := do
  failIf (value ≥ 2 ^ 32) overflow
  return leBytes 4 value

/-- Limits, each as `u64`. -/
def encodeLimits (overflow : ε) (values : List Nat) : Except ε (List UInt8) :=
  encodeAll (fun value => do
    failIf (value ≥ 2 ^ 64) overflow
    return leBytes 8 value) values

/-- Bytes behind their length (`Encoder::length_prefixed`). -/
def encodePrefixed (overflow : ε) (bytes : List UInt8) : Except ε (List UInt8) := do
  let length ← encodeLength overflow bytes.length
  return length ++ bytes

def encodeI32 (value : Int32) : List UInt8 := encodeU32 value.toUInt32

end Envelope

/-! ## Workspaces -/

/-- `b"ALGW"` -/
def graphWorkspaceMagic : List UInt8 := [65, 76, 71, 87]

def graphWorkspaceVersion : UInt16 := 1

def graphWorkspaceFlags : UInt16 := 0

/-- Canonical workspace bytes paired with their content identity. -/
abbrev CanonicalGraphWorkspaceEncoding := CanonicalGraphEncoding

/-- The variants of `GraphWorkspaceError` that only the encoding raises, and the others. -/
inductive GraphWorkspaceWireError where
  | invalidMagic
  | unsupportedVersion (version : UInt16)
  | unsupportedFlags (flags : UInt16)
  | truncated
  | limitExceeded (name : String)
  | integerOverflow (name : String)
  | trailingBytes
  | nonCanonical
  | workspace (error : GraphWorkspaceError)
  deriving DecidableEq

abbrev WorkspaceEncoded := Except GraphWorkspaceWireError (List UInt8)

def GraphWorkspaceLimits.values (limits : GraphWorkspaceLimits) : List Nat :=
  [limits.maximumWorkspaceBytes, limits.maximumPlacements,
    limits.maximumCoordinateMagnitude.toNat]

def encodePlacement (placement : GraphNodePlacement) : WorkspaceEncoded :=
  return encodeId placement.node ++ Envelope.encodeI32 placement.x ++
    Envelope.encodeI32 placement.y

/-- Encode one workspace and compute its content identity. -/
def encodeGraphWorkspace [Sha256] (document : GraphWorkspaceDocument) :
    Except GraphWorkspaceWireError CanonicalGraphWorkspaceEncoding := do
  let graph ← (encodeGraphDocument document.graph).mapError fun error =>
    .workspace (.graphWire error)
  failIf (graph.digest ≠ document.graphDigest) .nonCanonical
  let limits ← Envelope.encodeLimits (.integerOverflow "limit value") document.limits.values
  let embedded ← Envelope.encodePrefixed (.integerOverflow "embedded graph length") graph.bytes
  let count ← Envelope.encodeLength (.integerOverflow "placement count")
    document.placements.length
  let placements ← encodeAll encodePlacement document.placements
  let bytes := graphWorkspaceMagic ++ encodeU16 graphWorkspaceVersion ++
    encodeU16 graphWorkspaceFlags ++ limits ++ encodeU64 document.revision ++
    encodeU64 document.nextNodeId ++ encodeU64 document.nextWireId ++ embedded ++ count ++
    placements
  failIf (bytes.length > document.limits.maximumWorkspaceBytes)
    (.limitExceeded "document byte length")
  return ⟨bytes, Sha256.sha256 bytes⟩

end Alumina.Graph
