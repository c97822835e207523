import Alumina.ForStd.BinarySearch
import Alumina.ForStd.CheckedArith
import Alumina.Graph.Wire

/-!
# Graph workspaces

An editor workspace holds one graph document, one canvas placement for each of its nodes, and the
cursors from which it assigns node and wire identities. Every edit builds a complete candidate
through the same construction as a loaded workspace and replaces the workspace only when that
succeeds.
-/

namespace Alumina.Graph

open Except (failIf)

/-! ## Equality of literals -/

mutual

/-- `GraphValue::eq` -/
def GraphValue.beq : GraphValue → GraphValue → Bool
  | .boolean a, .boolean b => a == b
  | .exactRational a, .exactRational b => a == b
  | .measurementInterval a b, .measurementInterval c d => a == c && b == d
  | .canonicalI64 a, .canonicalI64 b => a == b
  | .canonicalU64 a, .canonicalU64 b => a == b
  | .text a, .text b => a == b
  | .bytes a, .bytes b => a == b
  | .array a, .array b => beqItems a b
  | .record a, .record b => beqFields a b
  | .optionNone, .optionNone => true
  | .optionSome a, .optionSome b => a.beq b
  | .resultOk a, .resultOk b => a.beq b
  | .resultError a, .resultError b => a.beq b
  | .resourceHandle a, .resourceHandle b => a == b
  | .jobHandle a, .jobHandle b => a == b
  | _, _ => false
termination_by structural a => a

def beqItems : List GraphValue → List GraphValue → Bool
  | [], [] => true
  | a :: as, b :: bs => a.beq b && beqItems as bs
  | _, _ => false
termination_by structural a => a

def beqFields : List (RecordFieldId × GraphValue) → List (RecordFieldId × GraphValue) → Bool
  | [], [] => true
  | (field, a) :: as, (other, b) :: bs => field == other && a.beq b && beqFields as bs
  | _, _ => false
termination_by structural a => a

end

mutual

theorem GraphValue.beq_iff : (a b : GraphValue) → (a.beq b = true ↔ a = b)
  | .boolean a, b => by cases b <;> simp [GraphValue.beq]
  | .exactRational a, b => by cases b <;> simp [GraphValue.beq]
  | .measurementInterval a b, c => by cases c <;> simp [GraphValue.beq]
  | .canonicalI64 a, b => by cases b <;> simp [GraphValue.beq]
  | .canonicalU64 a, b => by cases b <;> simp [GraphValue.beq]
  | .text a, b => by cases b <;> simp [GraphValue.beq]
  | .bytes a, b => by cases b <;> simp [GraphValue.beq]
  | .array a, b => by cases b <;> simp [GraphValue.beq, beqItems_iff a]
  | .record a, b => by cases b <;> simp [GraphValue.beq, beqFields_iff a]
  | .optionNone, b => by cases b <;> simp [GraphValue.beq]
  | .optionSome a, b => by cases b <;> simp [GraphValue.beq, GraphValue.beq_iff a]
  | .resultOk a, b => by cases b <;> simp [GraphValue.beq, GraphValue.beq_iff a]
  | .resultError a, b => by cases b <;> simp [GraphValue.beq, GraphValue.beq_iff a]
  | .resourceHandle a, b => by cases b <;> simp [GraphValue.beq]
  | .jobHandle a, b => by cases b <;> simp [GraphValue.beq]

theorem beqItems_iff : (a b : List GraphValue) → (beqItems a b = true ↔ a = b)
  | [], b => by cases b <;> simp [beqItems]
  | a :: as, b => by cases b <;> simp [beqItems, GraphValue.beq_iff a, beqItems_iff as]

theorem beqFields_iff : (a b : List (RecordFieldId × GraphValue)) →
    (beqFields a b = true ↔ a = b)
  | [], b => by cases b <;> simp [beqFields]
  | (field, a) :: as, b => by
    cases b with
    | nil => simp [beqFields]
    | cons other bs => simp [beqFields, GraphValue.beq_iff a, beqFields_iff as, Prod.ext_iff]

end

instance : DecidableEq GraphValue := fun a b => decidable_of_iff _ (a.beq_iff b)

instance : DecidableEq TypedGraphValue := fun a b =>
  decidable_of_iff (a.valueType = b.valueType ∧ a.value = b.value) (by
    cases a
    cases b
    simp)

/-! ## Limits, placements and prototypes -/

/-- Caller-owned and embedded bounds for one editor workspace. -/
structure GraphWorkspaceLimits where
  maximumWorkspaceBytes : Nat
  maximumPlacements : Nat
  maximumCoordinateMagnitude : UInt32
  deriving DecidableEq, Repr

/-- Bounded first editor policy. -/
def GraphWorkspaceLimits.interactive : GraphWorkspaceLimits where
  maximumWorkspaceBytes := 20 * 1024 * 1024
  maximumPlacements := 256
  maximumCoordinateMagnitude := 1000000

/-- One integer canvas position; these units are presentation only. -/
structure GraphNodePlacement where
  node : GraphNodeId
  x : Int32
  y : Int32
  deriving DecidableEq

/-- Complete node shape supplied to the workspace before it assigns an identity. -/
structure GraphNodePrototype where
  kind : NodeKind
  label : String
  domain : ExecutionDomain
  inputs : List PortDefinition
  outputs : List PortDefinition
  parameters : List NodeParameter

def GraphNodePrototype.intoNode (prototype : GraphNodePrototype) (id : GraphNodeId) :
    NodeDefinition :=
  ⟨id, prototype.kind, prototype.label, prototype.domain, prototype.inputs, prototype.outputs,
    prototype.parameters⟩

/-- Rejection of a workspace or of an edit. -/
inductive GraphWorkspaceError where
  | zeroLimit
  | limitExceeded (name : String)
  | invalidPlacementIdentity
  | missingPlacement (node : GraphNodeId)
  | unknownNode (node : GraphNodeId)
  | invalidIdentifierCursor (kind : String)
  | identifierExhausted (kind : String)
  | unknownWire (wire : GraphWireId)
  | unknownParameter (node : GraphNodeId) (parameter : UInt32)
  | parameterTypeMismatch (expected received : GraphTypeId)
  | revisionOverflow (kind : String)
  | graphWire (error : GraphWireError)
  | graphDocument (error : GraphDocumentError)
  deriving DecidableEq

def GraphWorkspaceLimits.validate (limits : GraphWorkspaceLimits) :
    Except GraphWorkspaceError Unit :=
  failIf (limits.maximumWorkspaceBytes = 0 ∨ limits.maximumPlacements = 0 ∨
    limits.maximumCoordinateMagnitude = 0) .zeroLimit

/-! ## Checks -/

/-- `u32::MAX + 1`, the cursor of an exhausted identity space. -/
def exhaustedU32Cursor : UInt64 := 4294967296

def validateCoordinate (value : Int32) (limits : GraphWorkspaceLimits) :
    Except GraphWorkspaceError Unit :=
  failIf (value.toInt.natAbs > limits.maximumCoordinateMagnitude.toNat)
    (.limitExceeded "canvas coordinate")

/-- A cursor is beyond every retained identity and at most the exhausted sentinel. -/
def validateIdentityCursor (cursor : UInt64) (retained : List UInt64) (kind : String) :
    Except GraphWorkspaceError Unit := do
  let minimum ← ((retained.foldl max 0).checkedAdd 1).okOr (.invalidIdentifierCursor kind)
  failIf (cursor < minimum ∨ cursor = 0 ∨ cursor > exhaustedU32Cursor)
    (.invalidIdentifierCursor kind)

/-- The checks of one placement besides its identity. -/
def validatePlacement (graph : GraphDocument) (limits : GraphWorkspaceLimits)
    (placement : GraphNodePlacement) : Except GraphWorkspaceError Unit := do
  failIf (graph.node placement.node).isNone (.unknownNode placement.node)
  validateCoordinate placement.x limits
  validateCoordinate placement.y limits

/-- Placements are visited in identity order, and every node has one. -/
def validatePlacements (graph : GraphDocument) (placements : List GraphNodePlacement)
    (limits : GraphWorkspaceLimits) : Except GraphWorkspaceError Unit := do
  Table.walk .invalidPlacementIdentity .invalidPlacementIdentity GraphNodePlacement.node
    (fun _ placement => validatePlacement graph limits placement) none () placements
  Except.forEach (fun node : NodeDefinition =>
    failIf (Table.binarySearch GraphNodePlacement.node node.id placements).isNone
      (.missingPlacement node.id)) graph.nodes

/-! ## Workspaces -/

/-- The fields of a workspace, before anything is known about them. -/
structure WorkspaceTables where
  limits : GraphWorkspaceLimits
  revision : UInt64
  nextNodeId : UInt64
  nextWireId : UInt64
  graph : GraphDocument
  placements : List GraphNodePlacement

namespace WorkspaceTables

variable (tables : WorkspaceTables)

/-- Every check of `GraphWorkspaceDocument::try_new` but the encoding of the graph; the counts
do not depend on the order of the placements. -/
def validate : Except GraphWorkspaceError Unit := do
  tables.limits.validate
  failIf (tables.graph.nodes.length > tables.limits.maximumPlacements ∨
    tables.placements.length > tables.limits.maximumPlacements) (.limitExceeded "placement count")
  validatePlacements tables.graph tables.placements tables.limits
  validateIdentityCursor tables.nextNodeId
    (tables.graph.nodes.map fun node => node.id.get.toUInt64) "node"
  validateIdentityCursor tables.nextWireId
    (tables.graph.wires.map fun wire => wire.id.get.toUInt64) "wire"

/-- Placements in canonical node order. -/
def canonical : WorkspaceTables :=
  { tables with placements := Table.sortByKey GraphNodePlacement.node tables.placements }

end WorkspaceTables

/-- Saved editor state containing one exact graph and presentation-only canvas. -/
structure GraphWorkspaceDocument [Sha256] extends WorkspaceTables where
  graphDigest : Digest
  sorted : Table.Sorted GraphNodePlacement.node placements
  valid : toWorkspaceTables.validate = .ok ()
  identified : (encodeGraphDocument graph).map CanonicalGraphEncoding.digest = .ok graphDigest

namespace GraphWorkspaceDocument

variable [Sha256]

/-- Validate and canonicalize one complete workspace. -/
def tryNew (limits : GraphWorkspaceLimits) (revision nextNodeId nextWireId : UInt64)
    (graph : GraphDocument) (placements : List GraphNodePlacement) :
    Except GraphWorkspaceError GraphWorkspaceDocument := do
  let tables := WorkspaceTables.canonical
    ⟨limits, revision, nextNodeId, nextWireId, graph, placements⟩
  let ⟨valid⟩ ← tables.validate.attest
  match identified : (encodeGraphDocument graph).map CanonicalGraphEncoding.digest with
  | .ok graphDigest => return ⟨tables, graphDigest, Table.sortByKey_sorted, valid, identified⟩
  | .error error => .error (.graphWire error)

/-- Transactionally move one node; an exact no-op does not advance the revision. -/
def moveNode (workspace : GraphWorkspaceDocument) (node : GraphNodeId) (x y : Int32) :
    Except GraphWorkspaceError GraphWorkspaceDocument := do
  validateCoordinate x workspace.limits
  validateCoordinate y workspace.limits
  let index ← (Table.binarySearch GraphNodePlacement.node node workspace.placements).okOr
    (.unknownNode node)
  if (workspace.placements[index]?).any fun placement => placement.x = x ∧ placement.y = y then
    return workspace
  let revision ← (workspace.revision.checkedAdd 1).okOr (.revisionOverflow "workspace")
  tryNew workspace.limits revision workspace.nextNodeId workspace.nextWireId workspace.graph
    (workspace.placements.set index ⟨node, x, y⟩)

omit [Sha256] in
/-- The identity at a cursor, and the cursor after it. -/
def allocate (cursor : UInt64) (kind : String) : Except GraphWorkspaceError (UInt32 × UInt64) := do
  failIf (cursor.toNat ≥ 2 ^ 32) (.identifierExhausted kind)
  let following ← ((cursor.checkedAdd 1).filter (· ≤ exhaustedU32Cursor)).okOr
    (.identifierExhausted kind)
  return (cursor.toUInt32, following)

/-- The graph revision and the workspace revision after an edit of the graph. -/
def nextRevisions (workspace : GraphWorkspaceDocument) :
    Except GraphWorkspaceError (UInt64 × UInt64) := do
  let graphRevision ← (workspace.graph.revision.checkedAdd 1).okOr (.revisionOverflow "graph")
  let workspaceRevision ← (workspace.revision.checkedAdd 1).okOr (.revisionOverflow "workspace")
  return (graphRevision, workspaceRevision)

/-- The graph of this workspace with other nodes and wires. -/
def rebuildGraph (workspace : GraphWorkspaceDocument) (revision : UInt64)
    (nodes : List NodeDefinition) (wires : List WireDefinition) :
    Except GraphWorkspaceError GraphDocument :=
  (GraphDocument.tryNew revision workspace.graph.schema workspace.graph.clocks nodes
    wires).mapError .graphDocument

/-- Transactionally create one node; the workspace, not the caller, assigns its identity. -/
def createNode (workspace : GraphWorkspaceDocument) (prototype : GraphNodePrototype)
    (x y : Int32) : Except GraphWorkspaceError (GraphWorkspaceDocument × GraphNodeId) := do
  validateCoordinate x workspace.limits
  validateCoordinate y workspace.limits
  let (value, following) ← allocate workspace.nextNodeId "node"
  let (graphRevision, workspaceRevision) ← workspace.nextRevisions
  let id : GraphNodeId := ⟨value⟩
  let graph ← workspace.rebuildGraph graphRevision
    (workspace.graph.nodes ++ [prototype.intoNode id]) workspace.graph.wires
  let candidate ← tryNew workspace.limits workspaceRevision following workspace.nextWireId graph
    (workspace.placements ++ [⟨id, x, y⟩])
  return (candidate, id)

/-- Transactionally remove one node, its placement and all incident wires; no cursor is rewound.
The result counts the wires removed. -/
def deleteNode (workspace : GraphWorkspaceDocument) (id : GraphNodeId) :
    Except GraphWorkspaceError (GraphWorkspaceDocument × Nat) := do
  failIf (workspace.graph.node id).isNone (.unknownNode id)
  let (graphRevision, workspaceRevision) ← workspace.nextRevisions
  let nodes := workspace.graph.nodes.filter fun node => node.id ≠ id
  let wires := workspace.graph.wires.filter fun wire =>
    wire.source.node ≠ id ∧ wire.target.node ≠ id
  let graph ← workspace.rebuildGraph graphRevision nodes wires
  let candidate ← tryNew workspace.limits workspaceRevision workspace.nextNodeId
    workspace.nextWireId graph (workspace.placements.filter fun placement => placement.node ≠ id)
  return (candidate, workspace.graph.wires.length - wires.length)

def replaceNode (workspace : GraphWorkspaceDocument) (replacement : NodeDefinition) :
    Except GraphWorkspaceError GraphWorkspaceDocument := do
  failIf (workspace.graph.node replacement.id).isNone (.unknownNode replacement.id)
  let (graphRevision, workspaceRevision) ← workspace.nextRevisions
  let nodes := workspace.graph.nodes.map fun node =>
    if node.id = replacement.id then replacement else node
  let graph ← workspace.rebuildGraph graphRevision nodes workspace.graph.wires
  tryNew workspace.limits workspaceRevision workspace.nextNodeId workspace.nextWireId graph
    workspace.placements

/-- Transactionally replace one user-facing node label. -/
def setNodeLabel (workspace : GraphWorkspaceDocument) (nodeId : GraphNodeId) (label : String) :
    Except GraphWorkspaceError GraphWorkspaceDocument := do
  let node ← (workspace.graph.node nodeId).okOr (.unknownNode nodeId)
  if node.label = label then
    return workspace
  workspace.replaceNode { node with label }

/-- Transactionally replace one node's concrete execution placement. -/
def setNodeDomain (workspace : GraphWorkspaceDocument) (nodeId : GraphNodeId)
    (domain : ExecutionDomain) : Except GraphWorkspaceError GraphWorkspaceDocument := do
  let node ← (workspace.graph.node nodeId).okOr (.unknownNode nodeId)
  if node.domain = domain then
    return workspace
  workspace.replaceNode { node with domain }

/-- Transactionally replace one exact parameter value, keeping its identity, name and type. -/
def setParameter (workspace : GraphWorkspaceDocument) (nodeId : GraphNodeId)
    (parameterId : UInt32) (value : TypedGraphValue) :
    Except GraphWorkspaceError GraphWorkspaceDocument := do
  let node ← (workspace.graph.node nodeId).okOr (.unknownNode nodeId)
  let parameter ← (node.parameters.find? fun parameter => parameter.id = parameterId).okOr
    (.unknownParameter nodeId parameterId)
  failIf (parameter.value.valueType ≠ value.valueType)
    (.parameterTypeMismatch parameter.value.valueType value.valueType)
  if parameter.value = value then
    return workspace
  let position := node.parameters.findIdx fun parameter => parameter.id = parameterId
  let parameters := node.parameters.set position ⟨parameter.id, parameter.name, value⟩
  workspace.replaceNode { node with parameters }

/-- Transactionally add one wire; existing target ownership is never replaced silently. -/
def connect (workspace : GraphWorkspaceDocument) (source target : WireEndpoint) :
    Except GraphWorkspaceError (GraphWorkspaceDocument × GraphWireId) := do
  let (value, following) ← allocate workspace.nextWireId "wire"
  let (graphRevision, workspaceRevision) ← workspace.nextRevisions
  let id : GraphWireId := ⟨value⟩
  let graph ← workspace.rebuildGraph graphRevision workspace.graph.nodes
    (workspace.graph.wires ++ [⟨id, source, target⟩])
  let candidate ← tryNew workspace.limits workspaceRevision workspace.nextNodeId following graph
    workspace.placements
  return (candidate, id)

/-- Transactionally remove one wire without reusing its identity. -/
def disconnect (workspace : GraphWorkspaceDocument) (id : GraphWireId) :
    Except GraphWorkspaceError GraphWorkspaceDocument := do
  failIf (workspace.graph.wires.all fun wire => wire.id ≠ id) (.unknownWire id)
  let (graphRevision, workspaceRevision) ← workspace.nextRevisions
  let wires := workspace.graph.wires.filter fun wire => wire.id ≠ id
  let graph ← workspace.rebuildGraph graphRevision workspace.graph.nodes wires
  tryNew workspace.limits workspaceRevision workspace.nextNodeId workspace.nextWireId graph
    workspace.placements

end GraphWorkspaceDocument

/-! ## Edits -/

/-- One edit of a workspace. -/
inductive GraphWorkspaceEdit where
  | moveNode (node : GraphNodeId) (x y : Int32)
  | createNode (prototype : GraphNodePrototype) (x y : Int32)
  | deleteNode (id : GraphNodeId)
  | setNodeLabel (node : GraphNodeId) (label : String)
  | setNodeDomain (node : GraphNodeId) (domain : ExecutionDomain)
  | setParameter (node : GraphNodeId) (parameter : UInt32) (value : TypedGraphValue)
  | connect (source target : WireEndpoint)
  | disconnect (id : GraphWireId)

/-- What an edit returns. -/
inductive GraphWorkspaceReply where
  | done
  | created (id : GraphNodeId)
  | deleted (removedWires : Nat)
  | connected (id : GraphWireId)
  deriving DecidableEq

namespace GraphWorkspaceDocument

variable [Sha256]

/-- The workspace after an edit that went through, with what the edit returned. -/
def edited (workspace : GraphWorkspaceDocument) :
    GraphWorkspaceEdit →
      Except GraphWorkspaceError (GraphWorkspaceDocument × GraphWorkspaceReply)
  | .moveNode node x y => (workspace.moveNode node x y).map (·, .done)
  | .createNode prototype x y =>
    (workspace.createNode prototype x y).map fun result => (result.1, .created result.2)
  | .deleteNode id => (workspace.deleteNode id).map fun result => (result.1, .deleted result.2)
  | .setNodeLabel node label => (workspace.setNodeLabel node label).map (·, .done)
  | .setNodeDomain node domain => (workspace.setNodeDomain node domain).map (·, .done)
  | .setParameter node parameter value =>
    (workspace.setParameter node parameter value).map (·, .done)
  | .connect source target =>
    (workspace.connect source target).map fun result => (result.1, .connected result.2)
  | .disconnect id => (workspace.disconnect id).map (·, .done)

/-- Perform one edit; a failed one leaves the workspace as it was. -/
def perform (workspace : GraphWorkspaceDocument) (edit : GraphWorkspaceEdit) :
    GraphWorkspaceDocument × Except GraphWorkspaceError GraphWorkspaceReply :=
  match workspace.edited edit with
  | .ok (next, reply) => (next, .ok reply)
  | .error error => (workspace, .error error)

end GraphWorkspaceDocument

end Alumina.Graph
