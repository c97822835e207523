import Alumina.Graph.HierarchyWire

/-!
# Flattening of a hierarchy

`flattenGraphHierarchy` removes one instance node after the other from the root workspace, copies
the nodes and wires of its component under fresh identities, and reconnects the wires of the
instance to the nodes behind its public terminals. Every final node and wire is traced back to the
occurrence it was copied from.
-/

namespace Alumina.Graph

open Except (failIf)

/-! ## Provenance -/

/-- Authoring origin of a flattened node. -/
inductive GraphHierarchyNodeOrigin where
  | root (node : GraphNodeId)
  | component (sourcePath : List GraphNodeId) (component : Digest) (node : GraphNodeId)
  deriving DecidableEq

/-- Authoring origin of a flattened wire. -/
inductive GraphHierarchyWireOrigin where
  | root (wire : GraphWireId)
  | component (sourcePath : List GraphNodeId) (component : Digest) (wire : GraphWireId)
  deriving DecidableEq

structure GraphFlattenedNode where
  componentNode : GraphNodeId
  flattenedNode : GraphNodeId
  deriving DecidableEq

/-- Report for one removed instance node. -/
structure GraphFlattenedInstance where
  instanceNode : GraphNodeId
  sourcePath : List GraphNodeId
  component : Digest
  nodes : List GraphFlattenedNode
  deriving DecidableEq

structure GraphFlattenedNodeProvenance where
  origin : GraphHierarchyNodeOrigin
  flattenedNode : GraphNodeId
  deriving DecidableEq

structure GraphFlattenedWireProvenance where
  origin : GraphHierarchyWireOrigin
  flattenedWire : GraphWireId
  deriving DecidableEq

/-- Flattened workspace and audit report. -/
structure GraphHierarchyFlattening [Sha256] where
  sourceDigest : Digest
  workspace : GraphWorkspaceDocument
  encoding : CanonicalGraphWorkspaceEncoding
  instances : List GraphFlattenedInstance
  nodeProvenance : List GraphFlattenedNodeProvenance
  wireProvenance : List GraphFlattenedWireProvenance

/-- A `BTreeMap` of the source: at most one entry for each key. -/
abbrev EntryMap (κ α : Type) := List (κ × α)

namespace EntryMap

variable {κ α : Type} [DecidableEq κ] (map : EntryMap κ α)

def get (key : κ) : Option α := (Table.lookup Prod.fst key map).map Prod.snd

def erase (key : κ) : EntryMap κ α := map.filter fun entry => entry.1 ≠ key

/-- Store an entry, in place of the one that was there. -/
def insert (key : κ) (value : α) : EntryMap κ α := (key, value) :: EntryMap.erase map key

end EntryMap

/-! ## One occurrence -/

section Flatten

variable [Sha256]

/-- What a flattening works on. -/
structure FlattenState where
  workspace : GraphWorkspaceDocument
  reports : List GraphFlattenedInstance
  wireOrigins : EntryMap GraphWireId GraphHierarchyWireOrigin

/-- `GraphWorkspaceDocument::placement` -/
def GraphWorkspaceDocument.placement (workspace : GraphWorkspaceDocument) (node : GraphNodeId) :
    Option GraphNodePlacement :=
  (Table.binarySearch GraphNodePlacement.node node workspace.placements).bind
    (workspace.placements[·]?)

omit [Sha256] in
/-- A workspace edit inside a flattening. -/
def liftEdit {α : Type} (edit : Except GraphWorkspaceError α) : Except GraphHierarchyError α :=
  edit.mapError fun error => .workspace (.workspace error)

omit [Sha256] in
/-- `translated_coordinate`: the sum in 64 bits, back in 32 or not at all. -/
def translatedCoordinate (root child origin : Int32) (instanceNode componentNode : GraphNodeId) :
    Except GraphHierarchyError Int32 := do
  let translated := root.toInt + (child.toInt - origin.toInt)
  failIf (translated < -2 ^ 31 ∨ 2 ^ 31 ≤ translated)
    (.placementOverflow instanceNode componentNode)
  return .ofInt translated

omit [Sha256] in
/-- The least coordinate of a canvas, zero when it is empty. -/
def leastCoordinate (coordinates : List Int32) : Int32 :=
  (coordinates.min?).getD 0

omit [Sha256] in
/-- `remap_component_endpoint` -/
def remapComponentEndpoint (nodeMap : EntryMap GraphNodeId GraphNodeId) (endpoint : WireEndpoint) :
    Except GraphHierarchyError WireEndpoint := do
  let node ← (EntryMap.get nodeMap endpoint.node).okOr .nonCanonical
  return ⟨node, endpoint.port⟩

/-- The internal input behind an instance's input port. -/
def publicInputTarget (component : GraphComponentDocument) (port : GraphPortId) :
    Option WireEndpoint :=
  if port.get.toNat < 1 then none
  else (component.inputs[port.get.toNat - 1]?).map GraphComponentInput.target

/-- The internal output behind an instance's output port. -/
def publicOutputSource (component : GraphComponentDocument) (port : GraphPortId) :
    Option WireEndpoint :=
  if port.get.toNat < component.inputs.length + 1 then none
  else (component.outputs[port.get.toNat - component.inputs.length - 1]?).map
    GraphComponentOutput.source

/-- `remap_public_input` -/
def remapPublicInput (component : GraphComponentDocument) (endpoint : WireEndpoint)
    (nodeMap : EntryMap GraphNodeId GraphNodeId) : Except GraphHierarchyError WireEndpoint := do
  let target ← (publicInputTarget component endpoint.port).okOr (.unknownInstancePort endpoint)
  remapComponentEndpoint nodeMap target

/-- `remap_public_output` -/
def remapPublicOutput (component : GraphComponentDocument) (endpoint : WireEndpoint)
    (nodeMap : EntryMap GraphNodeId GraphNodeId) : Except GraphHierarchyError WireEndpoint := do
  let source ← (publicOutputSource component endpoint.port).okOr (.unknownInstancePort endpoint)
  remapComponentEndpoint nodeMap source

/-- Give a promoted parameter's value to the node it stands for. -/
def setPromoted (component : GraphComponentDocument) (workspace : GraphWorkspaceDocument)
    (parameter : NodeParameter) : Except GraphHierarchyError GraphWorkspaceDocument := do
  let (node, nodeParameter) ← (graphComponentInstanceParameterTarget component
    ⟨parameter.id⟩).okOr .nonCanonical
  liftEdit (workspace.setParameter node nodeParameter parameter.value)

/-- Detach one wire of an instance from its recorded origin. -/
def takeIncident (origins : EntryMap GraphWireId GraphHierarchyWireOrigin) (wire : WireDefinition) :
    Except GraphHierarchyError (EntryMap GraphWireId GraphHierarchyWireOrigin ×
      WireDefinition × GraphHierarchyWireOrigin) := do
  let origin ← (EntryMap.get origins wire.id).okOr .nonCanonical
  return (EntryMap.erase origins wire.id, wire, origin)

/-- Progress of the copies of a component's nodes. -/
structure NodeCopies where
  workspace : GraphWorkspaceDocument
  nodeMap : EntryMap GraphNodeId GraphNodeId
  nodes : List GraphFlattenedNode

/-- Copy one node of a component to its place next to the removed instance. -/
def copyNode (component : GraphWorkspaceDocument) (instanceNode : GraphNodeId)
    (placement : GraphNodePlacement) (copies : NodeCopies) (node : NodeDefinition) :
    Except GraphHierarchyError NodeCopies := do
  let own ← (component.placement node.id).okOr .nonCanonical
  let x ← translatedCoordinate placement.x own.x
    (leastCoordinate (component.placements.map GraphNodePlacement.x)) instanceNode node.id
  let y ← translatedCoordinate placement.y own.y
    (leastCoordinate (component.placements.map GraphNodePlacement.y)) instanceNode node.id
  let prototype : GraphNodePrototype := ⟨node.kind, node.label, node.domain, node.inputs,
    node.outputs, node.parameters⟩
  let (workspace, flattened) ← liftEdit (copies.workspace.createNode prototype x y)
  return ⟨workspace, EntryMap.insert copies.nodeMap node.id flattened,
    if node.isInstance then copies.nodes else copies.nodes ++ [⟨node.id, flattened⟩]⟩

/-- Connect two endpoints and record where the wire comes from. -/
def connectOrigin (source target : WireEndpoint) (origin : GraphHierarchyWireOrigin)
    (state : GraphWorkspaceDocument × EntryMap GraphWireId GraphHierarchyWireOrigin) :
    Except GraphHierarchyError
      (GraphWorkspaceDocument × EntryMap GraphWireId GraphHierarchyWireOrigin) := do
  let (workspace, wire) ← liftEdit (state.1.connect source target)
  failIf (EntryMap.get state.2 wire).isSome .nonCanonical
  return (workspace, EntryMap.insert state.2 wire origin)

/-- Copy one wire of a component. -/
def copyWire (nodeMap : EntryMap GraphNodeId GraphNodeId) (sourcePath : List GraphNodeId)
    (component : Digest)
    (state : GraphWorkspaceDocument × EntryMap GraphWireId GraphHierarchyWireOrigin)
    (wire : WireDefinition) : Except GraphHierarchyError
      (GraphWorkspaceDocument × EntryMap GraphWireId GraphHierarchyWireOrigin) := do
  let source ← remapComponentEndpoint nodeMap wire.source
  let target ← remapComponentEndpoint nodeMap wire.target
  connectOrigin source target (.component sourcePath component wire.id) state

/-- Reconnect one wire of the removed instance. -/
def reconnectWire (component : GraphComponentDocument) (instanceNode : GraphNodeId)
    (nodeMap : EntryMap GraphNodeId GraphNodeId)
    (state : GraphWorkspaceDocument × EntryMap GraphWireId GraphHierarchyWireOrigin)
    (incident : WireDefinition × GraphHierarchyWireOrigin) : Except GraphHierarchyError
      (GraphWorkspaceDocument × EntryMap GraphWireId GraphHierarchyWireOrigin) := do
  let source ← if incident.1.source.node = instanceNode then
      remapPublicOutput component incident.1.source nodeMap
    else pure incident.1.source
  let target ← if incident.1.target.node = instanceNode then
      remapPublicInput component incident.1.target nodeMap
    else pure incident.1.target
  connectOrigin source target incident.2 state

/-- Replace one instance node by a copy of its component (`flatten_instance`). -/
def flattenInstance (state : FlattenState) (instanceNode : GraphNodeId) (componentDigest : Digest)
    (sourcePath : List GraphNodeId) (component : GraphComponentDocument) :
    Except GraphHierarchyError (FlattenState × EntryMap GraphNodeId GraphNodeId) := do
  let definition ← (state.workspace.graph.node instanceNode).okOr .nonCanonical
  let placement ← (state.workspace.placement instanceNode).okOr .nonCanonical
  let incidentWires := state.workspace.graph.wires.filter fun wire =>
    wire.source.node = instanceNode ∨ wire.target.node = instanceNode
  let (origins, incident) ← incidentWires.foldlM (fun (origins, incident) wire => do
    let (origins, taken) ← takeIncident origins wire
    return (origins, incident ++ [taken])) (state.wireOrigins, [])
  let (remaining, _) ← liftEdit (state.workspace.deleteNode instanceNode)
  let componentWorkspace ← definition.parameters.foldlM (setPromoted component)
    component.workspace
  let copies ← componentWorkspace.graph.nodes.foldlM
    (copyNode componentWorkspace instanceNode placement) ⟨remaining, [], []⟩
  let copied ← componentWorkspace.graph.wires.foldlM
    (copyWire copies.nodeMap sourcePath componentDigest) (copies.workspace, origins)
  let (workspace, wireOrigins) ← incident.foldlM
    (reconnectWire component instanceNode copies.nodeMap) copied
  let report : GraphFlattenedInstance := ⟨instanceNode, sourcePath, componentDigest, copies.nodes⟩
  return (⟨workspace, state.reports ++ [report], wireOrigins⟩, copies.nodeMap)

/-! ## All occurrences -/

/-- Replace one instance node and everything nested in it (`flatten_instance_tree`). A source path
within the nesting limit never uses up the first argument. -/
def flattenInstanceTree (hierarchy : GraphHierarchyDocument) : Nat → FlattenState → GraphNodeId →
    GraphComponentInstance → List GraphNodeId → Except GraphHierarchyError FlattenState
  | 0, _, _, _, _ => .error (.limitExceeded "nesting depth")
  | levels + 1, state, instanceNode, binding, sourcePath => do
    failIf (sourcePath.length > hierarchy.limits.maximumNestingDepth)
      (.limitExceeded "nesting depth")
    let dependency ← (hierarchy.dependency binding.component).okOr
      (.unknownComponent binding.component)
    let (state, nodeMap) ← flattenInstance state instanceNode binding.component sourcePath
      dependency.document
    (hierarchy.scopeInstances (.component binding.component)).foldlM (fun state nested => do
      let nestedNode ← (EntryMap.get nodeMap nested.node).okOr .nonCanonical
      flattenInstanceTree hierarchy levels state nestedNode nested (sourcePath ++ [nested.node]))
      state

/-- Replace every instance node of the root. -/
def flattenRoots (hierarchy : GraphHierarchyDocument) (state : FlattenState) :
    Except GraphHierarchyError FlattenState :=
  (hierarchy.scopeInstances .root).foldlM (fun state binding =>
    flattenInstanceTree hierarchy (hierarchy.limits.maximumNestingDepth + 1) state binding.node
      binding [binding.node]) state

/-- Record where the copies of one removed instance come from. -/
def reportOrigins (origins : EntryMap GraphNodeId GraphHierarchyNodeOrigin)
    (report : GraphFlattenedInstance) :
    Except GraphHierarchyError (EntryMap GraphNodeId GraphHierarchyNodeOrigin) :=
  report.nodes.foldlM (fun origins mapping => do
    failIf (EntryMap.get origins mapping.flattenedNode).isSome .nonCanonical
    return EntryMap.insert origins mapping.flattenedNode
      (.component report.sourcePath report.component mapping.componentNode)) origins

/-- Where every final node comes from: the root's own nodes, and all copies. -/
def nodeOrigins (root : GraphWorkspaceDocument) (reports : List GraphFlattenedInstance) :
    Except GraphHierarchyError (EntryMap GraphNodeId GraphHierarchyNodeOrigin) :=
  reports.foldlM reportOrigins
    ((root.graph.nodes.filter fun node => !node.isInstance).map fun node => (node.id, .root node.id))

/-- Remove every instance node and reconnect all public terminals to fresh copies of the
component nodes. -/
def flattenGraphHierarchy (hierarchy : GraphHierarchyDocument) :
    Except GraphHierarchyError GraphHierarchyFlattening := do
  let source ← encodeGraphHierarchy hierarchy
  let state ← flattenRoots hierarchy ⟨hierarchy.root, [],
    hierarchy.root.graph.wires.map fun wire => (wire.id, .root wire.id)⟩
  let graph := state.workspace.graph
  failIf (graph.nodes.length ≠ hierarchy.flattened.nodes) .nonCanonical
  failIf (graph.wires.length ≠ hierarchy.flattened.wires) .nonCanonical
  failIf (graph.nodes.any NodeDefinition.isInstance) .nonCanonical
  failIf (state.reports.length ≠ hierarchy.flattened.instances) .nonCanonical
  failIf (state.wireOrigins.length ≠ graph.wires.length ∨
    ¬ graph.wires.all fun wire => (EntryMap.get state.wireOrigins wire.id).isSome) .nonCanonical
  let origins ← nodeOrigins hierarchy.root state.reports
  failIf (origins.length ≠ graph.nodes.length ∨
    ¬ graph.nodes.all fun node => (EntryMap.get origins node.id).isSome) .nonCanonical
  let encoding ← (encodeGraphWorkspace state.workspace).mapError .workspace
  return {
    sourceDigest := source.digest
    workspace := state.workspace
    encoding := encoding
    instances := state.reports
    nodeProvenance := (Table.sortByKey Prod.fst origins).map fun entry => ⟨entry.2, entry.1⟩
    wireProvenance := (Table.sortByKey Prod.fst state.wireOrigins).map fun entry =>
      ⟨entry.2, entry.1⟩ }

end Flatten

end Alumina.Graph
