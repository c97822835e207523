import Alumina.Spec.DocumentFacts
import Alumina.Spec.WorkspaceIdentity

/-!
# What workspace edits do to the graph

Fresh identities are above all retained ones, and values replace values in place, so a rebuilt
graph is already in canonical order: each edit has exactly the nodes and wires it was given.
-/

namespace Alumina.Graph

open Except (failIf)

/-! ## Facts about nodes and wires -/

theorem GraphDocument.wires_nodup (document : GraphDocument) :
    (document.wires.map WireDefinition.id).Nodup := by
  have hvalid := document.valid
  simp only [DocumentTables.validate, DocumentTables.validateWires, Except.bind_eq_ok,
    Except.exists_unit, Table.walk_eq_ok] at hvalid
  obtain ⟨_, _, _, _, _, _, _, ⟨_, hchain, _⟩, _⟩ := hvalid
  exact (Table.nodup_of_sorted_of_isChain document.sorted.wires hchain).imp ne_of_lt

/-- No two parameters of a node have the same identifier. -/
theorem GraphDocument.parameters_nodup (document : GraphDocument) {node : NodeDefinition}
    (h : node ∈ document.nodes) : (node.parameters.map NodeParameter.id).Nodup := by
  have hvalid := document.validateNode_of_mem h
  simp only [DocumentTables.validateNode, Except.bind_eq_ok, Except.exists_unit,
    Table.walk_eq_ok] at hvalid
  obtain ⟨_, _, _, _, _, _, _, _, ⟨_, hchain, _⟩, _⟩ := hvalid
  have hstrict := Table.nodup_of_sorted_of_isChain (document.sorted.node node h).parameters hchain
  rw [List.pairwise_map] at hstrict
  exact List.pairwise_map.2 (hstrict.imp fun {a b} hlt heq =>
    ne_of_lt hlt (congrArg UInt32.toNat heq))

/-- A node whose parameter gets another value, when it is the node that is meant. -/
def NodeDefinition.withParameter (node : NodeDefinition) (id : GraphNodeId) (parameter : UInt32)
    (value : TypedGraphValue) : NodeDefinition :=
  if node.id = id then
    { node with parameters := node.parameters.map fun own =>
        if own.id = parameter then ⟨own.id, own.name, value⟩ else own }
  else node

@[simp] theorem NodeDefinition.withParameter_id (node : NodeDefinition) (id : GraphNodeId)
    (parameter : UInt32) (value : TypedGraphValue) :
    (node.withParameter id parameter value).id = node.id := by
  unfold withParameter
  split <;> rfl

theorem NodeDefinition.Canonical.withParameter {node : NodeDefinition} (h : node.Canonical)
    (id : GraphNodeId) (parameter : UInt32) (value : TypedGraphValue) :
    (node.withParameter id parameter value).Canonical := by
  unfold NodeDefinition.withParameter
  split
  · refine ⟨h.inputs, h.outputs, List.pairwise_map.2 (h.parameters.imp fun {a b} hle => ?_)⟩
    have hkey : ∀ own : NodeParameter, (if own.id = parameter then
        (⟨own.id, own.name, value⟩ : NodeParameter) else own).id = own.id := by
      intro own
      split <;> rfl
    change (ite _ _ _ : NodeParameter).id.toNat ≤ (ite _ _ _ : NodeParameter).id.toNat
    rw [hkey, hkey]
    exact hle
  · exact h

/-- Giving every parameter the value it has changes nothing. -/
theorem NodeDefinition.withParameter_self {node : NodeDefinition} {id : GraphNodeId}
    {parameter : NodeParameter} (hnodup : (node.parameters.map NodeParameter.id).Nodup)
    (hparameter : parameter ∈ node.parameters) :
    node.withParameter id parameter.id parameter.value = node := by
  have hself : ∀ own ∈ node.parameters, (if own.id = parameter.id then
      (⟨own.id, own.name, parameter.value⟩ : NodeParameter) else own) = own := by
    intro own hown
    by_cases heq : own.id = parameter.id
    · rw [if_pos heq, List.inj_on_of_nodup_map hnodup hown hparameter heq]
    · exact if_neg heq
  unfold withParameter
  split
  · rw [List.map_congr_left hself]
    simp
  · rfl

/-- Replacing the first parameter of an identifier replaces every one. -/
theorem set_findIdx_eq_map {parameters : List NodeParameter} {parameter : NodeParameter}
    {id : UInt32} (value : TypedGraphValue) (hnodup : (parameters.map NodeParameter.id).Nodup)
    (hfound : (parameters.find? fun own => own.id = id) = some parameter) :
    parameters.set (parameters.findIdx fun own => own.id = id)
        ⟨parameter.id, parameter.name, value⟩ =
      parameters.map fun own => if own.id = id then ⟨own.id, own.name, value⟩ else own := by
  induction parameters with
  | nil => cases hfound
  | cons own parameters ih =>
    rw [List.map_cons, List.nodup_cons] at hnodup
    by_cases hid : own.id = id
    · rw [List.find?_cons_of_pos (by simpa using hid)] at hfound
      obtain rfl := Option.some.inj hfound
      have hrest : ∀ other ∈ parameters, (if other.id = id then
          (⟨other.id, other.name, value⟩ : NodeParameter) else other) = other := by
        intro other hother
        refine if_neg fun heq => hnodup.1 ?_
        rw [hid, ← heq]
        exact List.mem_map_of_mem hother
      rw [List.map_cons, List.map_congr_left hrest]
      simp [List.findIdx_cons, hid]
    · rw [List.find?_cons_of_neg (by simpa using hid)] at hfound
      rw [List.map_cons, if_neg hid, ← ih hnodup.2 hfound]
      simp [List.findIdx_cons, hid]

namespace GraphWorkspaceDocument

variable [Sha256] {workspace next : GraphWorkspaceDocument}

/-! ## Rebuilt graphs -/

/-- The graph of a workspace is that of another with the given nodes and wires. -/
structure Rebuilt (before after : GraphWorkspaceDocument) (nodes : List NodeDefinition)
    (wires : List WireDefinition) : Prop where
  schema : after.graph.schema = before.graph.schema
  clocks : after.graph.clocks = before.graph.clocks
  nodes : after.graph.nodes = nodes
  wires : after.graph.wires = wires

theorem Rebuilt.refl (workspace : GraphWorkspaceDocument) :
    Rebuilt workspace workspace workspace.graph.nodes workspace.graph.wires :=
  ⟨rfl, rfl, rfl, rfl⟩

/-- Nodes and wires that are already in canonical order are rebuilt as they are. -/
theorem rebuilt_of_tryNew {graphRevision revision nextNodeId nextWireId : UInt64}
    {nodes : List NodeDefinition} {wires : List WireDefinition} {graph : GraphDocument}
    {placements : List GraphNodePlacement}
    (hgraph : workspace.rebuildGraph graphRevision nodes wires = .ok graph)
    (hnew : tryNew workspace.limits revision nextNodeId nextWireId graph placements = .ok next)
    (hnodes : Table.Sorted NodeDefinition.id nodes) (hnode : ∀ node ∈ nodes, node.Canonical)
    (hwires : Table.Sorted WireDefinition.id wires) : Rebuilt workspace next nodes wires := by
  have htables := tables_of_tryNew hnew
  rw [rebuildGraph, Except.mapError_eq_ok] at hgraph
  have hdocument := GraphDocument.toDocumentTables_of_tryNew hgraph
  have hcanonical : DocumentTables.Canonical ⟨graphRevision, workspace.graph.schema,
      workspace.graph.clocks, nodes, wires⟩ :=
    ⟨workspace.graph.sorted.clocks, hnodes, hwires, hnode⟩
  rw [hcanonical.canonical_eq] at hdocument
  have hgraphEq : next.graph = graph := congrArg WorkspaceTables.graph htables
  refine ⟨?_, ?_, ?_, ?_⟩ <;> rw [hgraphEq, hdocument]

/-- Every node of a workspace is in canonical order. -/
theorem canonical_of_mem {node : NodeDefinition} (h : node ∈ workspace.graph.nodes) :
    node.Canonical :=
  workspace.graph.sorted.node node h

/-- Deleting a node removes it and every wire at it. -/
theorem deleteNode_rebuilt {id : GraphNodeId} {removed : Nat}
    (h : workspace.deleteNode id = .ok (next, removed)) :
    Rebuilt workspace next (workspace.graph.nodes.filter fun node => node.id ≠ id)
        (workspace.graph.wires.filter fun wire => wire.source.node ≠ id ∧ wire.target.node ≠ id) ∧
      next.nextNodeId = workspace.nextNodeId ∧ next.nextWireId = workspace.nextWireId := by
  simp only [deleteNode, Except.bind_eq_ok, Except.exists_unit, Except.pure_eq_ok,
    Prod.mk.injEq] at h
  obtain ⟨_, revisions, hrevisions, graph, hgraph, candidate, hnew, rfl, rfl⟩ := h
  obtain ⟨_, hnodeCursor, hwireCursor⟩ := revised_of_rebuild hrevisions hgraph hnew
  refine ⟨rebuilt_of_tryNew hgraph hnew ?_ ?_ ?_, hnodeCursor, hwireCursor⟩
  · exact workspace.graph.sorted.nodes.sublist List.filter_sublist
  · intro node hnode
    exact canonical_of_mem (List.mem_of_mem_filter hnode)
  · exact workspace.graph.sorted.wires.sublist List.filter_sublist

/-- A created node comes after all others, under the identity at the cursor. -/
theorem createNode_rebuilt {prototype : GraphNodePrototype} {x y : Int32} {id : GraphNodeId}
    (h : workspace.createNode prototype x y = .ok (next, id))
    (hcanonical : (prototype.intoNode id).Canonical) :
    Rebuilt workspace next (workspace.graph.nodes ++ [prototype.intoNode id])
        workspace.graph.wires ∧
      id.get.toNat = workspace.nextNodeId.toNat ∧
      next.nextNodeId.toNat = workspace.nextNodeId.toNat + 1 ∧
      next.nextWireId = workspace.nextWireId := by
  simp only [createNode, Except.bind_eq_ok, Except.exists_unit, Except.pure_eq_ok,
    Prod.mk.injEq] at h
  obtain ⟨_, _, allocated, hallocate, revisions, hrevisions, graph, hgraph, candidate, hnew, rfl,
    rfl⟩ := h
  obtain ⟨hvalue, hfollowing⟩ := allocate_eq_ok hallocate
  obtain ⟨_, hnodeCursor, hwireCursor⟩ := revised_of_rebuild hrevisions hgraph hnew
  refine ⟨rebuilt_of_tryNew hgraph hnew ?_ ?_ workspace.graph.sorted.wires, hvalue, ?_,
    hwireCursor⟩
  · refine List.pairwise_append.2 ⟨workspace.graph.sorted.nodes, List.pairwise_singleton _ _, ?_⟩
    intro node hnode created hcreated
    obtain rfl := List.mem_singleton.1 hcreated
    have hlt := node_lt_cursor (List.mem_map_of_mem hnode)
    exact (hlt.trans_eq hvalue.symm).le
  · intro node hnode
    rcases List.mem_append.1 hnode with hnode | hnode
    · exact canonical_of_mem hnode
    · obtain rfl := List.mem_singleton.1 hnode
      exact hcanonical
  · rw [hnodeCursor, hfollowing]

/-- A new wire comes after all others, under the identity at the cursor. -/
theorem connect_rebuilt {source target : WireEndpoint} {id : GraphWireId}
    (h : workspace.connect source target = .ok (next, id)) :
    Rebuilt workspace next workspace.graph.nodes
        (workspace.graph.wires ++ [⟨id, source, target⟩]) ∧
      id.get.toNat = workspace.nextWireId.toNat ∧
      next.nextNodeId = workspace.nextNodeId ∧
      next.nextWireId.toNat = workspace.nextWireId.toNat + 1 := by
  simp only [connect, Except.bind_eq_ok, Except.pure_eq_ok, Prod.mk.injEq] at h
  obtain ⟨allocated, hallocate, revisions, hrevisions, graph, hgraph, candidate, hnew, rfl,
    rfl⟩ := h
  obtain ⟨hvalue, hfollowing⟩ := allocate_eq_ok hallocate
  obtain ⟨_, hnodeCursor, hwireCursor⟩ := revised_of_rebuild hrevisions hgraph hnew
  refine ⟨rebuilt_of_tryNew hgraph hnew workspace.graph.sorted.nodes
    (fun node hnode => canonical_of_mem hnode) ?_, hvalue, hnodeCursor, ?_⟩
  · refine List.pairwise_append.2 ⟨workspace.graph.sorted.wires, List.pairwise_singleton _ _, ?_⟩
    intro wire hwire created hcreated
    obtain rfl := List.mem_singleton.1 hcreated
    have hlt := wire_lt_cursor (List.mem_map_of_mem hwire)
    exact (hlt.trans_eq hvalue.symm).le
  · rw [hwireCursor, hfollowing]

/-- Replacing a node by one of the same identity replaces it in place. -/
theorem replaceNode_rebuilt {replacement : NodeDefinition}
    (h : workspace.replaceNode replacement = .ok next) (hcanonical : replacement.Canonical) :
    Rebuilt workspace next (workspace.graph.nodes.map fun node =>
      if node.id = replacement.id then replacement else node) workspace.graph.wires := by
  simp only [replaceNode, Except.bind_eq_ok, Except.exists_unit] at h
  obtain ⟨_, revisions, hrevisions, graph, hgraph, hnew⟩ := h
  have hkey : ∀ node : NodeDefinition,
      (if node.id = replacement.id then replacement else node).id = node.id := by
    intro node
    split
    case isTrue heq => exact heq.symm
    case isFalse => rfl
  refine rebuilt_of_tryNew hgraph hnew ?_ ?_ workspace.graph.sorted.wires
  · refine List.pairwise_map.2 (workspace.graph.sorted.nodes.imp fun {a b} hle => ?_)
    rw [hkey, hkey]
    exact hle
  · intro node hnode
    obtain ⟨own, hown, rfl⟩ := List.mem_map.1 hnode
    split
    · exact hcanonical
    · exact canonical_of_mem hown

/-- Setting a parameter changes one value. -/
theorem setParameter_rebuilt {node : GraphNodeId} {parameter : UInt32} {value : TypedGraphValue}
    (h : workspace.setParameter node parameter value = .ok next) :
    Rebuilt workspace next
      (workspace.graph.nodes.map fun own => own.withParameter node parameter value)
      workspace.graph.wires := by
  simp only [setParameter, Except.bind_eq_ok, Except.exists_unit, Option.okOr_eq_ok] at h
  obtain ⟨definition, hdefinition, found, hfound, _, h⟩ := h
  have hmem := Table.mem_of_lookup hdefinition
  have hid := Table.key_of_lookup hdefinition
  have hnodup := workspace.graph.parameters_nodup hmem
  have hmap := set_findIdx_eq_map value hnodup hfound
  have hreplacement : definition.withParameter node parameter value =
      ⟨definition.id, definition.kind, definition.label, definition.domain, definition.inputs,
        definition.outputs, definition.parameters.set
          (definition.parameters.findIdx fun own => own.id = parameter)
          ⟨found.id, found.name, value⟩⟩ := by
    rw [hmap, NodeDefinition.withParameter, if_pos hid]
  -- only the node that is meant has its identity
  have hnodes : (workspace.graph.nodes.map fun own =>
      if own.id = (definition.withParameter node parameter value).id then
        definition.withParameter node parameter value else own) =
      workspace.graph.nodes.map fun own => own.withParameter node parameter value := by
    refine List.map_congr_left fun own hown => ?_
    rw [NodeDefinition.withParameter_id]
    by_cases heq : own.id = definition.id
    · rw [if_pos heq, List.inj_on_of_nodup_map workspace.graph.nodes_nodup hown hmem heq]
    · rw [if_neg heq, NodeDefinition.withParameter, if_neg fun hnode => heq (hnode.trans hid.symm)]
  split at h
  case isTrue hsame =>
    cases h
    have hkeep : definition.withParameter node found.id found.value = definition :=
      NodeDefinition.withParameter_self hnodup (List.mem_of_find?_eq_some hfound)
    have hparameter : found.id = parameter := by simpa using List.find?_some hfound
    rw [hparameter, hsame] at hkeep
    have hself : (workspace.graph.nodes.map fun own => own.withParameter node parameter value) =
        workspace.graph.nodes := by
      rw [← hnodes, hkeep]
      refine (List.map_congr_left fun own hown => ?_).trans (List.map_id _)
      by_cases heq : own.id = definition.id
      · rw [if_pos heq, List.inj_on_of_nodup_map workspace.graph.nodes_nodup hown hmem heq, id]
      · rw [if_neg heq, id]
    rw [hself]
    exact Rebuilt.refl workspace
  case isFalse =>
    have hcanonical := (canonical_of_mem hmem).withParameter node parameter value
    rw [hreplacement] at hcanonical
    have hrebuilt := replaceNode_rebuilt h hcanonical
    rwa [← hreplacement, hnodes] at hrebuilt

end GraphWorkspaceDocument

end Alumina.Graph
