import Alumina.ForStd.Run
import Alumina.Graph.Workspace

/-!
# Workspace identities are never reused

The construction check keeps both identity cursors beyond every retained identity, and an edit
moves a cursor only by assigning the identity at it. So whatever was retained at some point of a
run of edits, deleted or not, stays below the cursors from then on.

Key results:
- `GraphWorkspaceDocument.edited_outcome`: what an edit that goes through can do
- `GraphWorkspaceDocument.workspaceIdentities`: identities, cursors, placements and revisions over
  every sequence of edits
-/

namespace Alumina.Graph

open Except (failIf)

/-! ## What construction checks -/

private theorem toNat_le_max (a b : UInt64) : a.toNat ≤ (max a b).toNat ∧
    b.toNat ≤ (max a b).toNat := by
  change a.toNat ≤ (if a ≤ b then b else a).toNat ∧ b.toNat ≤ (if a ≤ b then b else a).toNat
  split
  case isTrue h => exact ⟨UInt64.le_iff_toNat_le.1 h, le_refl _⟩
  case isFalse h =>
    rw [UInt64.le_iff_toNat_le] at h
    omega

private theorem le_foldl_max {ids : List UInt64} (greatest : UInt64) :
    greatest.toNat ≤ (ids.foldl max greatest).toNat ∧
      ∀ id ∈ ids, id.toNat ≤ (ids.foldl max greatest).toNat := by
  induction ids generalizing greatest with
  | nil => simp
  | cons first ids ih =>
    obtain ⟨hgreatest, hids⟩ := ih (max greatest first)
    obtain ⟨hleft, hright⟩ := toNat_le_max greatest first
    rw [List.foldl_cons, List.forall_mem_cons]
    exact ⟨hleft.trans hgreatest, hright.trans hgreatest, hids⟩

theorem validateIdentityCursor_eq_ok {cursor : UInt64} {retained : List UInt64} {kind : String}
    (h : validateIdentityCursor cursor retained kind = .ok ()) :
    (∀ id ∈ retained, id.toNat < cursor.toNat) ∧ cursor.toNat ≤ 2 ^ 32 := by
  simp only [validateIdentityCursor, Except.bind_eq_ok, Option.okOr_eq_ok,
    UInt64.checkedAdd_eq_some, Except.failIf_eq_ok, not_or, gt_iff_lt,
    UInt64.lt_iff_toNat_lt, not_lt] at h
  obtain ⟨minimum, hminimum, hlow, _, hhigh⟩ := h
  refine ⟨?_, hhigh⟩
  intro id hid
  have hone : (1 : UInt64).toNat = 1 := rfl
  have hle := (le_foldl_max 0).2 id hid
  omega

namespace GraphWorkspaceDocument

variable [Sha256] {workspace next : GraphWorkspaceDocument}

theorem validate_parts (workspace : GraphWorkspaceDocument) :
    validatePlacements workspace.graph workspace.placements workspace.limits = .ok () ∧
      validateIdentityCursor workspace.nextNodeId
        (workspace.graph.nodes.map fun node => node.id.get.toUInt64) "node" = .ok () ∧
      validateIdentityCursor workspace.nextWireId
        (workspace.graph.wires.map fun wire => wire.id.get.toUInt64) "wire" = .ok () := by
  have h := workspace.valid
  simp only [WorkspaceTables.validate, Except.bind_eq_ok, Except.exists_unit] at h
  exact h.2.2

theorem nextNodeId_le (workspace : GraphWorkspaceDocument) : workspace.nextNodeId.toNat ≤ 2 ^ 32 :=
  (validateIdentityCursor_eq_ok workspace.validate_parts.2.1).2

theorem nextWireId_le (workspace : GraphWorkspaceDocument) : workspace.nextWireId.toNat ≤ 2 ^ 32 :=
  (validateIdentityCursor_eq_ok workspace.validate_parts.2.2).2

/-- Every retained node identity is below the node cursor. -/
theorem node_lt_cursor {id : GraphNodeId} (h : id ∈ workspace.graph.nodes.map NodeDefinition.id) :
    id.get.toNat < workspace.nextNodeId.toNat := by
  obtain ⟨node, hnode, rfl⟩ := List.mem_map.1 h
  have hlt := (validateIdentityCursor_eq_ok workspace.validate_parts.2.1).1 _
    (List.mem_map_of_mem hnode)
  simpa using hlt

/-- Every retained wire identity is below the wire cursor. -/
theorem wire_lt_cursor {id : GraphWireId} (h : id ∈ workspace.graph.wires.map WireDefinition.id) :
    id.get.toNat < workspace.nextWireId.toNat := by
  obtain ⟨wire, hwire, rfl⟩ := List.mem_map.1 h
  have hlt := (validateIdentityCursor_eq_ok workspace.validate_parts.2.2).1 _
    (List.mem_map_of_mem hwire)
  simpa using hlt

/-- Every node has exactly one placement. -/
theorem count_placements {node : NodeDefinition} (h : node ∈ workspace.graph.nodes) :
    (workspace.placements.map GraphNodePlacement.node).count node.id = 1 := by
  have hvalid := workspace.validate_parts.1
  simp only [validatePlacements, Except.bind_eq_ok, Except.exists_unit, Table.walk_eq_ok,
    Except.forEach_eq_ok, Except.failIf_eq_ok] at hvalid
  obtain ⟨⟨_, hchain, _⟩, hplaced⟩ := hvalid
  have hstrict := Table.nodup_of_sorted_of_isChain workspace.sorted hchain
  refine List.count_eq_one_of_mem (hstrict.imp ne_of_lt) ?_
  have hfound := hplaced node h
  obtain ⟨index, hindex⟩ := Option.ne_none_iff_exists'.1 (mt Option.isNone_iff_eq_none.2 hfound)
  have hkey := Table.binarySearch_eq_some hindex
  rw [← List.getElem?_map] at hkey
  exact List.mem_of_getElem? hkey

/-! ## What an edit can do -/

section Edits

theorem tables_of_tryNew {limits : GraphWorkspaceLimits} {revision nextNodeId nextWireId : UInt64}
    {graph : GraphDocument} {placements : List GraphNodePlacement}
    (h : tryNew limits revision nextNodeId nextWireId graph placements = .ok next) :
    next.toWorkspaceTables = WorkspaceTables.canonical
      ⟨limits, revision, nextNodeId, nextWireId, graph, placements⟩ := by
  simp only [tryNew, Except.bind_eq_ok] at h
  obtain ⟨_, _, h⟩ := h
  split at h
  · cases h
    rfl
  · cases h

omit [Sha256] in
theorem allocate_eq_ok {cursor following : UInt64} {kind : String} {value : UInt32}
    (h : allocate cursor kind = .ok (value, following)) :
    value.toNat = cursor.toNat ∧ following.toNat = cursor.toNat + 1 := by
  simp only [allocate, Except.bind_eq_ok, Except.exists_unit, Except.failIf_eq_ok, not_le,
    Option.okOr_eq_ok, Option.filter_eq_some_iff, UInt64.checkedAdd_eq_some, ge_iff_le,
    Except.pure_eq_ok, Prod.mk.injEq] at h
  obtain ⟨hbound, other, ⟨hother, _⟩, rfl, rfl⟩ := h
  refine ⟨?_, hother⟩
  rw [UInt64.toNat_toUInt32]
  exact Nat.mod_eq_of_lt hbound

/-- The revisions of the workspace and of its graph advance by one. -/
structure Revised (before after : GraphWorkspaceDocument) : Prop where
  workspace : after.revision.toNat = before.revision.toNat + 1
  graph : after.graph = before.graph ∨ after.graph.revision.toNat = before.graph.revision.toNat + 1

/-- What an edit that goes through can do to the identities of a workspace. -/
inductive Outcome (before : GraphWorkspaceDocument) :
    GraphWorkspaceDocument → GraphWorkspaceReply → Prop
  | unchanged : Outcome before before .done
  | kept {after : GraphWorkspaceDocument} {reply : GraphWorkspaceReply}
      (hreply : reply = .done ∨ ∃ removed, reply = .deleted removed)
      (hrevised : Revised before after) (hnode : after.nextNodeId = before.nextNodeId)
      (hwire : after.nextWireId = before.nextWireId) : Outcome before after reply
  | created {after : GraphWorkspaceDocument} {id : GraphNodeId} (hrevised : Revised before after)
      (hid : id.get.toNat = before.nextNodeId.toNat)
      (hnode : after.nextNodeId.toNat = before.nextNodeId.toNat + 1)
      (hwire : after.nextWireId = before.nextWireId) : Outcome before after (.created id)
  | connected {after : GraphWorkspaceDocument} {id : GraphWireId}
      (hrevised : Revised before after) (hid : id.get.toNat = before.nextWireId.toNat)
      (hnode : after.nextNodeId = before.nextNodeId)
      (hwire : after.nextWireId.toNat = before.nextWireId.toNat + 1) :
      Outcome before after (.connected id)

/-- A candidate around a rebuilt graph holds both next revisions and the given cursors. -/
theorem revised_of_rebuild {graphRevision workspaceRevision nextNodeId nextWireId : UInt64}
    {nodes : List NodeDefinition} {wires : List WireDefinition} {graph : GraphDocument}
    {placements : List GraphNodePlacement}
    (hrevisions : workspace.nextRevisions = .ok (graphRevision, workspaceRevision))
    (hgraph : workspace.rebuildGraph graphRevision nodes wires = .ok graph)
    (hnew : tryNew workspace.limits workspaceRevision nextNodeId nextWireId graph placements =
      .ok next) :
    Revised workspace next ∧ next.nextNodeId = nextNodeId ∧ next.nextWireId = nextWireId := by
  have htables := tables_of_tryNew hnew
  simp only [nextRevisions, Except.bind_eq_ok, Option.okOr_eq_ok, UInt64.checkedAdd_eq_some,
    Except.pure_eq_ok, Prod.mk.injEq] at hrevisions
  obtain ⟨_, hgraphRevision, _, hworkspaceRevision, rfl, rfl⟩ := hrevisions
  rw [rebuildGraph, Except.mapError_eq_ok] at hgraph
  have hdocument := GraphDocument.toDocumentTables_of_tryNew hgraph
  have hgraphEq : next.graph = graph := congrArg WorkspaceTables.graph htables
  refine ⟨⟨?_, Or.inr ?_⟩, congrArg WorkspaceTables.nextNodeId htables,
    congrArg WorkspaceTables.nextWireId htables⟩
  · rw [congrArg WorkspaceTables.revision htables]
    exact hworkspaceRevision
  · rw [hgraphEq, congrArg DocumentTables.revision hdocument]
    exact hgraphRevision

theorem moveNode_outcome {node : GraphNodeId} {x y : Int32}
    (h : workspace.moveNode node x y = .ok next) : Outcome workspace next .done := by
  simp only [moveNode, Except.bind_eq_ok, Except.exists_unit] at h
  obtain ⟨_, _, index, _, h⟩ := h
  split at h
  · cases h
    exact .unchanged
  · simp only [Except.bind_eq_ok, Option.okOr_eq_ok, UInt64.checkedAdd_eq_some] at h
    obtain ⟨revision, hrevision, hnew⟩ := h
    have htables := tables_of_tryNew hnew
    have hgraph := congrArg WorkspaceTables.graph htables
    have hnode := congrArg WorkspaceTables.nextNodeId htables
    have hwire := congrArg WorkspaceTables.nextWireId htables
    refine .kept (Or.inl rfl) ⟨?_, Or.inl hgraph⟩ hnode hwire
    rw [congrArg WorkspaceTables.revision htables]
    exact hrevision

theorem createNode_outcome {prototype : GraphNodePrototype} {x y : Int32} {id : GraphNodeId}
    (h : workspace.createNode prototype x y = .ok (next, id)) :
    Outcome workspace next (.created id) := by
  simp only [createNode, Except.bind_eq_ok, Except.exists_unit, Except.pure_eq_ok,
    Prod.mk.injEq] at h
  obtain ⟨_, _, allocated, hallocate, revisions, hrevisions, graph, hgraph, candidate, hnew, rfl,
    rfl⟩ := h
  obtain ⟨hvalue, hfollowing⟩ := allocate_eq_ok hallocate
  obtain ⟨hrevised, hnode, hwire⟩ := revised_of_rebuild hrevisions hgraph hnew
  exact .created hrevised hvalue (by rw [hnode, hfollowing]) hwire

theorem deleteNode_outcome {id : GraphNodeId} {removed : Nat}
    (h : workspace.deleteNode id = .ok (next, removed)) :
    Outcome workspace next (.deleted removed) := by
  simp only [deleteNode, Except.bind_eq_ok, Except.exists_unit, Except.pure_eq_ok,
    Prod.mk.injEq] at h
  obtain ⟨_, revisions, hrevisions, graph, hgraph, candidate, hnew, rfl, rfl⟩ := h
  obtain ⟨hrevised, hnode, hwire⟩ := revised_of_rebuild hrevisions hgraph hnew
  exact .kept (Or.inr ⟨_, rfl⟩) hrevised hnode hwire

theorem replaceNode_outcome {replacement : NodeDefinition}
    (h : workspace.replaceNode replacement = .ok next) : Outcome workspace next .done := by
  simp only [replaceNode, Except.bind_eq_ok, Except.exists_unit] at h
  obtain ⟨_, revisions, hrevisions, graph, hgraph, hnew⟩ := h
  obtain ⟨hrevised, hnode, hwire⟩ := revised_of_rebuild hrevisions hgraph hnew
  exact .kept (Or.inl rfl) hrevised hnode hwire

theorem setNodeLabel_outcome {node : GraphNodeId} {label : String}
    (h : workspace.setNodeLabel node label = .ok next) : Outcome workspace next .done := by
  simp only [setNodeLabel, Except.bind_eq_ok] at h
  obtain ⟨definition, _, h⟩ := h
  split at h
  · cases h
    exact .unchanged
  · exact replaceNode_outcome h

theorem setNodeDomain_outcome {node : GraphNodeId} {domain : ExecutionDomain}
    (h : workspace.setNodeDomain node domain = .ok next) : Outcome workspace next .done := by
  simp only [setNodeDomain, Except.bind_eq_ok] at h
  obtain ⟨definition, _, h⟩ := h
  split at h
  · cases h
    exact .unchanged
  · exact replaceNode_outcome h

theorem setParameter_outcome {node : GraphNodeId} {parameter : UInt32} {value : TypedGraphValue}
    (h : workspace.setParameter node parameter value = .ok next) :
    Outcome workspace next .done := by
  simp only [setParameter, Except.bind_eq_ok, Except.exists_unit] at h
  obtain ⟨definition, _, found, _, _, h⟩ := h
  split at h
  · cases h
    exact .unchanged
  · exact replaceNode_outcome h

theorem connect_outcome {source target : WireEndpoint} {id : GraphWireId}
    (h : workspace.connect source target = .ok (next, id)) :
    Outcome workspace next (.connected id) := by
  simp only [connect, Except.bind_eq_ok, Except.pure_eq_ok, Prod.mk.injEq] at h
  obtain ⟨allocated, hallocate, revisions, hrevisions, graph, hgraph, candidate, hnew, rfl,
    rfl⟩ := h
  obtain ⟨hvalue, hfollowing⟩ := allocate_eq_ok hallocate
  obtain ⟨hrevised, hnode, hwire⟩ := revised_of_rebuild hrevisions hgraph hnew
  exact .connected hrevised hvalue hnode (by rw [hwire, hfollowing])

theorem disconnect_outcome {id : GraphWireId} (h : workspace.disconnect id = .ok next) :
    Outcome workspace next .done := by
  simp only [disconnect, Except.bind_eq_ok, Except.exists_unit] at h
  obtain ⟨_, revisions, hrevisions, graph, hgraph, hnew⟩ := h
  obtain ⟨hrevised, hnode, hwire⟩ := revised_of_rebuild hrevisions hgraph hnew
  exact .kept (Or.inl rfl) hrevised hnode hwire

theorem edited_outcome {edit : GraphWorkspaceEdit} {reply : GraphWorkspaceReply}
    (h : workspace.edited edit = .ok (next, reply)) : Outcome workspace next reply := by
  cases edit with
  | moveNode node x y =>
    obtain ⟨result, hresult, heq⟩ := Except.map_eq_ok.1 h
    cases heq
    exact moveNode_outcome hresult
  | createNode prototype x y =>
    obtain ⟨result, hresult, heq⟩ := Except.map_eq_ok.1 h
    cases heq
    exact createNode_outcome hresult
  | deleteNode id =>
    obtain ⟨result, hresult, heq⟩ := Except.map_eq_ok.1 h
    cases heq
    exact deleteNode_outcome hresult
  | setNodeLabel node label =>
    obtain ⟨result, hresult, heq⟩ := Except.map_eq_ok.1 h
    cases heq
    exact setNodeLabel_outcome hresult
  | setNodeDomain node domain =>
    obtain ⟨result, hresult, heq⟩ := Except.map_eq_ok.1 h
    cases heq
    exact setNodeDomain_outcome hresult
  | setParameter node parameter value =>
    obtain ⟨result, hresult, heq⟩ := Except.map_eq_ok.1 h
    cases heq
    exact setParameter_outcome hresult
  | connect source target =>
    obtain ⟨result, hresult, heq⟩ := Except.map_eq_ok.1 h
    cases heq
    exact connect_outcome hresult
  | disconnect id =>
    obtain ⟨result, hresult, heq⟩ := Except.map_eq_ok.1 h
    cases heq
    exact disconnect_outcome hresult

end Edits

/-! ## Sequences of edits -/

section Sequences

/-- The workspace after a sequence of edits, failed ones included. -/
def after (start : GraphWorkspaceDocument) (edits : List GraphWorkspaceEdit) :
    GraphWorkspaceDocument :=
  (Run.execute perform start edits).1

/-- The node identity that a reply reports. -/
def createdNode : Except GraphWorkspaceError GraphWorkspaceReply → Option GraphNodeId
  | .ok (.created id) => some id
  | _ => none

/-- The wire identity that a reply reports. -/
def connectedWire : Except GraphWorkspaceError GraphWorkspaceReply → Option GraphWireId
  | .ok (.connected id) => some id
  | _ => none

/-- The node identities that a sequence of edits returns, in order. -/
def createdNodes (start : GraphWorkspaceDocument) (edits : List GraphWorkspaceEdit) :
    List GraphNodeId :=
  (Run.execute perform start edits).2.filterMap fun event => createdNode event.2

/-- The wire identities that a sequence of edits returns, in order. -/
def connectedWires (start : GraphWorkspaceDocument) (edits : List GraphWorkspaceEdit) :
    List GraphWireId :=
  (Run.execute perform start edits).2.filterMap fun event => connectedWire event.2

/-- A node identity that some workspace on the way retained. -/
def RetainedNode (start : GraphWorkspaceDocument) (edits : List GraphWorkspaceEdit)
    (id : GraphNodeId) : Prop :=
  ∃ earlier, earlier <+: edits ∧ id ∈ (start.after earlier).graph.nodes.map NodeDefinition.id

/-- A wire identity that some workspace on the way retained. -/
def RetainedWire (start : GraphWorkspaceDocument) (edits : List GraphWorkspaceEdit)
    (id : GraphWireId) : Prop :=
  ∃ earlier, earlier <+: edits ∧ id ∈ (start.after earlier).graph.wires.map WireDefinition.id

variable {start : GraphWorkspaceDocument} {edits : List GraphWorkspaceEdit}
  {edit : GraphWorkspaceEdit}

/-- One more edit is performed on the workspace after the others. -/
theorem execute_snoc (start : GraphWorkspaceDocument) (edits : List GraphWorkspaceEdit)
    (edit : GraphWorkspaceEdit) :
    Run.execute perform start (edits ++ [edit]) =
      (((start.after edits).perform edit).1, (Run.execute perform start edits).2 ++
        [(edit, ((start.after edits).perform edit).2)]) := by
  induction edits generalizing start with
  | nil => rfl
  | cons first edits ih =>
    change ((Run.execute perform (start.perform first).1 (edits ++ [edit])).1,
      (first, (start.perform first).2) ::
        (Run.execute perform (start.perform first).1 (edits ++ [edit])).2) = _
    rw [ih]
    rfl

theorem after_snoc : start.after (edits ++ [edit]) = ((start.after edits).perform edit).1 :=
  congrArg Prod.fst (execute_snoc start edits edit)

theorem createdNodes_snoc : createdNodes start (edits ++ [edit]) =
    createdNodes start edits ++ (createdNode ((start.after edits).perform edit).2).toList := by
  rw [createdNodes, execute_snoc, List.filterMap_append]
  cases hcreated : createdNode ((start.after edits).perform edit).2 <;>
    simp [createdNodes, hcreated]

theorem connectedWires_snoc : connectedWires start (edits ++ [edit]) =
    connectedWires start edits ++
      (connectedWire ((start.after edits).perform edit).2).toList := by
  rw [connectedWires, execute_snoc, List.filterMap_append]
  cases hconnected : connectedWire ((start.after edits).perform edit).2 <;>
    simp [connectedWires, hconnected]

/-- What an edit does, failures included. -/
theorem perform_cases (workspace : GraphWorkspaceDocument) (edit : GraphWorkspaceEdit) :
    (∃ error, workspace.perform edit = (workspace, .error error)) ∨
      ∃ next reply, workspace.perform edit = (next, .ok reply) ∧ Outcome workspace next reply := by
  cases hedited : workspace.edited edit with
  | error error => exact Or.inl ⟨error, by rw [perform, hedited]⟩
  | ok result =>
    exact Or.inr ⟨result.1, result.2, by rw [perform, hedited], edited_outcome hedited⟩

/-- Cursors never go back, and an identity assigned is the one at its cursor. -/
structure Advances (before next : GraphWorkspaceDocument)
    (answer : Except GraphWorkspaceError GraphWorkspaceReply) : Prop where
  node : before.nextNodeId.toNat ≤ next.nextNodeId.toNat
  wire : before.nextWireId.toNat ≤ next.nextWireId.toNat
  created : ∀ id, createdNode answer = some id →
    id.get.toNat = before.nextNodeId.toNat ∧ id.get.toNat < next.nextNodeId.toNat
  connected : ∀ id, connectedWire answer = some id →
    id.get.toNat = before.nextWireId.toNat ∧ id.get.toNat < next.nextWireId.toNat

theorem advances (workspace : GraphWorkspaceDocument) (edit : GraphWorkspaceEdit) :
    Advances workspace (workspace.perform edit).1 (workspace.perform edit).2 := by
  rcases perform_cases workspace edit with ⟨error, h⟩ | ⟨next, reply, h, houtcome⟩
  · rw [h]
    exact ⟨le_refl _, le_refl _, by simp [createdNode], by simp [connectedWire]⟩
  · rw [h]
    change Advances workspace next (.ok reply)
    cases houtcome with
    | unchanged => exact ⟨le_refl _, le_refl _, by simp [createdNode], by simp [connectedWire]⟩
    | kept hreply _ hnode hwire =>
      refine ⟨hnode ▸ le_refl _, hwire ▸ le_refl _, ?_, ?_⟩
      · rcases hreply with rfl | ⟨removed, rfl⟩ <;> simp [createdNode]
      · rcases hreply with rfl | ⟨removed, rfl⟩ <;> simp [connectedWire]
    | @created _ id _ hid hnode hwire =>
      refine ⟨by omega, hwire ▸ le_refl _, ?_, by simp [connectedWire]⟩
      intro other hother
      obtain rfl : id = other := by simpa [createdNode] using hother
      omega
    | @connected _ id _ hid hnode hwire =>
      refine ⟨hnode ▸ le_refl _, by omega, by simp [createdNode], ?_⟩
      intro other hother
      obtain rfl : id = other := by simpa [connectedWire] using hother
      omega

/-- Everything retained so far is below the cursors, and so is everything assigned so far, in
increasing order. -/
structure Ordered (start : GraphWorkspaceDocument) (edits : List GraphWorkspaceEdit) : Prop where
  retainedNode : ∀ id, RetainedNode start edits id →
    id.get.toNat < (start.after edits).nextNodeId.toNat
  retainedWire : ∀ id, RetainedWire start edits id →
    id.get.toNat < (start.after edits).nextWireId.toNat
  created : (createdNodes start edits).Pairwise (· < ·)
  connected : (connectedWires start edits).Pairwise (· < ·)
  createdBound : ∀ id ∈ createdNodes start edits,
    id.get.toNat < (start.after edits).nextNodeId.toNat
  connectedBound : ∀ id ∈ connectedWires start edits,
    id.get.toNat < (start.after edits).nextWireId.toNat

/-- Induction on the edits from the last one: the cursors only move up. -/
theorem ordered (start : GraphWorkspaceDocument) (edits : List GraphWorkspaceEdit) :
    Ordered start edits := by
  induction edits using List.reverseRecOn with
  | nil =>
    refine ⟨?_, ?_, .nil, .nil, by simp [createdNodes, Run.execute],
      by simp [connectedWires, Run.execute]⟩
    · intro id h
      obtain ⟨earlier, hinitial, hid⟩ := h
      rw [List.prefix_nil.1 hinitial] at hid
      exact node_lt_cursor hid
    · intro id h
      obtain ⟨earlier, hinitial, hid⟩ := h
      rw [List.prefix_nil.1 hinitial] at hid
      exact wire_lt_cursor hid
  | append_singleton edits edit ih =>
    have hadvances := advances (start.after edits) edit
    refine ⟨?_, ?_, ?_, ?_, ?_, ?_⟩
    · intro id h
      obtain ⟨earlier, hinitial, hid⟩ := h
      rcases List.prefix_concat_iff.1 hinitial with rfl | hearlier
      · exact node_lt_cursor hid
      · rw [after_snoc]
        exact (ih.retainedNode id ⟨earlier, hearlier, hid⟩).trans_le hadvances.node
    · intro id h
      obtain ⟨earlier, hinitial, hid⟩ := h
      rcases List.prefix_concat_iff.1 hinitial with rfl | hearlier
      · exact wire_lt_cursor hid
      · rw [after_snoc]
        exact (ih.retainedWire id ⟨earlier, hearlier, hid⟩).trans_le hadvances.wire
    · rw [createdNodes_snoc, List.pairwise_append]
      refine ⟨ih.created, by cases createdNode _ <;> simp, ?_⟩
      intro earlier hearlier id hid
      rw [Option.mem_toList] at hid
      have hbound := ih.createdBound earlier hearlier
      change earlier.get.toNat < id.get.toNat
      rw [(hadvances.created id hid).1]
      exact hbound
    · rw [connectedWires_snoc, List.pairwise_append]
      refine ⟨ih.connected, by cases connectedWire _ <;> simp, ?_⟩
      intro earlier hearlier id hid
      rw [Option.mem_toList] at hid
      have hbound := ih.connectedBound earlier hearlier
      change earlier.get.toNat < id.get.toNat
      rw [(hadvances.connected id hid).1]
      exact hbound
    · intro id hid
      rw [createdNodes_snoc, List.mem_append, Option.mem_toList] at hid
      rw [after_snoc]
      rcases hid with hid | hid
      · exact (ih.createdBound id hid).trans_le hadvances.node
      · exact (hadvances.created id hid).2
    · intro id hid
      rw [connectedWires_snoc, List.mem_append, Option.mem_toList] at hid
      rw [after_snoc]
      rcases hid with hid | hid
      · exact (ih.connectedBound id hid).trans_le hadvances.wire
      · exact (hadvances.connected id hid).2

/-- What one edit after others respects. -/
structure IdentityLaws (start : GraphWorkspaceDocument) (edits : List GraphWorkspaceEdit)
    (edit : GraphWorkspaceEdit) : Prop where
  freshNode : ∀ id, ((start.after edits).perform edit).2 = .ok (.created id) →
    ¬ RetainedNode start edits id
  freshWire : ∀ id, ((start.after edits).perform edit).2 = .ok (.connected id) →
    ¬ RetainedWire start edits id
  nodeCursor : (start.after edits).nextNodeId ≤ (start.after (edits ++ [edit])).nextNodeId
  wireCursor : (start.after edits).nextWireId ≤ (start.after (edits ++ [edit])).nextWireId
  revision : (start.after edits).revision < (start.after (edits ++ [edit])).revision ↔
    start.after (edits ++ [edit]) ≠ start.after edits
  graphRevision :
    (start.after edits).graph.revision < (start.after (edits ++ [edit])).graph.revision ↔
      (start.after (edits ++ [edit])).graph ≠ (start.after edits).graph
  failed : ∀ error, ((start.after edits).perform edit).2 = .error error →
    start.after (edits ++ [edit]) = start.after edits

theorem Revised.lt {before next : GraphWorkspaceDocument} (h : Revised before next) :
    before.revision < next.revision := by
  rw [UInt64.lt_iff_toNat_lt, h.workspace]
  omega

theorem Revised.graph_lt_iff {before next : GraphWorkspaceDocument} (h : Revised before next) :
    before.graph.revision < next.graph.revision ↔ next.graph ≠ before.graph := by
  rw [UInt64.lt_iff_toNat_lt]
  constructor
  · intro hlt heq
    rw [heq] at hlt
    omega
  · intro hne
    have hrevision := h.graph.resolve_left hne
    omega

/-- An edit that goes through either leaves the workspace as it was or advances its revision. -/
theorem Outcome.revised {before next : GraphWorkspaceDocument} {reply : GraphWorkspaceReply}
    (h : Outcome before next reply) : next = before ∨ Revised before next := by
  cases h with
  | unchanged => exact Or.inl rfl
  | kept _ hrevised _ _ => exact Or.inr hrevised
  | created hrevised _ _ _ => exact Or.inr hrevised
  | connected hrevised _ _ _ => exact Or.inr hrevised

theorem identityLaws (start : GraphWorkspaceDocument) (edits : List GraphWorkspaceEdit)
    (edit : GraphWorkspaceEdit) : IdentityLaws start edits edit := by
  have hordered := ordered start edits
  have hadvances := advances (start.after edits) edit
  have hchange : ((start.after edits).perform edit).1 = start.after edits ∨
      Revised (start.after edits) ((start.after edits).perform edit).1 := by
    rcases perform_cases (start.after edits) edit with ⟨error, h⟩ | ⟨next, reply, h, houtcome⟩
    · exact Or.inl (congrArg Prod.fst h)
    · rw [h]
      exact houtcome.revised
  constructor
  case freshNode =>
    intro id hid hretained
    have hlt := hordered.retainedNode id hretained
    have heq := (hadvances.created id (by rw [hid]; rfl)).1
    omega
  case freshWire =>
    intro id hid hretained
    have hlt := hordered.retainedWire id hretained
    have heq := (hadvances.connected id (by rw [hid]; rfl)).1
    omega
  case nodeCursor => exact UInt64.le_iff_toNat_le.2 (after_snoc ▸ hadvances.node)
  case wireCursor => exact UInt64.le_iff_toNat_le.2 (after_snoc ▸ hadvances.wire)
  case revision =>
    rw [after_snoc]
    rcases hchange with hsame | hrevised
    · rw [hsame]
      simp
    · refine iff_of_true hrevised.lt ?_
      intro heq
      have hlt := hrevised.workspace
      rw [heq] at hlt
      omega
  case graphRevision =>
    rw [after_snoc]
    rcases hchange with hsame | hrevised
    · rw [hsame]
      simp
    · exact hrevised.graph_lt_iff
  case failed =>
    intro error herror
    rw [after_snoc]
    rcases perform_cases (start.after edits) edit with ⟨_, h⟩ | ⟨_, _, h, _⟩
    · exact congrArg Prod.fst h
    · rw [h] at herror
      cases herror

/-- **Workspace identities are never reused.** Over every sequence of edits of a workspace, failed
ones included, the identities that creations and connections return strictly increase, none of
them was retained before, the cursors never go back nor pass `2 ^ 32`, every node has exactly one
placement, and the revisions increase exactly on the edits that change what they count. -/
theorem workspaceIdentities (start : GraphWorkspaceDocument) (edits : List GraphWorkspaceEdit) :
    (createdNodes start edits).Pairwise (· < ·) ∧ (connectedWires start edits).Pairwise (· < ·) ∧
    (start.after edits).nextNodeId.toNat ≤ 2 ^ 32 ∧
    (start.after edits).nextWireId.toNat ≤ 2 ^ 32 ∧
    (∀ node ∈ (start.after edits).graph.nodes,
      ((start.after edits).placements.map GraphNodePlacement.node).count node.id = 1) ∧
    ∀ edit, IdentityLaws start edits edit :=
  ⟨(ordered start edits).created, (ordered start edits).connected, nextNodeId_le _,
    nextWireId_le _, fun _ hnode => count_placements hnode, identityLaws start edits⟩

end Sequences

end GraphWorkspaceDocument

end Alumina.Graph
