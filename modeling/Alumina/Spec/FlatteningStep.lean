import Alumina.Spec.HierarchyExpansion

/-!
# What the removal of one instance does

`flattenInstance` consists of four passes: it detaches the wires of the instance, copies the nodes
of the component, copies its wires, and reconnects the detached wires. Each pass is described by
the entries it adds to the nodes and wires of the workspace.

Key result:
- `flattenInstance_copied`: the workspace after all four passes
-/

namespace Alumina.Graph

open Except (failIf)

/-! ## Entry maps -/

namespace EntryMap

variable {κ α : Type} [DecidableEq κ] {map : EntryMap κ α} {key : κ} {value : α}

theorem mem_of_get (h : get map key = some value) : (key, value) ∈ map := by
  obtain ⟨entry, hentry, rfl⟩ := Option.map_eq_some_iff.1 h
  have hmem := Table.mem_of_lookup hentry
  rwa [← Table.key_of_lookup hentry]

theorem get_of_mem (hnodup : (map.map Prod.fst).Nodup) (h : (key, value) ∈ map) :
    get map key = some value := by
  rw [get, Table.lookup_of_mem hnodup h]
  rfl

theorem get_eq_none : get map key = none ↔ key ∉ map.map Prod.fst := by
  rw [get, Option.map_eq_none_iff, Table.lookup, List.find?_eq_none]
  simp only [decide_eq_true_eq, List.mem_map, not_exists, not_and]

/-- A key that is not there is added in front. -/
theorem insert_of_get_eq_none (h : get map key = none) :
    insert map key value = (key, value) :: map := by
  rw [get_eq_none] at h
  refine congrArg _ (List.filter_eq_self.2 fun entry hentry => ?_)
  exact decide_eq_true fun heq => h (heq ▸ List.mem_map_of_mem hentry)

theorem get_insert (other : κ) : get (insert map key value) other =
    if other = key then some value else get map other := by
  by_cases h : other = key
  · rw [if_pos h, get, insert, Table.lookup, List.find?_cons_of_pos (by simp [h])]
    rfl
  · have hne : ¬ key = other := fun heq => h heq.symm
    rw [if_neg h, get, insert, Table.lookup, List.find?_cons_of_neg (by simpa using hne), erase,
      List.find?_filter, get, Table.lookup]
    refine congrArg _ (congrArg (fun p => List.find? p map) (funext fun entry => ?_))
    by_cases heq : entry.1 = other
    · simp [heq, h]
    · simp [heq]

end EntryMap

/-- A node under another identity. -/
def NodeDefinition.withId (node : NodeDefinition) (id : GraphNodeId) : NodeDefinition :=
  { node with id }

@[simp] theorem NodeDefinition.withId_id (node : NodeDefinition) (id : GraphNodeId) :
    (node.withId id).id = id := rfl

@[simp] theorem NodeDefinition.withId_isInstance (node : NodeDefinition) (id : GraphNodeId) :
    (node.withId id).isInstance = node.isInstance := rfl

@[simp] theorem NodeDefinition.withId_parameters (node : NodeDefinition) (id : GraphNodeId) :
    (node.withId id).parameters = node.parameters := rfl

variable [Sha256]

/-! ## Detached wires -/

omit [Sha256] in
/-- Detaching wires takes their origins out of the map and puts them beside the wires. -/
theorem foldlM_takeIncident {wires : List WireDefinition}
    {origins origins' : EntryMap GraphWireId GraphHierarchyWireOrigin}
    {incident incident' : List (WireDefinition × GraphHierarchyWireOrigin)}
    (h : wires.foldlM (fun (origins, incident) wire => do
      let (origins, taken) ← takeIncident origins wire
      return (origins, incident ++ [taken])) (origins, incident) = .ok (origins', incident')) :
    origins' = origins.filter (fun entry => entry.1 ∉ wires.map WireDefinition.id) ∧
      ∃ taken, incident' = incident ++ taken ∧ taken.map Prod.fst = wires ∧
        ∀ entry ∈ taken, (entry.1.id, entry.2) ∈ origins := by
  induction wires generalizing origins incident with
  | nil =>
    obtain ⟨rfl, rfl⟩ := Prod.mk.inj (Except.ok.inj h)
    exact ⟨(List.filter_eq_self.2 (by simp)).symm, [], by simp, rfl, by simp⟩
  | cons wire wires ih =>
    simp only [List.foldlM_cons, takeIncident, Except.bind_eq_ok, Option.okOr_eq_ok,
      Except.pure_eq_ok] at h
    obtain ⟨_, ⟨_, ⟨origin, horigin, rfl⟩, rfl⟩, hrest⟩ := h
    obtain ⟨horigins, taken, htaken, hwires, hmem⟩ := ih hrest
    refine ⟨?_, (wire, origin) :: taken, ?_, by rw [List.map_cons, hwires], ?_⟩
    · rw [horigins, EntryMap.erase, List.filter_filter]
      refine List.filter_congr fun entry _ => ?_
      rw [← Bool.decide_and]
      exact decide_eq_decide.mpr (by simp [not_or, and_comm])
    · rw [htaken, List.append_assoc]
      rfl
    · intro entry hentry
      rcases List.mem_cons.1 hentry with rfl | hentry
      · exact EntryMap.mem_of_get horigin
      · exact List.mem_of_mem_filter (hmem entry hentry)

/-! ## Copied nodes -/

/-- What copying nodes adds: each node under a fresh identity, in the workspace, in the map, and
in the report when it is an ordinary node. -/
structure NodesCopied (before after : NodeCopies) (nodes : List NodeDefinition)
    (fresh : GraphNodeId → GraphNodeId) : Prop where
  rebuilt : before.workspace.Rebuilt after.workspace
    (before.workspace.graph.nodes ++ nodes.map fun node => node.withId (fresh node.id))
    before.workspace.graph.wires
  nodeMap : ∀ id, EntryMap.get after.nodeMap id =
    if id ∈ nodes.map NodeDefinition.id then some (fresh id) else EntryMap.get before.nodeMap id
  reported : after.nodes = before.nodes ++ (nodes.filter fun node => !node.isInstance).map
    fun node => ⟨node.id, fresh node.id⟩
  fresh : ∀ node ∈ nodes, before.workspace.nextNodeId.toNat ≤ (fresh node.id).get.toNat

omit [Sha256] in
private theorem withId_eq_intoNode (node : NodeDefinition) (id : GraphNodeId) :
    (⟨node.kind, node.label, node.domain, node.inputs, node.outputs, node.parameters⟩ :
      GraphNodePrototype).intoNode id = node.withId id := rfl

theorem foldlM_copyNode {component : GraphWorkspaceDocument} {instanceNode : GraphNodeId}
    {placement : GraphNodePlacement} {nodes : List NodeDefinition} {before after : NodeCopies}
    (hnodup : (nodes.map NodeDefinition.id).Nodup) (hcanonical : ∀ node ∈ nodes, node.Canonical)
    (h : nodes.foldlM (copyNode component instanceNode placement) before = .ok after) :
    ∃ fresh, NodesCopied before after nodes fresh := by
  induction nodes generalizing before with
  | nil =>
    obtain rfl : before = after := by simpa using h
    refine ⟨id, ⟨?_, by simp, by simp, by simp⟩⟩
    rw [List.map_nil, List.append_nil]
    exact GraphWorkspaceDocument.Rebuilt.refl _
  | cons node nodes ih =>
    rw [List.map_cons, List.nodup_cons] at hnodup
    rw [List.forall_mem_cons] at hcanonical
    simp only [List.foldlM_cons, copyNode, Except.bind_eq_ok, Option.okOr_eq_ok, liftEdit,
      Except.mapError_eq_ok, Except.pure_eq_ok] at h
    obtain ⟨middle, ⟨_, _, _, _, _, _, ⟨workspace, flattened⟩, hcreate, rfl⟩, hrest⟩ := h
    obtain ⟨hone, hid, hnext, _⟩ := GraphWorkspaceDocument.createNode_rebuilt hcreate
      ⟨hcanonical.1.inputs, hcanonical.1.outputs, hcanonical.1.parameters⟩
    obtain ⟨fresh, hall⟩ := ih hnodup.2 hcanonical.2 hrest
    rw [withId_eq_intoNode] at hone
    -- the later nodes have other identities, so the new choice leaves theirs as they are
    have hkeep : ∀ other ∈ nodes, Function.update fresh node.id flattened other.id =
        fresh other.id := by
      intro other hother
      refine Function.update_of_ne (fun heq => hnodup.1 ?_) _ _
      rw [← heq]
      exact List.mem_map_of_mem hother
    have hself : Function.update fresh node.id flattened node.id = flattened :=
      Function.update_self _ _ _
    refine ⟨Function.update fresh node.id flattened, ?_, ?_, ?_, ?_⟩
    · have hnodes : nodes.map (fun other => other.withId
          (Function.update fresh node.id flattened other.id)) =
          nodes.map fun other => other.withId (fresh other.id) :=
        List.map_congr_left fun other hother => by rw [hkeep other hother]
      rw [List.map_cons, hnodes, hself]
      refine ⟨hall.rebuilt.schema.trans hone.schema, hall.rebuilt.clocks.trans hone.clocks, ?_,
        hall.rebuilt.wires.trans hone.wires⟩
      rw [hall.rebuilt.nodes, hone.nodes, List.append_assoc]
      rfl
    · intro id
      rw [hall.nodeMap, EntryMap.get_insert, List.map_cons]
      by_cases hid : id = node.id
      · subst hid
        rw [if_neg hnodup.1, if_pos rfl, if_pos List.mem_cons_self, hself]
      · rw [Function.update_of_ne hid, if_neg hid]
        simp only [List.mem_cons, hid, false_or]
    · have hreport : ∀ other ∈ nodes.filter fun other => !other.isInstance,
          (⟨other.id, Function.update fresh node.id flattened other.id⟩ : GraphFlattenedNode) =
            ⟨other.id, fresh other.id⟩ := fun other hother => by
        rw [hkeep other (List.mem_of_mem_filter hother)]
      rw [hall.reported]
      cases hinstance : node.isInstance
      · rw [List.filter_cons_of_pos (by simp [hinstance]), List.map_cons,
          List.map_congr_left hreport, hself]
        simp
      · rw [List.filter_cons_of_neg (by simp [hinstance]), List.map_congr_left hreport]
        simp
    · intro other hother
      rcases List.mem_cons.1 hother with rfl | hother
      · rw [hself, hid]
      · rw [hkeep other hother]
        have hlow : workspace.nextNodeId.toNat ≤ _ := hall.fresh other hother
        omega

/-! ## New wires -/

/-- What a pass over wires adds: for each item a wire under a fresh identity, in the workspace and
in the map of origins. -/
structure WiresAdded {α : Type} (origin : α → GraphHierarchyWireOrigin)
    (before after : GraphWorkspaceDocument × EntryMap GraphWireId GraphHierarchyWireOrigin)
    (added : List (α × WireDefinition)) : Prop where
  rebuilt : before.1.Rebuilt after.1 before.1.graph.nodes
    (before.1.graph.wires ++ added.map Prod.snd)
  origins : after.2.Perm (before.2 ++ added.map fun entry => (entry.2.id, origin entry.1))

/-- Every step of the pass connects one pair of endpoints. -/
theorem foldlM_connect {α : Type} (origin : α → GraphHierarchyWireOrigin)
    (ends : α → WireEndpoint → WireEndpoint → Prop)
    {step : GraphWorkspaceDocument × EntryMap GraphWireId GraphHierarchyWireOrigin → α →
      Except GraphHierarchyError
        (GraphWorkspaceDocument × EntryMap GraphWireId GraphHierarchyWireOrigin)}
    (hstep : ∀ state item next, step state item = .ok next → ∃ source target,
      ends item source target ∧ connectOrigin source target (origin item) state = .ok next)
    {items : List α}
    {before after : GraphWorkspaceDocument × EntryMap GraphWireId GraphHierarchyWireOrigin}
    (h : items.foldlM step before = .ok after) :
    ∃ added, WiresAdded origin before after added ∧ added.map Prod.fst = items ∧
      ∀ entry ∈ added, ends entry.1 entry.2.source entry.2.target := by
  induction items generalizing before with
  | nil =>
    obtain rfl : before = after := by simpa using h
    refine ⟨[], ⟨?_, by simp⟩, rfl, by simp⟩
    rw [List.map_nil, List.append_nil]
    exact GraphWorkspaceDocument.Rebuilt.refl _
  | cons item items ih =>
    rw [List.foldlM_cons, Except.bind_eq_ok] at h
    obtain ⟨middle, hone, hrest⟩ := h
    obtain ⟨source, target, hends, hconnect⟩ := hstep _ _ _ hone
    simp only [connectOrigin, liftEdit, Except.bind_eq_ok, Except.mapError_eq_ok,
      Except.exists_unit, Except.failIf_eq_ok, Except.pure_eq_ok] at hconnect
    obtain ⟨⟨workspace, wire⟩, hedit, hfresh, rfl⟩ := hconnect
    obtain ⟨hrebuilt, _⟩ := GraphWorkspaceDocument.connect_rebuilt hedit
    obtain ⟨added, hadded, hitems, hall⟩ := ih hrest
    have hnone : EntryMap.get before.2 wire = none := by simpa using hfresh
    refine ⟨(item, ⟨wire, source, target⟩) :: added, ⟨?_, ?_⟩, by rw [List.map_cons, hitems], ?_⟩
    · have hlater := hadded.rebuilt
      refine ⟨hlater.schema.trans hrebuilt.schema, hlater.clocks.trans hrebuilt.clocks,
        hlater.nodes.trans hrebuilt.nodes, ?_⟩
      rw [hlater.wires, hrebuilt.wires, List.append_assoc]
      rfl
    · refine hadded.origins.trans ?_
      rw [EntryMap.insert_of_get_eq_none hnone, List.map_cons]
      exact List.perm_middle.symm
    · intro entry hentry
      rcases List.mem_cons.1 hentry with rfl | hentry
      · exact hends
      · exact hall entry hentry

/-- An endpoint inside a component, at the copy of its node. -/
def CopyOf (nodeMap : EntryMap GraphNodeId GraphNodeId) (inside copy : WireEndpoint) : Prop :=
  EntryMap.get nodeMap inside.node = some copy.node ∧ copy.port = inside.port

omit [Sha256] in
theorem remapComponentEndpoint_eq_ok {nodeMap : EntryMap GraphNodeId GraphNodeId}
    {inside copy : WireEndpoint} (h : remapComponentEndpoint nodeMap inside = .ok copy) :
    CopyOf nodeMap inside copy := by
  simp only [remapComponentEndpoint, Except.bind_eq_ok, Option.okOr_eq_ok,
    Except.pure_eq_ok] at h
  obtain ⟨node, hnode, rfl⟩ := h
  exact ⟨hnode, rfl⟩

theorem copyWire_connects {nodeMap : EntryMap GraphNodeId GraphNodeId} {path : List GraphNodeId}
    {digest : Digest}
    {state next : GraphWorkspaceDocument × EntryMap GraphWireId GraphHierarchyWireOrigin}
    {wire : WireDefinition} (h : copyWire nodeMap path digest state wire = .ok next) :
    ∃ source target, (CopyOf nodeMap wire.source source ∧ CopyOf nodeMap wire.target target) ∧
      connectOrigin source target (.component path digest wire.id) state = .ok next := by
  simp only [copyWire, Except.bind_eq_ok] at h
  obtain ⟨source, hsource, target, htarget, hconnect⟩ := h
  exact ⟨source, target, ⟨remapComponentEndpoint_eq_ok hsource,
    remapComponentEndpoint_eq_ok htarget⟩, hconnect⟩

/-- An endpoint of a detached wire after its instance is gone: at the copy of the node behind the
terminal, or where it was. -/
def Reconnected (terminal : GraphPortId → Option WireEndpoint) (instanceNode : GraphNodeId)
    (nodeMap : EntryMap GraphNodeId GraphNodeId) (old new : WireEndpoint) : Prop :=
  if old.node = instanceNode then
    ∃ inside, terminal old.port = some inside ∧ CopyOf nodeMap inside new
  else new = old

omit [Sha256] in
theorem reconnected_of_ne {terminal : GraphPortId → Option WireEndpoint}
    {instanceNode : GraphNodeId} {nodeMap : EntryMap GraphNodeId GraphNodeId}
    {old : WireEndpoint} (hne : old.node ≠ instanceNode) :
    Reconnected terminal instanceNode nodeMap old old := by
  rw [Reconnected, if_neg hne]

omit [Sha256] in
theorem reconnected_of_eq {terminal : GraphPortId → Option WireEndpoint}
    {instanceNode : GraphNodeId} {nodeMap : EntryMap GraphNodeId GraphNodeId}
    {old new inside : WireEndpoint} (heq : old.node = instanceNode)
    (hinside : terminal old.port = some inside)
    (hcopy : remapComponentEndpoint nodeMap inside = .ok new) :
    Reconnected terminal instanceNode nodeMap old new := by
  rw [Reconnected, if_pos heq]
  exact ⟨inside, hinside, remapComponentEndpoint_eq_ok hcopy⟩

theorem reconnectWire_connects {component : GraphComponentDocument} {instanceNode : GraphNodeId}
    {nodeMap : EntryMap GraphNodeId GraphNodeId}
    {state next : GraphWorkspaceDocument × EntryMap GraphWireId GraphHierarchyWireOrigin}
    {incident : WireDefinition × GraphHierarchyWireOrigin}
    (h : reconnectWire component instanceNode nodeMap state incident = .ok next) :
    ∃ source target, (Reconnected (publicOutputSource component) instanceNode nodeMap
        incident.1.source source ∧ Reconnected (publicInputTarget component) instanceNode nodeMap
        incident.1.target target) ∧
      connectOrigin source target incident.2 state = .ok next := by
  by_cases hsource : incident.1.source.node = instanceNode <;>
    by_cases htarget : incident.1.target.node = instanceNode <;>
    simp only [reconnectWire, hsource, htarget, if_true, if_false, remapPublicOutput,
      remapPublicInput, Except.bind_eq_ok, Option.okOr_eq_ok, Except.pure_eq_ok] at h
  · obtain ⟨source, ⟨inside, hinside, hcopy⟩, target, ⟨inside', hinside', hcopy'⟩, hconnect⟩ := h
    exact ⟨source, target, ⟨reconnected_of_eq hsource hinside hcopy,
      reconnected_of_eq htarget hinside' hcopy'⟩, hconnect⟩
  · obtain ⟨source, ⟨inside, hinside, hcopy⟩, _, rfl, hconnect⟩ := h
    exact ⟨source, _, ⟨reconnected_of_eq hsource hinside hcopy, reconnected_of_ne htarget⟩, hconnect⟩
  · obtain ⟨_, rfl, target, ⟨inside', hinside', hcopy'⟩, hconnect⟩ := h
    exact ⟨_, target, ⟨reconnected_of_ne hsource, reconnected_of_eq htarget hinside' hcopy'⟩, hconnect⟩
  · obtain ⟨_, rfl, _, rfl, hconnect⟩ := h
    exact ⟨_, _, ⟨reconnected_of_ne hsource, reconnected_of_ne htarget⟩, hconnect⟩

/-! ## All passes -/

/-- The nodes of a component under the parameters of an instance. -/
def configuredNodes (component : GraphComponentDocument) (parameters : List NodeParameter) :
    List NodeDefinition :=
  component.workspace.graph.nodes.map fun node => node.configured component parameters

theorem configuredNodes_map_id (component : GraphComponentDocument)
    (parameters : List NodeParameter) :
    (configuredNodes component parameters).map NodeDefinition.id =
      component.workspace.graph.nodes.map NodeDefinition.id := by
  rw [configuredNodes, List.map_map]
  rfl

/-- Whether a wire ends at a node. -/
def WireDefinition.touches (wire : WireDefinition) (node : GraphNodeId) : Bool :=
  wire.source.node = node ∨ wire.target.node = node

/-- The state after one instance has been replaced by a copy of its component: `copied` pairs each
wire of the component with its copy, `moved` each detached wire with its replacement. -/
structure Replaced (before after : FlattenState) (instanceNode : GraphNodeId) (digest : Digest)
    (path : List GraphNodeId) (component : GraphComponentDocument)
    (nodeMap : EntryMap GraphNodeId GraphNodeId) (definition : NodeDefinition)
    (fresh : GraphNodeId → GraphNodeId) (copied : List (WireDefinition × WireDefinition))
    (moved : List ((WireDefinition × GraphHierarchyWireOrigin) × WireDefinition)) : Prop where
  found : before.workspace.graph.node instanceNode = some definition
  schema : after.workspace.graph.schema = before.workspace.graph.schema
  clocks : after.workspace.graph.clocks = before.workspace.graph.clocks
  nodes : after.workspace.graph.nodes =
    before.workspace.graph.nodes.filter (fun node => node.id ≠ instanceNode) ++
      (configuredNodes component definition.parameters).map fun node => node.withId (fresh node.id)
  wires : after.workspace.graph.wires =
    before.workspace.graph.wires.filter (fun wire => !wire.touches instanceNode) ++
      copied.map Prod.snd ++ moved.map Prod.snd
  origins : after.wireOrigins.Perm
    (before.wireOrigins.filter (fun entry => entry.1 ∉ (before.workspace.graph.wires.filter
        fun wire => wire.touches instanceNode).map WireDefinition.id) ++
      copied.map (fun entry => (entry.2.id, .component path digest entry.1.id)) ++
      moved.map fun entry => (entry.2.id, entry.1.2))
  mapped : ∀ id, EntryMap.get nodeMap id =
    if id ∈ component.workspace.graph.nodes.map NodeDefinition.id then some (fresh id) else none
  copied_wires : copied.map Prod.fst = component.workspace.graph.wires
  copied_ends : ∀ entry ∈ copied, CopyOf nodeMap entry.1.source entry.2.source ∧
    CopyOf nodeMap entry.1.target entry.2.target
  moved_wires : (moved.map Prod.fst).map Prod.fst =
    before.workspace.graph.wires.filter fun wire => wire.touches instanceNode
  moved_origins : ∀ entry ∈ moved, (entry.1.1.id, entry.1.2) ∈ before.wireOrigins
  moved_ends : ∀ entry ∈ moved,
    Reconnected (publicOutputSource component) instanceNode nodeMap entry.1.1.source
        entry.2.source ∧
      Reconnected (publicInputTarget component) instanceNode nodeMap entry.1.1.target
        entry.2.target
  reports : after.reports = before.reports ++ [⟨instanceNode, path, digest,
    ((configuredNodes component definition.parameters).filter fun node => !node.isInstance).map
      fun node => ⟨node.id, fresh node.id⟩⟩]

theorem flattenInstance_replaced {before after : FlattenState} {instanceNode : GraphNodeId}
    {digest : Digest} {path : List GraphNodeId} {component : GraphComponentDocument}
    {nodeMap : EntryMap GraphNodeId GraphNodeId}
    (h : flattenInstance before instanceNode digest path component = .ok (after, nodeMap)) :
    ∃ definition fresh copied moved, Replaced before after instanceNode digest path component
      nodeMap definition fresh copied moved := by
  simp only [flattenInstance, Except.bind_eq_ok, Option.okOr_eq_ok, liftEdit,
    Except.mapError_eq_ok, Except.pure_eq_ok, Prod.mk.injEq] at h
  obtain ⟨definition, hdefinition, placement, _, ⟨origins, incident⟩, htake, ⟨remaining, removed⟩,
    hdelete, configured, hconfigured, copies, hcopies, middle, hcopied, ⟨workspace, wireOrigins⟩,
    hmoved, rfl, rfl⟩ := h
  obtain ⟨horigins, taken, rfl, htaken, htakenOrigins⟩ := foldlM_takeIncident htake
  obtain ⟨hremaining, _⟩ := GraphWorkspaceDocument.deleteNode_rebuilt hdelete
  have hparameters := before.workspace.graph.parameters_nodup (Table.mem_of_lookup hdefinition)
  have hpromoted := GraphComponentDocument.setPromoted_rebuilt hparameters hconfigured
  have hnodes : configured.graph.nodes = configuredNodes component definition.parameters :=
    hpromoted.nodes
  have hnodup : (configured.graph.nodes.map NodeDefinition.id).Nodup :=
    GraphDocument.nodes_nodup _
  obtain ⟨fresh, hcopy⟩ := foldlM_copyNode hnodup
    (fun node hnode => GraphWorkspaceDocument.canonical_of_mem hnode) hcopies
  obtain ⟨copied, hadded, hcopiedWires, hcopiedEnds⟩ := foldlM_connect
    (fun wire : WireDefinition => .component path digest wire.id)
    (fun wire source target => CopyOf copies.nodeMap wire.source source ∧
      CopyOf copies.nodeMap wire.target target)
    (fun _ _ _ hstep => copyWire_connects hstep) hcopied
  obtain ⟨moved, hlast, hmovedWires, hmovedEnds⟩ := foldlM_connect
    (fun incident : WireDefinition × GraphHierarchyWireOrigin => incident.2)
    (fun incident source target =>
      Reconnected (publicOutputSource component) instanceNode copies.nodeMap incident.1.source
        source ∧
      Reconnected (publicInputTarget component) instanceNode copies.nodeMap incident.1.target
        target)
    (fun _ _ _ hstep => reconnectWire_connects hstep) hmoved
  have hlastRebuilt : middle.1.Rebuilt workspace _ _ := hlast.rebuilt
  have hfilter : before.workspace.graph.wires.filter (fun wire =>
      wire.source.node ≠ instanceNode ∧ wire.target.node ≠ instanceNode) =
      before.workspace.graph.wires.filter fun wire => !wire.touches instanceNode := by
    refine List.filter_congr fun wire _ => ?_
    rw [WireDefinition.touches, ← decide_not]
    exact decide_eq_decide.mpr not_or.symm
  refine ⟨definition, fresh, copied, moved, hdefinition, ?_, ?_, ?_, ?_, ?_, ?_, ?_, ?_, ?_, ?_,
    ?_, ?_⟩
  case refine_1 =>
    rw [hlastRebuilt.schema, hadded.rebuilt.schema, hcopy.rebuilt.schema, hremaining.schema]
  case refine_2 =>
    rw [hlastRebuilt.clocks, hadded.rebuilt.clocks, hcopy.rebuilt.clocks, hremaining.clocks]
  case refine_3 =>
    rw [hlastRebuilt.nodes, hadded.rebuilt.nodes, hcopy.rebuilt.nodes, hremaining.nodes, hnodes]
  case refine_4 =>
    rw [hlastRebuilt.wires, hadded.rebuilt.wires, hcopy.rebuilt.wires, hremaining.wires, hfilter]
  case refine_5 =>
    exact hlast.origins.trans ((hadded.origins.trans (by rw [horigins]; rfl)).append_right _)
  case refine_6 =>
    intro id
    rw [hcopy.nodeMap, hnodes, configuredNodes_map_id]
    rfl
  case refine_7 => rw [hcopiedWires, hpromoted.wires]
  case refine_8 => exact hcopiedEnds
  case refine_9 =>
    rw [hmovedWires]
    exact htaken
  case refine_10 =>
    intro entry hentry
    have hmem : entry.1 ∈ moved.map Prod.fst := List.mem_map_of_mem hentry
    rw [hmovedWires] at hmem
    exact htakenOrigins entry.1 hmem
  case refine_11 => exact hmovedEnds
  case refine_12 => rw [hcopy.reported, hnodes, List.nil_append]

end Alumina.Graph
