import Alumina.Spec.HierarchyFacts

/-!
# Hierarchies as nested blocks

One occurrence of a component is its workspace with the parameters that the instance node promotes.
The occurrences of a hierarchy, addressed by the paths of instance nodes that lead to them, are the
blocks that a flattening expands.
-/

namespace Alumina.Graph

open Except (failIf)
open Expansion

/-! ## Promoted parameters -/

section Promotion

variable [Sha256] (component : GraphComponentDocument) (parameters : List NodeParameter)

/-- The value that the parameters of an instance give to one parameter of its component. -/
def promotedValue (node : GraphNodeId) (parameter : UInt32) : Option TypedGraphValue :=
  (parameters.find? fun promoted => graphComponentInstanceParameterTarget component
    ⟨promoted.id⟩ = some (node, parameter)).map NodeParameter.value

/-- A node of a component under the parameters of an instance. -/
def NodeDefinition.configured (node : NodeDefinition) : NodeDefinition :=
  { node with parameters := node.parameters.map fun own =>
      ⟨own.id, own.name, (promotedValue component parameters node.id own.id).getD own.value⟩ }

theorem NodeDefinition.configured_nil (node : NodeDefinition) :
    node.configured component [] = node := by
  simp [configured, promotedValue]

variable {component parameters}

/-- The first promoted parameter acts on the node first; no later one has the same target. -/
theorem NodeDefinition.configured_cons {promoted : NodeParameter} {target : GraphNodeId × UInt32}
    (htarget : graphComponentInstanceParameterTarget component ⟨promoted.id⟩ = some target)
    (hfresh : ∀ other ∈ parameters,
      graphComponentInstanceParameterTarget component ⟨other.id⟩ ≠ some target)
    (node : NodeDefinition) :
    node.configured component (promoted :: parameters) =
      (node.withParameter target.1 target.2 promoted.value).configured component parameters := by
  obtain ⟨targetNode, targetParameter⟩ := target
  have hnone : promotedValue component parameters targetNode targetParameter = none := by
    rw [promotedValue, Option.map_eq_none_iff, List.find?_eq_none]
    intro other hother
    simpa using hfresh other hother
  have hcons : ∀ id parameter, promotedValue component (promoted :: parameters) id parameter =
      if id = targetNode ∧ parameter = targetParameter then some promoted.value
      else promotedValue component parameters id parameter := by
    intro id parameter
    by_cases h : id = targetNode ∧ parameter = targetParameter
    · rw [if_pos h, promotedValue, List.find?_cons_of_pos]
      · rfl
      · rw [htarget, h.1, h.2]
        simp
    · rw [if_neg h, promotedValue, List.find?_cons_of_neg]
      · rfl
      · rw [htarget, decide_eq_true_eq, Option.some.injEq, Prod.mk.injEq]
        exact fun heq => h ⟨heq.1.symm, heq.2.symm⟩
  by_cases hnode : node.id = targetNode
  · subst hnode
    rw [withParameter, if_pos rfl, configured, configured]
    refine congrArg (fun parameters => { node with parameters := parameters }) ?_
    rw [List.map_map]
    refine List.map_congr_left fun own _ => ?_
    rw [Function.comp_apply, hcons]
    by_cases hparameter : own.id = targetParameter
    · rw [if_pos ⟨rfl, hparameter⟩, if_pos hparameter, hparameter, hnone]
      rfl
    · rw [if_neg fun h => hparameter h.2, if_neg hparameter]
  · rw [withParameter, if_neg hnode, configured, configured]
    refine congrArg (fun parameters => { node with parameters := parameters }) ?_
    refine List.map_congr_left fun own _ => ?_
    rw [hcons, if_neg fun h => hnode h.1]

end Promotion

/-! ## Front panels -/

/-- A completed fold of panel checks has met no binding twice. -/
private theorem nodup_of_validatePanelItem [Sha256] {workspace : GraphWorkspaceDocument}
    {inputs : List GraphComponentInput} {outputs : List GraphComponentOutput}
    {limits : GraphComponentLimits} {items : List GraphFrontPanelItem}
    {seen final : List String × List GraphFrontPanelBinding}
    (h : items.foldlM (validatePanelItem workspace inputs outputs limits) seen = .ok final) :
    (items.map GraphFrontPanelItem.binding).Nodup ∧ ∀ item ∈ items, item.binding ∉ seen.2 := by
  induction items generalizing seen with
  | nil => simp
  | cons item items ih =>
    simp only [List.foldlM_cons, validatePanelItem, Except.bind_eq_ok, Except.exists_unit,
      Except.failIf_eq_ok, Except.pure_eq_ok] at h
    obtain ⟨_, ⟨_, _, hfresh, _, _, rfl⟩, hrest⟩ := h
    obtain ⟨hnodup, hnew⟩ := ih hrest
    refine ⟨?_, ?_⟩
    · rw [List.map_cons, List.nodup_cons]
      refine ⟨fun hmem => ?_, hnodup⟩
      obtain ⟨other, hother, heq⟩ := List.mem_map.1 hmem
      exact hnew other hother (by simp [heq])
    · intro other hother
      rcases List.mem_cons.1 hother with rfl | hother
      · exact hfresh
      · exact fun hmem => hnew other hother (List.mem_cons_of_mem _ hmem)

namespace GraphComponentDocument

variable [Sha256] (component : GraphComponentDocument)

theorem validate_parts :
    validateComponentShape component.workspace component.inputs component.outputs
      component.panelItems component.limits = .ok () := by
  have hvalid := component.valid
  simp only [ComponentTables.validate, Except.bind_eq_ok, Except.exists_unit] at hvalid
  exact hvalid.2.2.2.2.2.2.1

theorem panelBindings_nodup : (component.panelItems.map GraphFrontPanelItem.binding).Nodup := by
  have hshape := component.validate_parts
  simp only [validateComponentShape, Except.bind_eq_ok, Table.walk_eq_ok] at hshape
  obtain ⟨_, _, _, _, _, ⟨_, _, hfold⟩, _⟩ := hshape
  exact (nodup_of_validatePanelItem hfold).1

variable {component}

/-- Two promoted parameters never stand for the same node parameter. -/
theorem parameterTarget_injective {first second : UInt32} {target : GraphNodeId × UInt32}
    (hfirst : graphComponentInstanceParameterTarget component ⟨first⟩ = some target)
    (hsecond : graphComponentInstanceParameterTarget component ⟨second⟩ = some target) :
    first = second := by
  have hitem : ∀ {id : UInt32}, graphComponentInstanceParameterTarget component ⟨id⟩ =
      some target → ∃ item ∈ component.panelItems, item.id = ⟨id⟩ ∧
        item.binding = .parameterControl target.1 target.2 := by
    intro id h
    obtain ⟨item, hitem, hbinding⟩ := Option.bind_eq_some_iff.1 h
    obtain ⟨index, hindex, hfound⟩ := Option.bind_eq_some_iff.1 hitem
    have hkey := Table.binarySearch_eq_some hindex
    rw [hfound, Option.map_some, Option.some.injEq] at hkey
    refine ⟨item, List.mem_of_getElem? hfound, hkey, ?_⟩
    cases hcase : item.binding <;> rw [hcase] at hbinding <;> simp at hbinding
    rw [← hbinding]
  obtain ⟨item, hmem, hid, hbinding⟩ := hitem hfirst
  obtain ⟨other, hother, hotherId, hotherBinding⟩ := hitem hsecond
  have heq := List.inj_on_of_nodup_map component.panelBindings_nodup hmem hother
    (hbinding.trans hotherBinding.symm)
  rw [heq, hotherId] at hid
  exact (congrArg StableId.get hid).symm

/-- Promoting the parameters of an instance one after the other configures every node. -/
theorem setPromoted_rebuilt {parameters : List NodeParameter}
    {workspace final : GraphWorkspaceDocument}
    (hnodup : (parameters.map NodeParameter.id).Nodup)
    (h : parameters.foldlM (setPromoted component) workspace = .ok final) :
    workspace.Rebuilt final
      (workspace.graph.nodes.map fun node => node.configured component parameters)
      workspace.graph.wires := by
  induction parameters generalizing workspace with
  | nil =>
    obtain rfl : workspace = final := by simpa using h
    simp only [NodeDefinition.configured_nil, List.map_id']
    exact GraphWorkspaceDocument.Rebuilt.refl workspace
  | cons promoted parameters ih =>
    rw [List.map_cons, List.nodup_cons] at hnodup
    simp only [List.foldlM_cons, setPromoted, Except.bind_eq_ok, Option.okOr_eq_ok, liftEdit,
      Except.mapError_eq_ok] at h
    obtain ⟨next, ⟨⟨node, parameter⟩, htarget, hset⟩, hrest⟩ := h
    have hone := GraphWorkspaceDocument.setParameter_rebuilt hset
    have hall := ih hnodup.2 hrest
    have hfresh : ∀ other ∈ parameters,
        graphComponentInstanceParameterTarget component ⟨other.id⟩ ≠ some (node, parameter) := by
      intro other hother heq
      refine hnodup.1 ?_
      rw [parameterTarget_injective htarget heq]
      exact List.mem_map_of_mem hother
    have hnodes : (workspace.graph.nodes.map fun own =>
        own.configured component (promoted :: parameters)) =
        next.graph.nodes.map fun own => own.configured component parameters := by
      rw [hone.nodes, List.map_map]
      exact List.map_congr_left fun own _ => NodeDefinition.configured_cons htarget hfresh own
    rw [hnodes, ← hone.wires]
    exact ⟨hall.schema.trans hone.schema, hall.clocks.trans hone.clocks, hall.nodes, hall.wires⟩

end GraphComponentDocument

/-! ## Occurrences -/

/-- The root workspace, or a component under the parameters of one of its instances. -/
inductive GraphOccurrence [Sha256] where
  | root
  | component (digest : Digest) (document : GraphComponentDocument)
      (parameters : List NodeParameter)

namespace GraphOccurrence

variable [Sha256] (hierarchy : GraphHierarchyDocument)

def scope : GraphOccurrence → GraphInstanceScope
  | root => .root
  | component digest _ _ => .component digest

def workspace : GraphOccurrence → GraphWorkspaceDocument
  | root => hierarchy.root
  | component _ document _ => document.workspace

/-- What the parameters of the instance make of a node. -/
def configure : GraphOccurrence → NodeDefinition → NodeDefinition
  | root, node => node
  | component _ document parameters, node => node.configured document parameters

def nodes (occurrence : GraphOccurrence) : List NodeDefinition :=
  (occurrence.workspace hierarchy).graph.nodes.map occurrence.configure

def wires (occurrence : GraphOccurrence) : List WireDefinition :=
  (occurrence.workspace hierarchy).graph.wires

/-- The node input behind a public input. -/
def input : GraphOccurrence → GraphPortId → Option (GraphNodeId × GraphPortId)
  | root, _ => none
  | component _ document _, port =>
    (publicInputTarget document port).map fun endpoint => (endpoint.node, endpoint.port)

/-- The node output behind a public output. -/
def output : GraphOccurrence → GraphPortId → Option (GraphNodeId × GraphPortId)
  | root, _ => none
  | component _ document _, port =>
    (publicOutputSource document port).map fun endpoint => (endpoint.node, endpoint.port)

/-- The occurrence that an instance node stands for. -/
def child (occurrence : GraphOccurrence) (node : GraphNodeId) : Option GraphOccurrence := do
  let binding ← hierarchy.bindingOf occurrence.scope node
  let dependency ← hierarchy.dependency binding.component
  let definition ← Table.lookup NodeDefinition.id node (occurrence.nodes hierarchy)
  return component binding.component dependency.document definition.parameters

/-- A component of an occurrence is in the library. -/
def Valid : GraphOccurrence → Prop
  | root => True
  | component digest document _ =>
    ∃ dependency, hierarchy.dependency digest = some dependency ∧ dependency.document = document

variable {hierarchy} {occurrence : GraphOccurrence}

@[simp] theorem configure_id (node : NodeDefinition) :
    (occurrence.configure node).id = node.id := by
  cases occurrence <;> rfl

@[simp] theorem configure_isInstance (node : NodeDefinition) :
    (occurrence.configure node).isInstance = node.isInstance := by
  cases occurrence <;> rfl

theorem nodes_map_id : (occurrence.nodes hierarchy).map NodeDefinition.id =
    (occurrence.workspace hierarchy).graph.nodes.map NodeDefinition.id := by
  rw [nodes, List.map_map]
  exact List.map_congr_left fun node _ => configure_id node

theorem nodes_nodup : ((occurrence.nodes hierarchy).map NodeDefinition.id).Nodup := by
  rw [nodes_map_id]
  exact GraphDocument.nodes_nodup _

theorem Valid.workspaceForScope (h : occurrence.Valid hierarchy) :
    hierarchy.workspaceForScope occurrence.scope = .ok (occurrence.workspace hierarchy) := by
  cases occurrence with
  | root => rfl
  | component digest document parameters =>
    obtain ⟨dependency, hdependency, rfl⟩ := h
    rw [scope, HierarchyTables.workspaceForScope, hdependency]
    rfl

theorem Valid.child {next : GraphOccurrence} {node : GraphNodeId}
    (h : occurrence.child hierarchy node = some next) : next.Valid hierarchy := by
  simp only [GraphOccurrence.child, Option.bind_eq_bind, Option.bind_eq_some_iff] at h
  obtain ⟨binding, _, dependency, hdependency, definition, _, heq⟩ := h
  obtain rfl := Option.some.inj heq
  exact ⟨dependency, hdependency, rfl⟩

/-- A node of an occurrence stands for another one exactly when it is an instance node. -/
theorem Valid.child_isSome (h : occurrence.Valid hierarchy) {node : NodeDefinition}
    (hnode : node ∈ occurrence.nodes hierarchy) :
    (occurrence.child hierarchy node.id).isSome ↔ node.isInstance = true := by
  obtain ⟨own, hown, rfl⟩ := List.mem_map.1 hnode
  rw [configure_isInstance, configure_id,
    ← GraphHierarchyDocument.bindingOf_isSome h.workspaceForScope hown]
  constructor
  · intro hchild
    obtain ⟨next, hnext⟩ := Option.isSome_iff_exists.1 hchild
    simp only [GraphOccurrence.child, Option.bind_eq_bind, Option.bind_eq_some_iff] at hnext
    obtain ⟨binding, hbinding, _⟩ := hnext
    rw [hbinding]
    rfl
  · intro hbound
    obtain ⟨binding, hbinding⟩ := Option.isSome_iff_exists.1 hbound
    have hmem := (GraphHierarchyDocument.bindingOf_eq_some.1 hbinding).1
    obtain ⟨_, _, dependency, hfacts⟩ := hierarchy.bindingFacts (List.mem_of_mem_filter hmem)
    have hlookup := Table.lookup_of_mem nodes_nodup hnode
    rw [configure_id] at hlookup
    simp only [GraphOccurrence.child, hbinding, hfacts.dependency, hlookup,
      Option.bind_eq_bind, Option.bind_some]
    rfl

end GraphOccurrence

namespace GraphHierarchyDocument

variable [Sha256] (hierarchy : GraphHierarchyDocument)

/-- The blocks of a hierarchy: its occurrences, from the root. -/
def blocks : Blocks GraphOccurrence GraphNodeId where
  root := .root
  nodes occurrence := {node | node ∈ (occurrence.nodes hierarchy).map NodeDefinition.id}
  child := GraphOccurrence.child hierarchy

variable {hierarchy}

theorem valid_of_blockAt {path : List GraphNodeId} {occurrence : GraphOccurrence}
    (h : hierarchy.blocks.blockAt path = some occurrence) : occurrence.Valid hierarchy := by
  cases path using List.reverseRecOn with
  | nil =>
    obtain rfl := Option.some.inj h
    exact trivial
  | append_singleton path node _ =>
    rw [Blocks.blockAt_concat, Option.bind_eq_some_iff] at h
    obtain ⟨parent, _, hchild⟩ := h
    exact GraphOccurrence.Valid.child hchild

end GraphHierarchyDocument

end Alumina.Graph
