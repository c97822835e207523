import Alumina.ForStd.Expansion
import Alumina.Graph.Flattening
import Alumina.Spec.WorkspaceEdits

/-!
# What a validated hierarchy satisfies

Bindings and instance nodes of a hierarchy correspond to each other in every workspace. This makes
a hierarchy a family of nested blocks: a block is the root or one occurrence of a component, with
the parameters that its instance node gives it.
-/

namespace Alumina.Graph

open Except (failIf)
open Expansion

/-! ## Digests -/

theorem digestKey_injective : Function.Injective digestKey := by
  intro left right h
  exact Subtype.ext (List.map_injective_iff.2 (fun _ _ => UInt8.toNat_inj.1) h)

theorem GraphInstanceScope.key_injective : Function.Injective GraphInstanceScope.key := by
  intro left right h
  cases left with
  | root =>
    cases right with
    | root => rfl
    | component digest => exact absurd (congrArg (fun key => (ofLex key).1) h) (by simp [key])
  | component digest =>
    cases right with
    | root => exact absurd (congrArg (fun key => (ofLex key).1) h) (by simp [key])
    | component other =>
      exact congrArg _ (digestKey_injective (congrArg (fun key => (ofLex key).2) h))

namespace GraphHierarchyDocument

variable [Sha256] (hierarchy : GraphHierarchyDocument)

/-! ## What construction checks -/

/-- What one accepted binding satisfies. -/
structure BindingFacts (binding : GraphComponentInstance) (workspace : GraphWorkspaceDocument)
    (definition : NodeDefinition) (bound : GraphHierarchyDependency) : Prop where
  scope : hierarchy.workspaceForScope binding.scope = .ok workspace
  node : workspace.graph.node binding.node = some definition
  isInstance : definition.isInstance = true
  dependency : hierarchy.dependency binding.component = some bound
  shape : validateInstanceNode bound.document binding.scope definition = .ok ()

theorem validate_parts :
    (∀ dependency ∈ hierarchy.dependencies,
      hierarchy.validateDependencyContext dependency = .ok ()) ∧
    (∃ final, hierarchy.instances.foldlM hierarchy.validateInstance none = .ok final) ∧
    hierarchy.validateScopePlaceholders .root hierarchy.root = .ok () ∧
    (∀ dependency ∈ hierarchy.dependencies, hierarchy.validateScopePlaceholders
      (.component dependency.digest) dependency.document.workspace = .ok ()) ∧
    HierarchyTables.validateDistinct hierarchy.dependencies = .ok () ∧
    hierarchy.flattenedCounts = .ok hierarchy.flattened := by
  have hvalid := hierarchy.valid
  simp only [HierarchyTables.validate, HierarchyTables.validateHierarchy, Except.bind_eq_ok,
    Except.exists_unit, Except.forEach_eq_ok] at hvalid
  obtain ⟨_, hdistinct, hcontext, final, hinstances, hroot, hscopes, hcounts⟩ := hvalid
  exact ⟨hcontext, ⟨final, hinstances⟩, hroot, hscopes, hdistinct, hcounts⟩

/-- Every binding was checked. -/
theorem bindingFacts {binding : GraphComponentInstance} (h : binding ∈ hierarchy.instances) :
    ∃ workspace node dependency, hierarchy.BindingFacts binding workspace node dependency := by
  obtain ⟨final, hfold⟩ := hierarchy.validate_parts.2.1
  refine Except.foldlM_forall (Q := fun binding => ∃ workspace node dependency,
    hierarchy.BindingFacts binding workspace node dependency) ?_ hfold binding h
  intro prior binding next hstep
  simp only [HierarchyTables.validateInstance, Except.bind_eq_ok, Except.exists_unit,
    Except.failIf_eq_ok, Option.okOr_eq_ok] at hstep
  obtain ⟨_, _, workspace, hworkspace, node, hnode, hinstance, _, dependency, hdependency, hshape,
    _⟩ := hstep
  exact ⟨workspace, node, dependency, hworkspace, hnode, by simpa using hinstance, hdependency,
    hshape⟩

end GraphHierarchyDocument

/-- Accepted bindings leave no two neighbours for one node. -/
private theorem isChain_of_validateInstance [Sha256] {tables : HierarchyTables}
    {bindings : List GraphComponentInstance} {prior final : Option (GraphInstanceScope × GraphNodeId)}
    (h : bindings.foldlM tables.validateInstance prior = .ok final) :
    (bindings.map fun binding => (binding.scope, binding.node)).IsChain (· ≠ ·) ∧
      ∀ binding ∈ bindings.head?, prior ≠ some (binding.scope, binding.node) := by
  induction bindings generalizing prior with
  | nil => simp
  | cons binding bindings ih =>
    simp only [List.foldlM_cons, Except.bind_eq_ok] at h
    obtain ⟨next, hstep, hrest⟩ := h
    obtain ⟨hchain, hhead⟩ := ih hrest
    simp only [HierarchyTables.validateInstance, Except.bind_eq_ok, Except.exists_unit,
      Except.failIf_eq_ok, Except.pure_eq_ok] at hstep
    obtain ⟨_, hprior, _, _, _, _, _, _, _, _, _, rfl⟩ := hstep
    refine ⟨?_, by simpa using hprior⟩
    rw [List.map_cons, List.isChain_cons]
    refine ⟨?_, hchain⟩
    intro second hsecond
    rw [List.head?_map] at hsecond
    obtain ⟨other, hother, rfl⟩ := Option.map_eq_some_iff.1 hsecond
    exact fun heq => hhead other hother (congrArg some heq)

private theorem isChain_of_validateDistinct [Sha256] {dependencies : List GraphHierarchyDependency}
    (h : HierarchyTables.validateDistinct dependencies = .ok ()) :
    (dependencies.map GraphHierarchyDependency.key).IsChain (· ≠ ·) := by
  induction dependencies with
  | nil => simp
  | cons first rest ih =>
    cases rest with
    | nil => simp
    | cons second rest =>
      simp only [HierarchyTables.validateDistinct, Except.bind_eq_ok, Except.exists_unit,
        Except.failIf_eq_ok] at h
      rw [List.map_cons, List.map_cons, List.isChain_cons_cons]
      exact ⟨fun heq => h.1 (digestKey_injective heq), ih h.2⟩

namespace GraphHierarchyDocument

variable [Sha256] (hierarchy : GraphHierarchyDocument)

/-- No node is bound twice. -/
theorem bindings_nodup :
    (hierarchy.instances.map fun binding => (binding.scope, binding.node)).Nodup := by
  obtain ⟨final, hfold⟩ := hierarchy.validate_parts.2.1
  have hchain := (isChain_of_validateInstance hfold).1
  have hsorted : Table.Sorted (fun binding : GraphComponentInstance =>
      toLex (binding.scope.key, binding.node)) hierarchy.instances := by
    refine hierarchy.sorted.instances.imp fun {left right} hle => ?_
    rw [GraphComponentInstance.key, GraphComponentInstance.key, Prod.Lex.toLex_le_toLex,
      Prod.Lex.toLex_le_toLex] at hle
    rw [Prod.Lex.toLex_le_toLex]
    rcases hle with hlt | ⟨heq, hlt | ⟨hnode, _⟩⟩
    · exact .inl hlt
    · exact .inr ⟨heq, hlt.le⟩
    · exact .inr ⟨heq, hnode.le⟩
  have hkeys : (hierarchy.instances.map fun binding : GraphComponentInstance =>
      toLex (binding.scope.key, binding.node)).IsChain (· ≠ ·) := by
    rw [List.isChain_map] at hchain ⊢
    refine hchain.imp fun left right hne heq => hne ?_
    have hpair := toLex.injective heq
    rw [Prod.mk.injEq] at hpair ⊢
    exact ⟨GraphInstanceScope.key_injective hpair.1, hpair.2⟩
  have hstrict := Table.nodup_of_sorted_of_isChain hsorted hkeys
  rw [List.pairwise_map] at hstrict
  refine List.pairwise_map.2 (hstrict.imp ?_)
  intro left right hlt heq
  rw [Prod.mk.injEq] at heq
  rw [heq.1, heq.2] at hlt
  exact lt_irrefl _ hlt

theorem dependencies_nodup : (hierarchy.dependencies.map GraphHierarchyDependency.key).Nodup :=
  (Table.nodup_of_sorted_of_isChain hierarchy.sorted.dependencies
    (isChain_of_validateDistinct hierarchy.validate_parts.2.2.2.2.1)).imp ne_of_lt

variable {hierarchy}

/-- A dependency is found exactly under its digest. -/
theorem dependency_eq_some {digest : Digest} {dependency : GraphHierarchyDependency} :
    hierarchy.dependency digest = some dependency ↔
      dependency ∈ hierarchy.dependencies ∧ dependency.digest = digest := by
  rw [HierarchyTables.dependency, Option.bind_eq_some_iff]
  constructor
  · rintro ⟨index, hindex, hfound⟩
    have hkey := Table.binarySearch_eq_some hindex
    rw [hfound, Option.map_some, Option.some.injEq] at hkey
    exact ⟨List.mem_of_getElem? hfound, digestKey_injective hkey⟩
  · rintro ⟨hmem, rfl⟩
    obtain ⟨index, hindex⟩ := List.mem_iff_getElem?.1 hmem
    refine ⟨index, ?_, hindex⟩
    rw [Table.binarySearch_iff hierarchy.sorted.dependencies hierarchy.dependencies_nodup, hindex]
    rfl

/-! ## Bindings -/

/-- The binding of a node. -/
def bindingOf (hierarchy : GraphHierarchyDocument) (scope : GraphInstanceScope)
    (node : GraphNodeId) : Option GraphComponentInstance :=
  hierarchy.instances.find? fun binding => binding.scope = scope ∧ binding.node = node

theorem bindingOf_eq_some {scope : GraphInstanceScope} {node : GraphNodeId}
    {binding : GraphComponentInstance} :
    hierarchy.bindingOf scope node = some binding ↔
      binding ∈ hierarchy.scopeInstances scope ∧ binding.node = node := by
  rw [bindingOf, HierarchyTables.scopeInstances, List.mem_filter]
  constructor
  · intro h
    have hkeys := List.find?_some h
    rw [decide_eq_true_eq] at hkeys
    exact ⟨⟨List.mem_of_find?_eq_some h, by simpa using hkeys.1⟩, hkeys.2⟩
  · rintro ⟨⟨hmem, hscope⟩, rfl⟩
    obtain rfl : binding.scope = scope := by simpa using hscope
    have hlookup := Table.lookup_of_mem hierarchy.bindings_nodup hmem
    rw [Table.lookup] at hlookup
    simpa only [Prod.mk.injEq] using hlookup

/-- Exactly the instance nodes of a scope are bound. -/
theorem bindingOf_isSome {scope : GraphInstanceScope} {workspace : GraphWorkspaceDocument}
    {node : NodeDefinition} (hscope : hierarchy.workspaceForScope scope = .ok workspace)
    (hnode : node ∈ workspace.graph.nodes) :
    (hierarchy.bindingOf scope node.id).isSome ↔ node.isInstance = true := by
  constructor
  · intro h
    obtain ⟨binding, hbinding⟩ := Option.isSome_iff_exists.1 h
    obtain ⟨hmem, hid⟩ := bindingOf_eq_some.1 hbinding
    rw [HierarchyTables.scopeInstances, List.mem_filter, decide_eq_true_eq] at hmem
    obtain ⟨other, definition, dependency, hfacts⟩ := hierarchy.bindingFacts hmem.1
    have hother := hfacts.scope
    rw [hmem.2, hscope] at hother
    obtain rfl := Except.ok.inj hother
    have hdefinition := hfacts.node
    rw [hid, GraphDocument.node_of_mem _ hnode] at hdefinition
    obtain rfl := Option.some.inj hdefinition
    exact hfacts.isInstance
  · intro hinstance
    have hplaceholders : hierarchy.validateScopePlaceholders scope workspace = .ok () := by
      cases scope with
      | root =>
        obtain rfl := Except.ok.inj hscope
        exact hierarchy.validate_parts.2.2.1
      | component component =>
        rw [HierarchyTables.workspaceForScope, Option.okOr_eq_ok, Option.map_eq_some_iff] at hscope
        obtain ⟨dependency, hdependency, rfl⟩ := hscope
        obtain ⟨hmem, rfl⟩ := dependency_eq_some.1 hdependency
        exact hierarchy.validate_parts.2.2.2.1 dependency hmem
    rw [HierarchyTables.validateScopePlaceholders, Except.forEach_eq_ok] at hplaceholders
    have hbound := hplaceholders node (List.mem_filter.2 ⟨hnode, hinstance⟩)
    simp only [Except.bind_eq_ok, Except.exists_unit, Except.failIf_eq_ok, not_not] at hbound
    obtain ⟨binding, hbinding, heq⟩ := List.mem_map.1 hbound.2
    rw [Prod.mk.injEq] at heq
    refine Option.isSome_iff_exists.2 ⟨binding, bindingOf_eq_some.2 ⟨?_, heq.2⟩⟩
    rw [HierarchyTables.scopeInstances, List.mem_filter, decide_eq_true_eq]
    exact ⟨hbinding, heq.1⟩

end GraphHierarchyDocument

end Alumina.Graph
