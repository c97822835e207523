import Alumina.Graph.WordLibrary
import Alumina.Spec.CombinationalCycle
import Alumina.Spec.FlatteningInvariant

/-!
# Flattening expands a hierarchy

Replacing the instance nodes of the root, and below each replaced node those of its component,
opens every path of the hierarchy. So the flattened workspace is the complete expansion, and its
provenance names the occurrence of every node and wire.

Key results:
- `flattenInstanceTree_expanded`: a tree of replacements opens everything below a path
- `flattenGraphHierarchy_meaning`: the flattened workspace is the complete expansion
-/

namespace Alumina.Graph

open Except (failIf)
open Expansion

section Meaning

variable [Sha256] {hierarchy : GraphHierarchyDocument}

/-! ## Bindings and children -/

/-- A binding of a scope names an instance node of each of its occurrences, and the occurrence that
this node stands for. -/
theorem GraphOccurrence.Valid.child_of_binding {occurrence : GraphOccurrence}
    (h : occurrence.Valid hierarchy) {binding : GraphComponentInstance}
    (hbinding : binding ∈ hierarchy.scopeInstances occurrence.scope) :
    ∃ definition ∈ occurrence.nodes hierarchy, definition.id = binding.node ∧
      definition.isInstance = true ∧ ∃ dependency,
        hierarchy.dependency binding.component = some dependency ∧
        occurrence.child hierarchy binding.node =
          some (.component binding.component dependency.document definition.parameters) := by
  obtain ⟨hmem, hscope⟩ := List.mem_filter.1 hbinding
  rw [decide_eq_true_eq] at hscope
  obtain ⟨workspace, node, dependency, hfacts⟩ := hierarchy.bindingFacts hmem
  have hworkspace := hfacts.scope
  rw [hscope, h.workspaceForScope] at hworkspace
  obtain rfl := Except.ok.inj hworkspace
  have hid := Table.key_of_lookup hfacts.node
  have hdefinition : occurrence.configure node ∈ occurrence.nodes hierarchy :=
    List.mem_map_of_mem (Table.mem_of_lookup hfacts.node)
  refine ⟨_, hdefinition, (configure_id node).trans hid, ?_, dependency, hfacts.dependency, ?_⟩
  · rw [configure_isInstance]
    exact hfacts.isInstance
  · have hlookup := Table.lookup_of_mem nodes_nodup hdefinition
    rw [configure_id, hid] at hlookup
    have hbound := GraphHierarchyDocument.bindingOf_eq_some.2 ⟨hbinding, rfl⟩
    simp only [GraphOccurrence.child, hbound, hfacts.dependency, hlookup, Option.bind_eq_bind,
      Option.bind_some]
    rfl

/-- A node stands for another occurrence exactly when it is bound in the scope. -/
theorem GraphOccurrence.Valid.child_isSome_iff {occurrence : GraphOccurrence}
    (h : occurrence.Valid hierarchy) {node : GraphNodeId} :
    (occurrence.child hierarchy node).isSome ↔
      ∃ binding ∈ hierarchy.scopeInstances occurrence.scope, binding.node = node := by
  constructor
  · intro hchild
    obtain ⟨next, hnext⟩ := Option.isSome_iff_exists.1 hchild
    simp only [GraphOccurrence.child, Option.bind_eq_bind, Option.bind_eq_some_iff] at hnext
    obtain ⟨binding, hbinding, _⟩ := hnext
    exact ⟨binding, GraphHierarchyDocument.bindingOf_eq_some.1 hbinding⟩
  · rintro ⟨binding, hmem, rfl⟩
    obtain ⟨_, _, _, _, _, _, hchild⟩ := h.child_of_binding hmem
    rw [hchild]
    rfl

/-- No node of a scope is bound twice. -/
theorem GraphHierarchyDocument.scopeInstances_nodup (scope : GraphInstanceScope) :
    ((hierarchy.scopeInstances scope).map GraphComponentInstance.node).Nodup := by
  refine List.Nodup.of_map (fun node => (scope, node)) ?_
  have hsublist := hierarchy.bindings_nodup.sublist
    ((List.filter_sublist (p := fun binding => binding.scope = scope)).map
      fun binding : GraphComponentInstance => (binding.scope, binding.node))
  rw [List.map_map]
  refine (List.map_congr_left fun binding hbinding => ?_) ▸ hsublist
  have hscope := (List.mem_filter.1 hbinding).2
  rw [decide_eq_true_eq] at hscope
  rw [Function.comp_apply, hscope]

/-! ## Reports -/

/-- The copies that one report lists, with their places. -/
def GraphFlattenedInstance.copies (report : GraphFlattenedInstance) :
    List (Place GraphNodeId × GraphNodeId) :=
  report.nodes.map fun mapping => (⟨report.sourcePath, mapping.componentNode⟩,
    mapping.flattenedNode)

/-- The ordinary nodes of a root workspace, with their places. -/
def rootCopies (root : GraphWorkspaceDocument) : List (Place GraphNodeId × GraphNodeId) :=
  (root.graph.nodes.filter fun node => !node.isInstance).map fun node => (⟨[], node.id⟩, node.id)

variable (hierarchy) in
/-- The reports list every ordinary copy, and one replacement for each opened path. -/
structure Reported (opened : Set (List GraphNodeId))
    (placed : List (NodeDefinition × Place GraphNodeId)) (reports : List GraphFlattenedInstance) :
    Prop where
  copies : ((placed.filter fun entry => !entry.1.isInstance).map fun entry =>
    (entry.2, entry.1.id)) =
      rootCopies hierarchy.root ++ reports.flatMap GraphFlattenedInstance.copies
  component : ∀ report ∈ reports,
    hierarchy.scopeAt report.sourcePath = .component report.component
  paths_nodup : (reports.map GraphFlattenedInstance.sourcePath).Nodup
  mem_paths : ∀ path, path ∈ reports.map GraphFlattenedInstance.sourcePath ↔
    path ∈ opened ∧ path ≠ []

variable {opened : Set (List GraphNodeId)} {placed : List (NodeDefinition × Place GraphNodeId)}
  {tagged : List (WireDefinition × WirePlace)} {state : FlattenState}

/-- One replacement adds one report. -/
theorem Reported.replaced {after : FlattenState} {digest : Digest}
    {document : GraphComponentDocument} {nodeMap : EntryMap GraphNodeId GraphNodeId}
    {node : NodeDefinition} {fresh : GraphNodeId → GraphNodeId} {place : Place GraphNodeId}
    {parameters : List NodeParameter} {copied : List (WireDefinition × WireDefinition)}
    {moved : List ((WireDefinition × GraphHierarchyWireOrigin) × WireDefinition)}
    (h : Reported hierarchy opened placed state.reports)
    (hrepresents : Represents hierarchy opened placed tagged state) (hmem : (node, place) ∈ placed)
    (hinstance : node.isInstance = true)
    (hblock : hierarchy.blocks.blockAt place.below = some (.component digest document parameters))
    (hreplaced : Replaced state after node.id digest place.below document nodeMap node fresh copied
      moved) :
    Reported hierarchy (insert place.below opened)
      (placedAfter placed node.id place.below (configuredNodes document parameters) fresh)
      after.reports := by
  have hparameters := hrepresents.definition_of_child hmem hblock
  have hreports := hreplaced.reports
  rw [hparameters] at hreports
  have hunopened := (hrepresents.place_mem hmem).2.1
  refine ⟨?_, ?_, ?_, ?_⟩
  case refine_1 =>
    -- the replaced node is no ordinary node, so all earlier copies stay
    have hkept : (placed.filter fun entry => entry.1.id ≠ node.id).filter
        (fun entry => !entry.1.isInstance) = placed.filter fun entry => !entry.1.isInstance := by
      rw [List.filter_filter]
      refine List.filter_congr fun entry hentry => ?_
      by_cases heq : entry.1.id = node.id
      · rw [hrepresents.entry_eq_of_id hentry hmem heq]
        simp [hinstance]
      · simp [heq]
    rw [hreports, List.flatMap_append, ← List.append_assoc, ← h.copies, placedAfter,
      List.filter_append, hkept, List.map_append]
    refine congrArg _ ?_
    simp only [List.filter_map, List.map_map, List.flatMap_singleton,
      GraphFlattenedInstance.copies]
    rfl
  case refine_2 =>
    intro report hreport
    rw [hreports, List.mem_append, List.mem_singleton] at hreport
    rcases hreport with hreport | rfl
    · exact h.component report hreport
    · exact GraphHierarchyDocument.scopeAt_eq hblock
  case refine_3 =>
    rw [hreports, List.map_append, List.nodup_append]
    refine ⟨h.paths_nodup, List.nodup_singleton _, ?_⟩
    intro path hpath other hother heq
    rw [List.map_singleton, List.mem_singleton] at hother
    rw [heq, hother] at hpath
    exact hunopened ((h.mem_paths _).1 hpath).1
  case refine_4 =>
    intro path
    rw [hreports, List.map_append, List.mem_append, h.mem_paths, List.map_singleton,
      List.mem_singleton]
    constructor
    · rintro (⟨hpath, hne⟩ | rfl)
      · exact ⟨.inr hpath, hne⟩
      · exact ⟨.inl rfl, by simp [Place.below]⟩
    · rintro ⟨rfl | hpath, hne⟩
      · exact .inr rfl
      · exact .inl ⟨hpath, hne⟩

/-! ## Trees of replacements -/

variable (hierarchy) in
/-- The workspace represents a partial expansion, and the reports list it. -/
structure Expanded (opened : Set (List GraphNodeId))
    (placed : List (NodeDefinition × Place GraphNodeId))
    (tagged : List (WireDefinition × WirePlace)) (state : FlattenState) : Prop where
  represents : Represents hierarchy opened placed tagged state
  reported : Reported hierarchy opened placed state.reports

/-- A replacement opens the path of the replaced node, and leaves all other nodes. -/
theorem Expanded.flattenInstance {after : FlattenState} {digest : Digest}
    {document : GraphComponentDocument} {nodeMap : EntryMap GraphNodeId GraphNodeId}
    {node : NodeDefinition} {place : Place GraphNodeId} {parameters : List NodeParameter}
    (h : Expanded hierarchy opened placed tagged state) (hmem : (node, place) ∈ placed)
    (hinstance : node.isInstance = true)
    (hblock : hierarchy.blocks.blockAt place.below = some (.component digest document parameters))
    (hstep : flattenInstance state node.id digest place.below document = .ok (after, nodeMap)) :
    ∃ placed' tagged', Expanded hierarchy (insert place.below opened) placed' tagged' after ∧
      (∀ entry ∈ placed, entry.2 ≠ place → entry ∈ placed') ∧
      ∀ id copy, EntryMap.get nodeMap id = some copy →
        ∃ entry ∈ placed', entry.1.id = copy ∧ entry.2 = ⟨place.below, id⟩ := by
  obtain ⟨definition, fresh, copied, moved, hreplaced⟩ := flattenInstance_replaced hstep
  have hnode : node ∈ state.workspace.graph.nodes := by
    rw [h.represents.nodes]
    exact List.mem_map_of_mem hmem
  have hfound := hreplaced.found
  rw [GraphDocument.node_of_mem _ hnode] at hfound
  obtain rfl := Option.some.inj hfound
  refine ⟨_, _, ⟨h.represents.replaced hmem hblock hreplaced,
    h.reported.replaced h.represents hmem hinstance hblock hreplaced⟩, ?_, ?_⟩
  · intro entry hentry hne
    exact (h.represents.mem_placedAfter hmem).2 (.inl ⟨hentry, hne⟩)
  · intro id copy hcopy
    have hmapped := hreplaced.mapped
    rw [← configuredNodes_map_id document parameters] at hmapped
    have hinside : CopyOf nodeMap (⟨id, 0⟩ : WireEndpoint) ⟨copy, 0⟩ := ⟨hcopy, rfl⟩
    obtain ⟨own, hown, hid, hfresh⟩ := exists_copy hmapped hinside
    refine ⟨_, (h.represents.mem_placedAfter hmem).2 (.inr ⟨own, hown, rfl⟩), hfresh, ?_⟩
    rw [hid]

/-- Everything below the nodes of some bindings. -/
def belowBindings (hierarchy : GraphHierarchyDocument) (path : List GraphNodeId)
    (bindings : List GraphComponentInstance) : Set (List GraphNodeId) :=
  {longer | ∃ binding ∈ bindings, longer ∈ hierarchy.blocks.descendants (path ++ [binding.node])}

/-- What replacing an instance and everything nested in it has to do. -/
def TreeOpens (hierarchy : GraphHierarchyDocument) (levels : Nat) : Prop :=
  ∀ opened placed tagged state after binding occurrence node place,
    Expanded hierarchy opened placed tagged state → (node, place) ∈ placed →
    hierarchy.blocks.blockAt place.path = some occurrence →
    binding ∈ hierarchy.scopeInstances occurrence.scope → binding.node = place.node →
    flattenInstanceTree hierarchy levels state node.id binding place.below = .ok after →
    ∃ placed' tagged', Expanded hierarchy (opened ∪ hierarchy.blocks.descendants place.below)
        placed' tagged' after ∧
      ∀ entry ∈ placed, entry.2.below ∉ hierarchy.blocks.descendants place.below → entry ∈ placed'

/-- A loop over bindings of one occurrence, each of whose nodes was placed at the start. The nodes
of later bindings stay while earlier ones are replaced, since their paths are apart. -/
theorem foldlM_trees {levels : Nat} (htree : TreeOpens hierarchy levels) {path : List GraphNodeId}
    {occurrence : GraphOccurrence} (hblock : hierarchy.blocks.blockAt path = some occurrence)
    {step : FlattenState → GraphComponentInstance → Except GraphHierarchyError FlattenState}
    (start : List (NodeDefinition × Place GraphNodeId))
    {bindings : List GraphComponentInstance}
    (hstep : ∀ binding ∈ bindings, ∀ state next, step state binding = .ok next →
      ∃ entry ∈ start, entry.2 = ⟨path, binding.node⟩ ∧
        flattenInstanceTree hierarchy levels state entry.1.id binding (path ++ [binding.node]) =
          .ok next)
    (hbindings : ∀ binding ∈ bindings, binding ∈ hierarchy.scopeInstances occurrence.scope)
    (hnodup : (bindings.map GraphComponentInstance.node).Nodup) {after : FlattenState}
    (h : Expanded hierarchy opened placed tagged state)
    (hstart : ∀ entry ∈ start, ∀ binding ∈ bindings, entry.2 = ⟨path, binding.node⟩ →
      entry ∈ placed)
    (hfold : bindings.foldlM step state = .ok after) :
    ∃ placed' tagged', Expanded hierarchy (opened ∪ belowBindings hierarchy path bindings) placed'
        tagged' after ∧
      ∀ entry ∈ placed, entry.2.below ∉ belowBindings hierarchy path bindings →
        entry ∈ placed' := by
  induction bindings generalizing opened placed tagged state with
  | nil =>
    obtain rfl : state = after := by simpa using hfold
    refine ⟨placed, tagged, ?_, fun entry hentry _ => hentry⟩
    have hnone : belowBindings hierarchy path [] = ∅ := by
      ext longer
      simp [belowBindings]
    rw [hnone, Set.union_empty]
    exact h
  | cons binding bindings ih =>
    rw [List.map_cons, List.nodup_cons] at hnodup
    rw [List.foldlM_cons, Except.bind_eq_ok] at hfold
    obtain ⟨middle, hone, hrest⟩ := hfold
    obtain ⟨⟨node, place⟩, hentry, hplace, hflatten⟩ := hstep binding List.mem_cons_self _ _ hone
    dsimp only at hplace
    subst hplace
    have hmem := hstart _ hentry binding List.mem_cons_self rfl
    obtain ⟨placed₁, tagged₁, hexpanded, hkept⟩ := htree _ _ _ _ _ _ _ _ _ h hmem hblock
      (hbindings binding List.mem_cons_self) rfl hflatten
    have hlater : ∀ entry ∈ start, ∀ other ∈ bindings, entry.2 = ⟨path, other.node⟩ →
        entry ∈ placed₁ := by
      intro entry hentry other hother heq
      refine hkept entry (hstart entry hentry other (List.mem_cons_of_mem _ hother) heq) ?_
      rw [heq]
      refine Blocks.disjoint_descendants fun hnode => hnodup.1 ?_
      have hsame : other.node = binding.node := hnode
      rw [← hsame]
      exact List.mem_map_of_mem hother
    obtain ⟨placed₂, tagged₂, hall, hkept'⟩ := ih
      (fun other hother => hstep other (List.mem_cons_of_mem _ hother))
      (fun other hother => hbindings other (List.mem_cons_of_mem _ hother)) hnodup.2 hexpanded
      hlater hrest
    have hsplit : belowBindings hierarchy path (binding :: bindings) =
        hierarchy.blocks.descendants (path ++ [binding.node]) ∪
          belowBindings hierarchy path bindings := by
      ext longer
      simp [belowBindings]
    refine ⟨placed₂, tagged₂, ?_, ?_⟩
    · rw [hsplit, ← Set.union_assoc]
      exact hall
    · intro entry hentry hbelow
      rw [hsplit, Set.mem_union, not_or] at hbelow
      exact hkept' entry (hkept entry hentry hbelow.1) hbelow.2

/-- Everything below a path, by the bindings of its occurrence. -/
theorem descendants_eq_belowBindings {path : List GraphNodeId} {occurrence : GraphOccurrence}
    (hblock : hierarchy.blocks.blockAt path = some occurrence) :
    hierarchy.blocks.descendants path = insert path
      (belowBindings hierarchy path (hierarchy.scopeInstances occurrence.scope)) := by
  rw [Blocks.descendants_eq hblock]
  refine congrArg _ (Set.ext fun longer => ?_)
  have hvalid := GraphHierarchyDocument.valid_of_blockAt hblock
  simp only [Set.mem_iUnion, exists_prop]
  constructor
  · rintro ⟨node, hchild, hlonger⟩
    obtain ⟨binding, hbinding, rfl⟩ := hvalid.child_isSome_iff.1 hchild
    exact ⟨binding, hbinding, hlonger⟩
  · rintro ⟨binding, hbinding, hlonger⟩
    exact ⟨binding.node, hvalid.child_isSome_iff.2 ⟨binding, hbinding, rfl⟩, hlonger⟩

/-- **A tree of replacements opens everything below a path.** Induction on the levels that are
left. -/
theorem flattenInstanceTree_expanded (levels : Nat) : TreeOpens hierarchy levels := by
  induction levels with
  | zero =>
    intro _ _ _ _ _ _ _ _ _ _ _ _ _ _ hflatten
    cases hflatten
  | succ levels ih =>
    intro opened placed tagged state after binding occurrence node place h hmem hblock hbinding
      hnode hflatten
    have hvalid := GraphHierarchyDocument.valid_of_blockAt hblock
    obtain ⟨definition, hdefinition, hid, hinstance, dependency, hdependency, hchild⟩ :=
      hvalid.child_of_binding hbinding
    have hbelow : hierarchy.blocks.blockAt place.below =
        some (.component binding.component dependency.document definition.parameters) := by
      rw [Blocks.blockAt_below, hblock, ← hnode]
      exact hchild
    -- the node in the workspace is the one that the binding names
    obtain ⟨found, own, hfound, hown, hownId, heq⟩ := h.represents.definition _ hmem
    rw [hblock] at hfound
    obtain rfl := Option.some.inj hfound
    obtain rfl := List.inj_on_of_nodup_map GraphOccurrence.nodes_nodup hown hdefinition
      (hownId.trans (hnode.symm.trans hid.symm))
    have hnodeInstance : node.isInstance = true := by
      have hkind := congrArg NodeDefinition.isInstance heq
      exact hkind.trans hinstance
    rw [flattenInstanceTree] at hflatten
    simp only [Except.bind_eq_ok, Except.exists_unit, Option.okOr_eq_ok] at hflatten
    obtain ⟨_, other, hother, ⟨middle, nodeMap⟩, hone, hnested⟩ := hflatten
    obtain rfl := Option.some.inj (hdependency.symm.trans hother)
    obtain ⟨placed₁, tagged₁, hexpanded, hkept, hcopies⟩ :=
      h.flattenInstance hmem hnodeInstance hbelow hone
    obtain ⟨placed₂, tagged₂, hall, hkept'⟩ := foldlM_trees ih hbelow placed₁
      (fun nested _ state next hstep => by
        simp only [Except.bind_eq_ok, Option.okOr_eq_ok] at hstep
        obtain ⟨copy, hcopy, hnext⟩ := hstep
        obtain ⟨entry, hentry, rfl, hplace⟩ := hcopies _ _ hcopy
        exact ⟨entry, hentry, hplace, hnext⟩)
      (fun _ hmem => hmem) (hierarchy.scopeInstances_nodup _) hexpanded
      (fun entry hentry _ _ _ => hentry) hnested
    have hdescendants := descendants_eq_belowBindings hbelow
    refine ⟨placed₂, tagged₂, ?_, ?_⟩
    · rw [hdescendants, Set.union_insert, ← Set.insert_union]
      exact hall
    · intro entry hentry houtside
      rw [hdescendants, Set.mem_insert_iff, not_or] at houtside
      exact hkept' entry (hkept entry hentry fun heq => houtside.1 (by rw [heq])) houtside.2

/-! ## The root -/

/-- The nodes of the root, at their places. -/
def rootPlaced (root : GraphWorkspaceDocument) : List (NodeDefinition × Place GraphNodeId) :=
  root.graph.nodes.map fun node => (node, ⟨[], node.id⟩)

/-- The wires of the root, at their places. -/
def rootTagged (root : GraphWorkspaceDocument) : List (WireDefinition × WirePlace) :=
  root.graph.wires.map fun wire => (wire, ⟨[], wire⟩)

/-- An endpoint of a wire of the root leads to itself while nothing is opened. -/
private theorem leads_root
    {inner : GraphOccurrence → GraphPortId → Option (GraphNodeId × GraphPortId)}
    {endpoint : WireEndpoint} {node : NodeDefinition} (hnode : node ∈ hierarchy.root.graph.nodes)
    (hid : node.id = endpoint.node) :
    Leads hierarchy inner {[]} (rootPlaced hierarchy.root) [] endpoint endpoint := by
  refine ⟨_, List.mem_map_of_mem hnode, hid, ?_⟩
  rw [hid]
  exact .here (by simp [Place.below])

theorem expanded_root : Expanded hierarchy {[]} (rootPlaced hierarchy.root)
    (rootTagged hierarchy.root) ⟨hierarchy.root, [],
      hierarchy.root.graph.wires.map fun wire => (wire.id, .root wire.id)⟩ := by
  have hroot : hierarchy.blocks.blockAt [] = some .root := rfl
  refine ⟨?_, ?_⟩
  · constructor
    case isOpened => exact Blocks.Opened.singleton
    case schema => rfl
    case clocks => rfl
    case nodes =>
      rw [rootPlaced, List.map_map]
      exact (List.map_id _).symm
    case wires =>
      rw [rootTagged, List.map_map]
      exact (List.map_id _).symm
    case places_nodup =>
      have hplaces := hierarchy.root.graph.nodes_nodup.map
        (f := fun id => (⟨[], id⟩ : Place GraphNodeId)) fun _ _ heq => congrArg Place.node heq
      rw [List.map_map] at hplaces
      rw [rootPlaced, List.map_map]
      exact hplaces
    case mem_places =>
      intro place
      rw [rootPlaced, List.map_map, List.mem_map]
      constructor
      · rintro ⟨node, hnode, rfl⟩
        refine ⟨rfl, by simp [Place.below], .root, hroot, ?_⟩
        exact List.mem_map.2 ⟨node, List.mem_map.2 ⟨node, hnode, rfl⟩, rfl⟩
      · rintro ⟨hpath, _, block, hblock, hnode⟩
        obtain ⟨path, node⟩ := place
        obtain rfl : path = [] := hpath
        obtain rfl := Option.some.inj (hroot.symm.trans hblock)
        obtain ⟨own, hown, hid⟩ := List.mem_map.1 hnode
        obtain ⟨original, horiginal, rfl⟩ := List.mem_map.1 hown
        exact ⟨original, horiginal, Place.ext rfl hid⟩
    case definition =>
      intro entry hentry
      obtain ⟨node, hnode, rfl⟩ := List.mem_map.1 hentry
      exact ⟨.root, node, hroot, List.mem_map.2 ⟨node, hnode, rfl⟩, rfl, rfl⟩
    case tags_nodup =>
      rw [rootTagged, List.map_map]
      refine List.Nodup.map (fun _ _ heq => congrArg WirePlace.wire heq) ?_
      exact List.Nodup.of_map WireDefinition.id hierarchy.root.graph.wires_nodup
    case mem_tags =>
      intro place
      rw [rootTagged, List.map_map, List.mem_map]
      constructor
      · rintro ⟨wire, hwire, rfl⟩
        exact ⟨rfl, .root, hroot, hwire⟩
      · rintro ⟨hpath, block, hblock, hwire⟩
        obtain ⟨path, wire⟩ := place
        obtain rfl : path = [] := hpath
        obtain rfl := Option.some.inj (hroot.symm.trans hblock)
        exact ⟨wire, hwire, rfl⟩
    case source =>
      intro entry hentry
      obtain ⟨wire, hwire, rfl⟩ := List.mem_map.1 hentry
      obtain ⟨node, hnode, port, _, hsource⟩ := hierarchy.root.graph.wire_source hwire
      exact leads_root hnode (by rw [hsource])
    case target =>
      intro entry hentry
      obtain ⟨wire, hwire, rfl⟩ := List.mem_map.1 hentry
      obtain ⟨node, hnode, port, _, htarget⟩ := hierarchy.root.graph.wire_target hwire
      exact leads_root hnode (by rw [htarget])
    case origins =>
      rw [rootTagged, List.map_map]
      exact .refl _
  · refine ⟨?_, by simp, by simp, by simp⟩
    rw [rootPlaced, rootCopies, List.filter_map, List.map_map, List.flatMap_nil, List.append_nil]
    rfl

/-- Replacing every instance node of the root opens every path of the hierarchy. -/
theorem flattenRoots_expanded {after : FlattenState}
    (h : flattenRoots hierarchy ⟨hierarchy.root, [],
      hierarchy.root.graph.wires.map fun wire => (wire.id, .root wire.id)⟩ = .ok after) :
    ∃ placed tagged, Expanded hierarchy hierarchy.blocks.occurrences placed tagged after := by
  have hroot : hierarchy.blocks.blockAt [] = some .root := rfl
  have hvalid : GraphOccurrence.root.Valid hierarchy := trivial
  obtain ⟨placed, tagged, hexpanded, _⟩ := foldlM_trees
    (flattenInstanceTree_expanded (hierarchy.limits.maximumNestingDepth + 1)) hroot
    (rootPlaced hierarchy.root)
    (fun binding hbinding state next hstep => by
      obtain ⟨definition, hdefinition, hid, _⟩ := hvalid.child_of_binding hbinding
      obtain ⟨node, hnode, rfl⟩ := List.mem_map.1 hdefinition
      exact ⟨_, List.mem_map_of_mem hnode, congrArg _ hid, (congrArg (flattenInstanceTree hierarchy
        (hierarchy.limits.maximumNestingDepth + 1) state · binding [binding.node]) hid).trans
        hstep⟩)
    (fun _ hmem => hmem) (hierarchy.scopeInstances_nodup _) expanded_root
    (fun _ hentry _ _ _ => hentry) h
  refine ⟨placed, tagged, ?_⟩
  rw [← Blocks.descendants_nil, descendants_eq_belowBindings hroot]
  exact hexpanded

/-! ## Provenance -/

variable (hierarchy) in
/-- The origin entry of a copy. -/
def originEntry (copy : Place GraphNodeId × GraphNodeId) :
    GraphNodeId × GraphHierarchyNodeOrigin :=
  (copy.2, placeOrigin hierarchy copy.1)

theorem reportOrigins_perm {origins origins' : EntryMap GraphNodeId GraphHierarchyNodeOrigin}
    {report : GraphFlattenedInstance}
    (hcomponent : hierarchy.scopeAt report.sourcePath = .component report.component)
    (h : reportOrigins origins report = .ok origins') :
    origins'.Perm (origins ++ report.copies.map (originEntry hierarchy)) := by
  rw [reportOrigins] at h
  rw [GraphFlattenedInstance.copies]
  generalize report.nodes = mappings at h
  induction mappings generalizing origins with
  | nil =>
    obtain rfl : origins = origins' := by simpa using h
    simp
  | cons mapping mappings ih =>
    simp only [List.foldlM_cons, Except.bind_eq_ok, Except.exists_unit, Except.failIf_eq_ok,
      Except.pure_eq_ok] at h
    obtain ⟨next, ⟨hfresh, rfl⟩, hrest⟩ := h
    have hnone : EntryMap.get origins mapping.flattenedNode = none := by simpa using hfresh
    refine (ih hrest).trans ?_
    rw [EntryMap.insert_of_get_eq_none hnone, List.map_cons, List.map_cons]
    have hentry : originEntry hierarchy (⟨report.sourcePath, mapping.componentNode⟩,
        mapping.flattenedNode) = (mapping.flattenedNode,
          .component report.sourcePath report.component mapping.componentNode) := by
      rw [originEntry, placeOrigin, hcomponent]
      rfl
    rw [hentry]
    exact List.perm_middle.symm

/-- The origins of the reports, after those that are there already. -/
theorem foldlM_reportOrigins {reports : List GraphFlattenedInstance}
    {origins origins' : EntryMap GraphNodeId GraphHierarchyNodeOrigin}
    (hcomponent : ∀ report ∈ reports,
      hierarchy.scopeAt report.sourcePath = .component report.component)
    (h : reports.foldlM reportOrigins origins = .ok origins') :
    origins'.Perm (origins ++
      (reports.flatMap GraphFlattenedInstance.copies).map (originEntry hierarchy)) := by
  induction reports generalizing origins with
  | nil =>
    obtain rfl : origins = origins' := by simpa using h
    simp
  | cons report reports ih =>
    rw [List.forall_mem_cons] at hcomponent
    rw [List.foldlM_cons, Except.bind_eq_ok] at h
    obtain ⟨next, hone, hrest⟩ := h
    have hperm := reportOrigins_perm hcomponent.1 hone
    refine (ih hcomponent.2 hrest).trans ((hperm.append_right _).trans ?_)
    rw [List.append_assoc, List.flatMap_cons, List.map_append]

/-- Every ordinary node of the root and of each report has one origin entry. -/
theorem nodeOrigins_perm {reports : List GraphFlattenedInstance}
    {origins : EntryMap GraphNodeId GraphHierarchyNodeOrigin}
    (hcomponent : ∀ report ∈ reports,
      hierarchy.scopeAt report.sourcePath = .component report.component)
    (h : nodeOrigins hierarchy.root reports = .ok origins) :
    origins.Perm ((rootCopies hierarchy.root ++
      reports.flatMap GraphFlattenedInstance.copies).map (originEntry hierarchy)) := by
  have hroot : (hierarchy.root.graph.nodes.filter fun node => !node.isInstance).map
      (fun node => (node.id, GraphHierarchyNodeOrigin.root node.id)) =
      (rootCopies hierarchy.root).map (originEntry hierarchy) := by
    rw [rootCopies, List.map_map]
    rfl
  rw [nodeOrigins, hroot] at h
  rw [List.map_append]
  exact foldlM_reportOrigins hcomponent h

/-- Only the empty path leads to the root. -/
theorem path_of_blockAt_root {path : List GraphNodeId}
    (h : hierarchy.blocks.blockAt path = some .root) : path = [] := by
  cases path using List.reverseRecOn with
  | nil => rfl
  | append_singleton path node _ =>
    rw [Blocks.blockAt_concat, Option.bind_eq_some_iff] at h
    obtain ⟨parent, _, hchild⟩ := h
    have hchild : parent.child hierarchy node = some .root := hchild
    simp only [GraphOccurrence.child, Option.bind_eq_bind, Option.bind_eq_some_iff] at hchild
    obtain ⟨_, _, _, _, _, _, heq⟩ := hchild
    cases heq

/-- The root, or a component at a path that is not empty. -/
theorem scopeAt_cases {path : List GraphNodeId} (h : (hierarchy.blocks.blockAt path).isSome) :
    (path = [] ∧ hierarchy.scopeAt path = .root) ∨
      ∃ digest, hierarchy.scopeAt path = .component digest := by
  obtain ⟨occurrence, hoccurrence⟩ := Option.isSome_iff_exists.1 h
  rw [GraphHierarchyDocument.scopeAt_eq hoccurrence]
  cases occurrence with
  | root => exact .inl ⟨path_of_blockAt_root hoccurrence, rfl⟩
  | component digest _ _ => exact .inr ⟨digest, rfl⟩

/-- Nodes of different occurrences have different origins. -/
theorem placeOrigin_injective {place other : Place GraphNodeId}
    (hplace : (hierarchy.blocks.blockAt place.path).isSome)
    (hother : (hierarchy.blocks.blockAt other.path).isSome)
    (h : placeOrigin hierarchy place = placeOrigin hierarchy other) : place = other := by
  rw [placeOrigin, placeOrigin] at h
  rcases scopeAt_cases hplace with ⟨hpath, hscope⟩ | ⟨digest, hscope⟩ <;>
    rcases scopeAt_cases hother with ⟨hpath', hscope'⟩ | ⟨digest', hscope'⟩ <;>
    rw [hscope, hscope'] at h <;> cases place <;> cases other <;>
    simp_all [nodeOriginAt]

/-- Wires of different occurrences have different origins. -/
theorem wireOrigin_injective {place other : WirePlace}
    (hplace : ∃ occurrence, hierarchy.blocks.blockAt place.path = some occurrence ∧
      place.wire ∈ occurrence.wires hierarchy)
    (hother : ∃ occurrence, hierarchy.blocks.blockAt other.path = some occurrence ∧
      other.wire ∈ occurrence.wires hierarchy)
    (h : place.origin hierarchy = other.origin hierarchy) : place = other := by
  obtain ⟨path, wire⟩ := place
  obtain ⟨path', wire'⟩ := other
  obtain ⟨occurrence, hblock, hwire⟩ := hplace
  obtain ⟨occurrence', hblock', hwire'⟩ := hother
  dsimp only at hblock hwire hblock' hwire'
  have hsome : (hierarchy.blocks.blockAt path).isSome := by
    rw [hblock]
    rfl
  have hsome' : (hierarchy.blocks.blockAt path').isSome := by
    rw [hblock']
    rfl
  have hsame : path = path' ∧ wire.id = wire'.id := by
    rw [WirePlace.origin, WirePlace.origin] at h
    rcases scopeAt_cases hsome with ⟨hpath, hscope⟩ | ⟨digest, hscope⟩ <;>
      rcases scopeAt_cases hsome' with ⟨hpath', hscope'⟩ | ⟨digest', hscope'⟩ <;>
      simp only [hscope, hscope', wireOriginAt] at h <;> simp_all
  obtain ⟨rfl, hid⟩ := hsame
  obtain rfl := Option.some.inj (hblock.symm.trans hblock')
  rw [List.inj_on_of_nodup_map (GraphDocument.wires_nodup _) hwire hwire' hid]

/-! ## The whole flattening -/

variable (hierarchy) in
/-- A flattening is the complete expansion of a hierarchy: `placed` says which ordinary node of
which occurrence each node is, `tagged` which wire of which occurrence each wire is. -/
structure CompleteExpansion (flattening : GraphHierarchyFlattening)
    (placed : List (NodeDefinition × Place GraphNodeId))
    (tagged : List (WireDefinition × WirePlace)) : Prop where
  schema : flattening.workspace.graph.schema = hierarchy.root.graph.schema
  clocks : flattening.workspace.graph.clocks = hierarchy.root.graph.clocks
  nodes : flattening.workspace.graph.nodes = placed.map Prod.fst
  places_nodup : (placed.map Prod.snd).Nodup
  mem_places : ∀ place, place ∈ placed.map Prod.snd ↔ ∃ occurrence definition,
    hierarchy.blocks.blockAt place.path = some occurrence ∧
      definition ∈ occurrence.nodes hierarchy ∧ definition.id = place.node ∧
      definition.isInstance = false
  definition : ∀ entry ∈ placed, ∃ occurrence definition,
    hierarchy.blocks.blockAt entry.2.path = some occurrence ∧
      definition ∈ occurrence.nodes hierarchy ∧ definition.id = entry.2.node ∧
      entry.1 = definition.withId entry.1.id
  wires : flattening.workspace.graph.wires = tagged.map Prod.fst
  tags_nodup : (tagged.map Prod.snd).Nodup
  mem_tags : ∀ place : WirePlace, place ∈ tagged.map Prod.snd ↔ ∃ occurrence,
    hierarchy.blocks.blockAt place.path = some occurrence ∧
      place.wire ∈ occurrence.wires hierarchy
  source : ∀ entry ∈ tagged, Leads hierarchy GraphOccurrence.output hierarchy.blocks.occurrences
    placed entry.2.path entry.2.wire.source entry.1.source
  target : ∀ entry ∈ tagged, Leads hierarchy GraphOccurrence.input hierarchy.blocks.occurrences
    placed entry.2.path entry.2.wire.target entry.1.target
  nodeProvenance : flattening.nodeProvenance =
    placed.map fun entry => ⟨placeOrigin hierarchy entry.2, entry.1.id⟩
  nodeOrigins_nodup : (flattening.nodeProvenance.map
    GraphFlattenedNodeProvenance.origin).Nodup
  wireProvenance : flattening.wireProvenance =
    tagged.map fun entry => ⟨entry.2.origin hierarchy, entry.1.id⟩
  wireOrigins_nodup : (flattening.wireProvenance.map
    GraphFlattenedWireProvenance.origin).Nodup
  instances_nodup : (flattening.instances.map GraphFlattenedInstance.sourcePath).Nodup
  mem_instances : ∀ path, path ∈ flattening.instances.map GraphFlattenedInstance.sourcePath ↔
    (hierarchy.blocks.blockAt path).isSome ∧ path ≠ []
  component : ∀ report ∈ flattening.instances,
    hierarchy.scopeAt report.sourcePath = .component report.component

omit [Sha256] in
/-- Entries under increasing keys are sorted as they stand. -/
private theorem sortByKey_of_perm {α β κ : Type} [LinearOrder κ] {entries : List (κ × β)}
    {xs : List α} {key : α → κ} {value : α → β}
    (hperm : entries.Perm (xs.map fun x => (key x, value x))) (hsorted : Table.Sorted key xs)
    (hnodup : (xs.map key).Nodup) :
    Table.sortByKey Prod.fst entries = xs.map fun x => (key x, value x) := by
  have hkeys : ((xs.map fun x => (key x, value x)).map Prod.fst).Nodup := by
    rw [List.map_map]
    exact hnodup
  rw [Table.sortByKey_congr hperm ((hperm.map Prod.fst).nodup_iff.2 hkeys)]
  exact Table.sortByKey_of_sorted (List.pairwise_map.2 hsorted)

/-- In a complete expansion, exactly the ordinary nodes have places. -/
theorem mem_places_iff {place : Place GraphNodeId} :
    place ∈ hierarchy.blocks.places hierarchy.blocks.occurrences ↔
      ∃ occurrence definition, hierarchy.blocks.blockAt place.path = some occurrence ∧
        definition ∈ occurrence.nodes hierarchy ∧ definition.id = place.node ∧
        definition.isInstance = false := by
  rw [Blocks.mem_places_occurrences]
  constructor
  · rintro ⟨occurrence, hblock, hnode, hchild⟩
    obtain ⟨definition, hdefinition, hid⟩ := List.mem_map.1 hnode
    refine ⟨occurrence, definition, hblock, hdefinition, hid, ?_⟩
    have hvalid := GraphHierarchyDocument.valid_of_blockAt hblock
    rw [← Bool.not_eq_true, ← hvalid.child_isSome hdefinition, hid]
    have hnone : occurrence.child hierarchy place.node = none := hchild
    simp [hnone]
  · rintro ⟨occurrence, definition, hblock, hdefinition, hid, hordinary⟩
    refine ⟨occurrence, hblock, List.mem_map.2 ⟨definition, hdefinition, hid⟩, ?_⟩
    have hvalid := GraphHierarchyDocument.valid_of_blockAt hblock
    rw [← Bool.not_eq_true, ← hvalid.child_isSome hdefinition, hid] at hordinary
    exact Option.not_isSome_iff_eq_none.1 hordinary

/-- **A flattened hierarchy is its complete expansion.** Every ordinary node of every occurrence,
with the parameters that the instances on its path promote, is exactly one node of the flattened
workspace; every wire of every occurrence is exactly one wire, between the nodes that its ends
resolve to through the public terminals of any number of instances; and the provenance names
them. -/
theorem flattenGraphHierarchy_meaning {flattening : GraphHierarchyFlattening}
    (h : flattenGraphHierarchy hierarchy = .ok flattening) :
    ∃ placed tagged, CompleteExpansion hierarchy flattening placed tagged := by
  simp only [flattenGraphHierarchy, Except.bind_eq_ok, Except.exists_unit, Except.failIf_eq_ok,
    Except.pure_eq_ok] at h
  obtain ⟨source, _, state, hroots, _, _, hordinary, _, _, origins, horigins, _, encoding, _,
    rfl⟩ := h
  obtain ⟨placed, tagged, hrepresents, hreported⟩ := flattenRoots_expanded hroots
  have hnodeOrigins := nodeOrigins_perm hreported.component horigins
  have hall : (placed.filter fun entry => !entry.1.isInstance) = placed := by
    refine List.filter_eq_self.2 fun entry hentry => ?_
    have hnode : entry.1 ∈ state.workspace.graph.nodes := by
      rw [hrepresents.nodes]
      exact List.mem_map_of_mem hentry
    rw [List.any_eq_true] at hordinary
    simpa using fun hinstance => hordinary ⟨entry.1, hnode, hinstance⟩
  rw [← hreported.copies, hall, List.map_map] at hnodeOrigins
  have hsortedNodes : Table.Sorted (fun entry : NodeDefinition × Place GraphNodeId => entry.1.id)
      placed := by
    have hsorted := state.workspace.graph.sorted.nodes
    rw [hrepresents.nodes] at hsorted
    exact (List.pairwise_map (f := Prod.fst)).1 hsorted
  have hsortedWires : Table.Sorted (fun entry : WireDefinition × WirePlace => entry.1.id)
      tagged := by
    have hsorted := state.workspace.graph.sorted.wires
    rw [hrepresents.wires] at hsorted
    exact (List.pairwise_map (f := Prod.fst)).1 hsorted
  have hnodeProvenance := sortByKey_of_perm hnodeOrigins hsortedNodes hrepresents.ids_nodup
  have hwireProvenance := sortByKey_of_perm hrepresents.origins hsortedWires
    hrepresents.wireIds_nodup
  have hplace : ∀ entry ∈ placed, (hierarchy.blocks.blockAt entry.2.path).isSome := by
    intro entry hentry
    obtain ⟨_, _, hblock, _⟩ := hrepresents.definition entry hentry
    rw [hblock]
    rfl
  have htag : ∀ entry ∈ tagged, ∃ occurrence,
      hierarchy.blocks.blockAt entry.2.path = some occurrence ∧
        entry.2.wire ∈ occurrence.wires hierarchy := by
    intro entry hentry
    exact ((hrepresents.mem_tags entry.2).1 (List.mem_map_of_mem hentry)).2
  refine ⟨placed, tagged, ?_⟩
  constructor
  case schema => exact hrepresents.schema
  case clocks => exact hrepresents.clocks
  case nodes => exact hrepresents.nodes
  case places_nodup => exact hrepresents.places_nodup
  case mem_places => exact fun place => (hrepresents.mem_places place).trans mem_places_iff
  case definition => exact hrepresents.definition
  case wires => exact hrepresents.wires
  case tags_nodup => exact hrepresents.tags_nodup
  case mem_tags =>
    intro place
    rw [hrepresents.mem_tags]
    constructor
    · exact And.right
    · rintro ⟨occurrence, hblock, hwire⟩
      exact ⟨Option.isSome_iff_exists.2 ⟨occurrence, hblock⟩, occurrence, hblock, hwire⟩
  case source => exact hrepresents.source
  case target => exact hrepresents.target
  case nodeProvenance =>
    dsimp only
    rw [hnodeProvenance, List.map_map]
    rfl
  case nodeOrigins_nodup =>
    dsimp only
    rw [hnodeProvenance, List.map_map, List.map_map]
    refine List.Nodup.map_on (fun entry hentry other hother heq => ?_)
      (List.Nodup.of_map Prod.snd hrepresents.places_nodup)
    exact hrepresents.entry_eq_of_place hentry hother
      (placeOrigin_injective (hplace entry hentry) (hplace other hother) heq)
  case wireProvenance =>
    dsimp only
    rw [hwireProvenance, List.map_map]
    rfl
  case wireOrigins_nodup =>
    dsimp only
    rw [hwireProvenance, List.map_map, List.map_map]
    refine List.Nodup.map_on (fun entry hentry other hother heq => ?_)
      (List.Nodup.of_map Prod.snd hrepresents.tags_nodup)
    exact List.inj_on_of_nodup_map hrepresents.tags_nodup hentry hother
      (wireOrigin_injective (htag entry hentry) (htag other hother) heq)
  case instances_nodup => exact hreported.paths_nodup
  case mem_instances => exact hreported.mem_paths
  case component => exact hreported.component

end Meaning

/-! ## A sample -/

/-- One type, the boolean. -/
def gateSchema : GraphSchema where
  limits := .interactive
  units := []
  types := [⟨⟨1⟩, "bit", .boolean⟩]
  sorted := by decide
  valid := by decide +kernel

/-- A gate with one input, one output and one parameter. -/
def gateNode (id : GraphNodeId) (kind : NodeKind) (invert : Bool) : NodeDefinition :=
  ⟨id, kind, "gate", .hostExact, [⟨⟨1⟩, "in", ⟨1⟩⟩], [⟨⟨2⟩, "out", ⟨1⟩⟩],
    [⟨1, "invert", ⟨⟨1⟩, .boolean invert⟩⟩]⟩

section Sample

open WordLibrary

def gateWorkspace (nodes : List NodeDefinition) (wires : List WireDefinition) :
    Except GraphHierarchyError GraphWorkspaceDocument := liftEdit do
  let graph ← (GraphDocument.tryNew 1 gateSchema [] nodes wires).mapError .graphDocument
  GraphWorkspaceDocument.tryNew .interactive 1 100 100 graph
    (nodes.map fun node => ⟨node.id, 0, 0⟩)

/-- A component around one gate, whose parameter is promoted. -/
def gateComponent : Except GraphHierarchyError GraphComponentDocument := do
  let workspace ← gateWorkspace [gateNode ⟨1⟩ ⟨"gate.buffer", 1⟩ false] []
  (GraphComponentDocument.tryNew ⟨.interactive, 1, 1, "gate", 2, 2, 2, workspace,
    [⟨⟨1⟩, "in", ⟨⟨1⟩, ⟨1⟩⟩⟩], [⟨⟨1⟩, "out", ⟨⟨1⟩, ⟨2⟩⟩⟩],
    [⟨⟨1⟩, "invert", .parameterControl ⟨1⟩ 1, ⟨0, 0, 10, 10⟩⟩]⟩).mapError .component

/-- A gate and an inverted instance of the component, in a loop. -/
def gateHierarchy : Except GraphHierarchyError GraphHierarchyDocument := do
  let component ← gateComponent
  let dependency ← GraphHierarchyDependency.tryNew component
  let root ← gateWorkspace
    [gateNode ⟨1⟩ ⟨"gate.buffer", 1⟩ false,
      gateNode ⟨2⟩ ⟨graphComponentInstanceKind, graphComponentInstanceVersion⟩ true]
    [⟨⟨1⟩, ⟨⟨1⟩, ⟨2⟩⟩, ⟨⟨2⟩, ⟨1⟩⟩⟩, ⟨⟨2⟩, ⟨⟨2⟩, ⟨2⟩⟩, ⟨⟨1⟩, ⟨1⟩⟩⟩]
  GraphHierarchyDocument.tryNew .interactive 1 root [component]
    [⟨.root, ⟨2⟩, dependency.digest⟩]

theorem gateHierarchy_flattens : ∃ hierarchy flattening, gateHierarchy = .ok hierarchy ∧
    flattenGraphHierarchy hierarchy = .ok flattening := by
  have hflatten : (gateHierarchy >>= flattenGraphHierarchy).isOk = true := by decide +kernel
  obtain ⟨flattening, hflattening⟩ := Except.isOk_iff_exists.1 hflatten
  obtain ⟨hierarchy, hhierarchy, hresult⟩ := Except.bind_eq_ok.1 hflattening
  exact ⟨hierarchy, flattening, hhierarchy, hresult⟩

theorem flattenGraphHierarchy_meaning_gate : ∃ hierarchy flattening placed tagged,
    gateHierarchy = .ok hierarchy ∧ flattenGraphHierarchy hierarchy = .ok flattening ∧
      CompleteExpansion hierarchy flattening placed tagged := by
  obtain ⟨hierarchy, flattening, hhierarchy, hflatten⟩ := gateHierarchy_flattens
  obtain ⟨placed, tagged, hcomplete⟩ := flattenGraphHierarchy_meaning hflatten
  exact ⟨hierarchy, flattening, placed, tagged, hhierarchy, hflatten, hcomplete⟩

end Sample

end Alumina.Graph
