import Alumina.ForStd.DfsCycle
import Alumina.Spec.StorageCeiling

/-!
# Combinational cycles

The vertices of the dependency graph are the port endpoints of a document and its edges the wires
and the declared feedthroughs. The cycle search answers for this graph: no cycle, a cycle, or a
cycle that is too long to report.

## Key results

- `cycleLinks_of_traces`: the parents give the links of the walk they trace
- `findCycle_cases`: the search finds a cycle or there is none
- `combinationalCycle`: what the answer says about a document
-/

namespace Alumina.Graph

open Except (failIf)

/-! ## Witnesses -/

/-- The parents give the links of the walk they trace, unless it is too long. -/
theorem cycleLinks_of_traces {parent : WireEndpoint → Option (WireEndpoint × DependencyLink)}
    {target cursor : WireEndpoint} {walk : List (WireEndpoint × DependencyEdge)}
    (h : Dfs.Traces parent target cursor walk) (remaining : Nat) (links : List DependencyLink) :
    cycleLinks parent target remaining cursor links =
      if walk.length < remaining then .ok (walk.map (·.2.label) ++ links)
      else .error (.limitExceeded "cycle witness link count") := by
  induction h generalizing remaining links with
  | here =>
    cases remaining with
    | zero => rfl
    | succ remaining => simp [cycleLinks]
  | @back cursor previous label walk away known rest ih =>
    cases remaining with
    | zero => rfl
    | succ remaining =>
      rw [cycleLinks, if_neg away, known]
      show (failIf (remaining = 0) _ >>= fun _ => _) = _
      by_cases hzero : remaining = 0
      · have hlong : ¬ (walk ++ [(previous, (⟨cursor, label⟩ : DependencyEdge))]).length <
            remaining + 1 := by
          rw [List.length_append, List.length_singleton]
          omega
        rw [if_neg hlong, failIf, if_pos hzero]
        rfl
      · rw [Except.bind_of_ok (Except.failIf_of_not hzero), ih, List.length_append,
          List.length_singleton]
        by_cases hshort : walk.length < remaining
        · rw [if_pos hshort, if_pos (by omega), List.map_append, List.append_assoc]
          rfl
        · rw [if_neg hshort, if_neg (by omega)]

/-! ## Fuel -/

/-- Over distinct vertices the adjacency lists are together no longer than the edge list. -/
theorem sum_length_dependencyAdjacency (vertices : Finset WireEndpoint)
    (edges : List (WireEndpoint × DependencyEdge)) :
    ∑ vertex ∈ vertices, (dependencyAdjacency edges vertex).length ≤ edges.length := by
  have hlength : ∀ vertex ∈ vertices, (dependencyAdjacency edges vertex).length =
      (edges.filter (·.1 = vertex)).length := by
    intro vertex _
    rw [dependencyAdjacency, Table.length_sortByKey, List.length_map]
  rw [Finset.sum_congr rfl hlength]
  clear hlength
  induction edges with
  | nil => simp
  | cons edge edges ih =>
    have hcons : ∀ vertex ∈ vertices, ((edge :: edges).filter (·.1 = vertex)).length =
        (if edge.1 = vertex then 1 else 0) + (edges.filter (·.1 = vertex)).length := by
      intro vertex _
      by_cases hsame : edge.1 = vertex
      · simp [hsame, Nat.add_comm]
      · simp [hsame]
    rw [Finset.sum_congr rfl hcons, Finset.sum_add_distrib, Finset.sum_ite_eq, List.length_cons]
    split
    · omega
    · omega

/-! ## The search -/

section Search

variable {vertices : List WireEndpoint} {edges : List (WireEndpoint × DependencyEdge)}

theorem mem_dependencyAdjacency_iff {source : WireEndpoint} {edge : DependencyEdge} :
    edge ∈ dependencyAdjacency edges source ↔ (source, edge) ∈ edges := by
  rw [dependencyAdjacency, Table.mem_sortByKey, List.mem_map]
  constructor
  · rintro ⟨⟨found, _⟩, hfound, rfl⟩
    rw [List.mem_filter, decide_eq_true_eq] at hfound
    obtain ⟨hmem, rfl⟩ := hfound
    exact hmem
  · intro h
    exact ⟨(source, edge), List.mem_filter.2 ⟨h, by simp⟩, rfl⟩

/-- The search finds that there is no cycle, or one that it reports unless it is too long. -/
theorem findCycle_cases (maximum : Nat)
    (hclosed : ∀ edge ∈ edges, edge.1 ∈ vertices ∧ edge.2.target ∈ vertices) :
    (findCycle vertices edges maximum = .ok none ∧
        ∀ walk, ¬ Dfs.IsCycle (Dfs.Follows (dependencyAdjacency edges)) walk) ∨
      ∃ walk, Dfs.IsCycle (Dfs.Follows (dependencyAdjacency edges)) walk ∧
        findCycle vertices edges maximum =
          if walk.length ≤ maximum then .ok (some ⟨walk.map (·.2.label)⟩)
          else .error (.limitExceeded "cycle witness link count") := by
  have hvertices : ∀ vertex, ∀ edge ∈ dependencyAdjacency edges vertex,
      vertex ∈ vertices ∧ edge.target ∈ vertices := by
    intro vertex edge hedge
    exact hclosed (vertex, edge) (mem_dependencyAdjacency_iff.1 hedge)
  have hfuel : ∑ vertex ∈ vertices.toFinset, (1 + (dependencyAdjacency edges vertex).length) <
      vertices.length + edges.length + 1 := by
    have hedges := sum_length_dependencyAdjacency vertices.toFinset edges
    have hcard := List.toFinset_card_le vertices
    rw [Finset.sum_add_distrib, Finset.sum_const, smul_eq_mul, Nat.mul_one]
    omega
  unfold findCycle
  obtain ⟨final, hrun, hnone⟩ | ⟨source, edge, machine, hrun, hstopped⟩ :=
    Dfs.search_cases hvertices hfuel
  · rw [hrun]
    exact Or.inl ⟨rfl, hnone⟩
  · right
    obtain ⟨walk, htraces, hcycle⟩ := hstopped.cycle
    refine ⟨_, hcycle, ?_⟩
    rw [hrun]
    dsimp only
    rw [cycleLinks_of_traces htraces, List.length_append, List.length_singleton]
    by_cases hshort : walk.length < maximum
    · rw [if_pos hshort, if_pos (by omega), List.append_nil, Except.bind_of_ok rfl,
        Except.bind_of_ok (Except.failIf_of_not (by rw [List.length_map]; omega)),
        List.map_append]
      rfl
    · rw [if_neg hshort, if_neg (by omega)]
      rfl

end Search

/-! ## Documents -/

/-- The links of a document: its wires, and the feedthroughs that the schemas of its nodes
declare. -/
inductive Depends (document : GraphDocument) (schemas : List NodeSchema) :
    WireEndpoint → DependencyEdge → Prop
  | wire {wire : WireDefinition} (mem : wire ∈ document.wires) :
      Depends document schemas wire.source ⟨wire.target, .wire wire.id⟩
  | feedthrough {node : NodeDefinition} {schema : NodeSchema} {dependency : NodeOutputDependency}
      {input : GraphPortId} (mem : (node, schema) ∈ document.nodes.zip schemas)
      (declared : dependency ∈ schema.outputDependencies) (through : input ∈ dependency.inputs) :
      Depends document schemas ⟨node.id, input⟩
        ⟨⟨node.id, dependency.output⟩, .feedthrough node.id input dependency.output⟩

/-- Every node is an instance of the schema that the registry has for its kind. -/
def Instances (document : GraphDocument) (registry : GraphNodeRegistry)
    (schemas : List NodeSchema) : Prop :=
  List.Forall₂ (fun node schema =>
    registry.schema node.kind = some schema ∧ validateInstance node schema = .ok ())
    document.nodes schemas

section Document

variable {document : GraphDocument} {registry : GraphNodeRegistry} {schemas : List NodeSchema}

theorem follows_dependencyEdges :
    Dfs.Follows (dependencyAdjacency (dependencyEdges document.toDocumentTables schemas)) =
      Depends document schemas := by
  funext source edge
  apply propext
  unfold Dfs.Follows
  rw [mem_dependencyAdjacency_iff, dependencyEdges, List.mem_append]
  constructor
  · rintro (hfeedthrough | hwire)
    · obtain ⟨⟨node, schema⟩, hpair, hmem⟩ := List.mem_flatMap.1 hfeedthrough
      obtain ⟨dependency, hdependency, hmem⟩ := List.mem_flatMap.1 hmem
      obtain ⟨input, hinput, heq⟩ := List.mem_map.1 hmem
      obtain ⟨rfl, rfl⟩ := Prod.mk.inj heq
      exact .feedthrough hpair hdependency hinput
    · obtain ⟨wire, hmem, heq⟩ := List.mem_map.1 hwire
      obtain ⟨rfl, rfl⟩ := Prod.mk.inj heq
      exact .wire hmem
  · rintro (hmem | ⟨hpair, hdependency, hinput⟩)
    · exact Or.inr (List.mem_map_of_mem hmem)
    · left
      apply List.mem_flatMap.2 ⟨_, hpair, ?_⟩
      exact List.mem_flatMap.2 ⟨_, hdependency, List.mem_map_of_mem hinput⟩

theorem GraphDocument.wire_target (document : GraphDocument) {wire : WireDefinition}
    (h : wire ∈ document.wires) : ∃ node ∈ document.nodes, ∃ port ∈ node.inputs,
      wire.target = ⟨node.id, port.id⟩ := by
  have hresolve := document.resolveWire_of_mem h
  simp only [DocumentTables.resolveWire, Except.bind_eq_ok, Option.okOr_eq_ok] at hresolve
  obtain ⟨_, -, node, hnode, _, -, port, hport, -⟩ := hresolve
  refine ⟨node, Table.mem_of_lookup hnode, port, List.mem_of_find?_eq_some hport, ?_⟩
  have hid := Table.key_of_lookup hnode
  have hportId : port.id = wire.target.port := by simpa using List.find?_some hport
  rw [hid, hportId]

/-- Both ends of every link are ports of the document. -/
theorem vertices_of_depends (hinstances : Instances document registry schemas)
    {source : WireEndpoint} {edge : DependencyEdge} (h : Depends document schemas source edge) :
    source ∈ dependencyVertices document.toDocumentTables ∧
      edge.target ∈ dependencyVertices document.toDocumentTables := by
  cases h with
  | wire mem =>
    obtain ⟨node, hnode, port, hport, hsource⟩ := document.wire_source mem
    obtain ⟨node', hnode', port', hport', htarget⟩ := document.wire_target mem
    rw [hsource]
    show _ ∧ WireDefinition.target _ ∈ _
    rw [htarget]
    exact ⟨mem_dependencyVertices hnode (List.mem_map_of_mem (List.mem_append_right _ hport)),
      mem_dependencyVertices hnode' (List.mem_map_of_mem (List.mem_append_left _ hport'))⟩
  | @feedthrough node schema dependency input mem declared through =>
    obtain ⟨hlookup, hinstance⟩ := List.forall₂_zip hinstances mem
    obtain ⟨hinputs, houtputs⟩ := validateInstance_ports hinstance
    have hnode := (List.of_mem_zip mem).1
    obtain ⟨houtput, hinput⟩ :=
      NodeSchema.dependency_ports (registry.validate_of_schema hlookup) declared
    constructor
    · apply mem_dependencyVertices hnode
      rw [List.map_append, List.mem_append, hinputs]
      exact Or.inl (hinput input through)
    · apply mem_dependencyVertices hnode
      rw [List.map_append, List.mem_append, houtputs]
      exact Or.inr houtput

/-- The search answers for the graph of wires and feedthroughs. -/
theorem combinationalCycle (hinstances : Instances document registry schemas) :
    let result := findCycle (dependencyVertices document.toDocumentTables)
      (dependencyEdges document.toDocumentTables schemas)
      registry.limits.maximumCycleWitnessLinks
    (result = .ok none ↔ ∀ walk, ¬ Dfs.IsCycle (Depends document schemas) walk) ∧
      (∀ cycle, result = .ok (some cycle) → ∃ walk, Dfs.IsCycle (Depends document schemas) walk ∧
        walk.map (·.2.label) = cycle.links) ∧
      (∀ error, result = .error error → error = .limitExceeded "cycle witness link count" ∧
        ∃ walk, Dfs.IsCycle (Depends document schemas) walk ∧
          registry.limits.maximumCycleWitnessLinks < walk.length) ∧
      result ≠ .error .invalidCycleWitness := by
  intro result
  have hclosed : ∀ edge ∈ dependencyEdges document.toDocumentTables schemas,
      edge.1 ∈ dependencyVertices document.toDocumentTables ∧
        edge.2.target ∈ dependencyVertices document.toDocumentTables := by
    intro edge hedge
    apply vertices_of_depends hinstances
    rw [← follows_dependencyEdges]
    exact mem_dependencyAdjacency_iff.2 hedge
  have hcases := findCycle_cases registry.limits.maximumCycleWitnessLinks hclosed
  rw [follows_dependencyEdges] at hcases
  obtain ⟨hnone, hacyclic⟩ | ⟨walk, hcycle, hfound⟩ := hcases
  · have hresult : result = .ok none := hnone
    rw [hresult]
    exact ⟨⟨fun _ => hacyclic, fun _ => rfl⟩, by simp, by simp, by simp⟩
  · have hcyclic : ¬ ∀ walk, ¬ Dfs.IsCycle (Depends document schemas) walk := fun h =>
      h walk hcycle
    by_cases hshort : walk.length ≤ registry.limits.maximumCycleWitnessLinks
    · have hresult : result = .ok (some ⟨walk.map (·.2.label)⟩) := by
        rw [if_pos hshort] at hfound
        exact hfound
      rw [hresult]
      refine ⟨⟨by simp, fun h => absurd h hcyclic⟩, ?_, by simp, by simp⟩
      intro cycle hreported
      simp only [Except.ok.injEq, Option.some.injEq] at hreported
      exact ⟨walk, hcycle, by rw [← hreported]⟩
    · have hresult : result = .error (.limitExceeded "cycle witness link count") := by
        rw [if_neg hshort] at hfound
        exact hfound
      rw [hresult]
      refine ⟨⟨by simp, fun h => absurd h hcyclic⟩, by simp, ?_, by simp⟩
      intro error herror
      simp only [Except.error.injEq] at herror
      exact ⟨herror.symm, walk, hcycle, by omega⟩

end Document

/-- The schemas of the relay's nodes. -/
def relaySchemas : List NodeSchema :=
  relayDocument.nodes.filterMap fun node => relayNodeRegistry.schema node.kind

/-- The feedback of the relay runs through the delay, which declares no feedthrough. -/
theorem combinationalCycle_relay :
    Instances relayDocument relayNodeRegistry relaySchemas ∧
      ∀ walk, ¬ Dfs.IsCycle (Depends relayDocument relaySchemas) walk := by
  have hinstances : Instances relayDocument relayNodeRegistry relaySchemas := by
    unfold Instances
    decide +kernel
  have hanswer : findCycle (dependencyVertices relayDocument.toDocumentTables)
      (dependencyEdges relayDocument.toDocumentTables relaySchemas)
      relayNodeRegistry.limits.maximumCycleWitnessLinks = .ok none := by
    decide +kernel
  exact ⟨hinstances, (combinationalCycle hinstances).1.1 hanswer⟩

end Alumina.Graph
