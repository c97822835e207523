import Alumina.ForStd.List
import Alumina.Graph.Analysis
import Alumina.Spec.DocumentFacts

/-!
# What a successful analysis has established

`analyzeGraphWithRequiredInputPolicy` runs one pass over the nodes and then searches the
dependency graph for a cycle. This file inverts a successful run once, so that the
simulator proofs can cite the fact they need.

Key results:
- `analysisFacts`: the facts of one accepted document
- `AnalysisFacts.acyclic`: a rank that every wire and current-tick feedthrough lowers
- `AnalysisFacts.rate_pos`: every resolved clock rate is positive
-/

namespace Alumina.Graph

/-! ## Registered schemas -/

section Registry

variable {registry : GraphNodeRegistry}

private theorem validateSchemas_of_mem {tables : RegistryTables} {previous : Option NodeKind}
    {schemas : List NodeSchema} (h : tables.validateSchemas previous schemas = .ok ()) :
    ∀ schema ∈ schemas, schema.validate tables.limits tables.contextSchema.toSchemaTables
      tables.contextClocks = .ok () := by
  induction schemas generalizing previous with
  | nil => simp
  | cons schema schemas ih =>
    simp only [RegistryTables.validateSchemas, Except.bind_eq_ok, Except.exists_unit] at h
    obtain ⟨-, hschema, hrest⟩ := h
    intro other hother
    rcases List.mem_cons.mp hother with rfl | hother
    · exact hschema
    · exact ih hrest other hother

theorem GraphNodeRegistry.mem_of_schema {kind : NodeKind} {schema : NodeSchema}
    (h : registry.schema kind = some schema) : schema ∈ registry.schemas :=
  Table.mem_of_lookup h

/-- Every schema a registry resolves has passed validation. -/
theorem GraphNodeRegistry.validate_of_schema {kind : NodeKind} {schema : NodeSchema}
    (h : registry.schema kind = some schema) :
    schema.validate registry.limits registry.contextSchema.toSchemaTables
      registry.contextClocks = .ok () := by
  have hvalid := registry.valid
  simp only [RegistryTables.validate, Except.bind_eq_ok, Except.exists_unit] at hvalid
  exact validateSchemas_of_mem hvalid.2.2 schema (registry.mem_of_schema h)

private theorem foldlM_validateDependencyInput {schema : NodeSchema} {inputs : List GraphPortId}
    {previous last : Option GraphPortId}
    (h : inputs.foldlM schema.validateDependencyInput previous = .ok last) :
    ∀ input ∈ inputs, input ∈ schema.inputs.map PortDefinition.id := by
  induction inputs generalizing previous with
  | nil => simp
  | cons input inputs ih =>
    simp only [List.foldlM_cons, NodeSchema.validateDependencyInput, Except.bind_eq_ok,
      Except.exists_unit, Except.failIf_eq_ok, not_or, not_not, Except.pure_eq_ok] at h
    obtain ⟨_, ⟨⟨-, hmem⟩, rfl⟩, hrest⟩ := h
    intro other hother
    rcases List.mem_cons.mp hother with rfl | hother
    · exact hmem
    · exact ih hrest other hother

/-- A declared dependency names an output and inputs of its own schema. -/
theorem NodeSchema.dependency_ports {schema : NodeSchema} {limits : GraphAnalysisLimits}
    {context : SchemaTables} {clocks : List ClockDefinition}
    (h : schema.validate limits context clocks = .ok ()) {dependency : NodeOutputDependency}
    (hmem : dependency ∈ schema.outputDependencies) :
    dependency.output ∈ schema.outputs.map PortDefinition.id ∧
      ∀ input ∈ dependency.inputs, input ∈ schema.inputs.map PortDefinition.id := by
  simp only [NodeSchema.validate, Except.bind_eq_ok, Except.exists_unit, Except.failIf_eq_ok,
    not_not, ne_eq] at h
  obtain ⟨-, -, -, -, -, -, -, -, hlength, hdependencies, -⟩ := h
  rw [Except.forEach_eq_ok] at hdependencies
  have hzip : dependency ∈ (schema.outputs.zip schema.outputDependencies).map Prod.snd := by
    rwa [List.map_snd_zip (by omega)]
  obtain ⟨⟨output, _⟩, hpair, rfl⟩ := List.mem_map.mp hzip
  have hvalid := hdependencies _ hpair
  simp only [NodeSchema.validateDependency, Except.bind_eq_ok, Except.exists_unit,
    Except.failIf_eq_ok, not_not, ne_eq, Except.pure_eq_ok] at hvalid
  obtain ⟨hid, last, hinputs, -⟩ := hvalid
  refine ⟨?_, foldlM_validateDependencyInput hinputs⟩
  rw [← hid]
  exact List.mem_map_of_mem (List.of_mem_zip hpair).1

end Registry

/-! ## Clock rates -/

/-- A resolved rate is positive: roots have a positive frequency, and every derivation
multiplies by a positive ratio. -/
private theorem resolveClockRate_pos {tables : DocumentTables}
    (hvalid : ∀ clock ∈ tables.clocks, tables.validateClock clock = .ok ()) {clock : GraphClockId}
    {remaining : Nat} {current root : GraphClockId} {multiplier rate : ℚ} (hpos : 0 < multiplier)
    (h : resolveClockRate tables clock remaining current multiplier = .ok (root, rate)) :
    0 < rate := by
  induction remaining generalizing current multiplier with
  | zero => cases h
  | succ remaining ih =>
    simp only [resolveClockRate, Except.bind_eq_ok, Option.okOr_eq_ok] at h
    obtain ⟨definition, hdefinition, h⟩ := h
    have hclock := hvalid definition (Table.mem_of_lookup hdefinition)
    have hticks : ∀ ticks : UInt64, ticks ≠ 0 → (0 : ℚ) < (ticks.toNat : ℚ) := by
      intro ticks hne
      have hne : ticks.toNat ≠ 0 := fun hzero => hne (UInt64.toNat_inj.mp hzero)
      exact_mod_cast Nat.pos_of_ne_zero hne
    cases hkind : definition.kind with
    | hostMonotonic ticks =>
      simp only [DocumentTables.validateClock, hkind, Except.failIf_eq_ok] at hclock
      simp only [hkind, Except.pure_eq_ok, Prod.mk.injEq] at h
      rw [← h.2]
      exact mul_pos (hticks _ hclock) hpos
    | deviceCycle device ticks =>
      simp only [DocumentTables.validateClock, hkind, Except.failIf_eq_ok, not_or] at hclock
      simp only [hkind, Except.pure_eq_ok, Prod.mk.injEq] at h
      rw [← h.2]
      exact mul_pos (hticks _ (by simp_all)) hpos
    | derived source numerator denominator =>
      simp only [DocumentTables.validateClock, hkind, Except.bind_eq_ok, Except.exists_unit,
        Except.failIf_eq_ok, not_or] at hclock
      simp only [hkind] at h
      have hratio : ∀ n : UInt32, n ≠ 0 → (0 : ℚ) < (n.toNat : ℚ) := by
        intro n hne
        have hne : n.toNat ≠ 0 := fun hzero => hne (UInt32.toNat_inj.mp hzero)
        exact_mod_cast Nat.pos_of_ne_zero hne
      exact ih (div_pos (mul_pos hpos (hratio _ (by simp_all))) (hratio _ (by simp_all))) h

/-! ## The pass over the nodes -/

section Pass

variable {tables : DocumentTables} {limits : GraphAnalysisLimits} {policy : RequiredInputPolicy}
  {rates : List GraphClockRate} {bounds : List GraphTypeStorageBound}

/-- What one node adds to the report. -/
structure NodeAdmitted (tables : DocumentTables) (limits : GraphAnalysisLimits)
    (rates : List GraphClockRate) (bounds : List GraphTypeStorageBound)
    (registry : RegistryTables) (node : NodeDefinition) (schema : NodeSchema)
    (transitions : List GraphRateTransition) (allocations : List NodeStateAllocation) : Prop where
  schema_eq : registry.schema node.kind = some schema
  instance_ok : validateInstance node schema = .ok ()
  transitions_ok : List.Forall₂ (fun contract report =>
    analyzeRateTransition tables node schema contract rates bounds limits.maximumRatePatternTicks =
      .ok report) schema.rateTransitions transitions
  allocations_ok : ∀ allocation ∈ allocations, ∃ required,
    literalStorageBytes bounds allocation.valueType = .ok required ∧
      required ≤ allocation.declaredStorageBytes.toNat

/-- The parts of the report that inputs do not touch. -/
private def AnalysisProgress.reported (progress : AnalysisProgress) :
    List NodeSchema × List GraphRateTransition × List NodeStateAllocation :=
  (progress.schemas, progress.rateTransitions, progress.stateAllocations)

private theorem analyzeInput_reported {node : NodeDefinition} {progress progress' : AnalysisProgress}
    {pair : PortDefinition × NodeInputChannelContract}
    (h : analyzeInput tables limits policy bounds node progress pair = .ok progress') :
    progress'.reported = progress.reported := by
  obtain ⟨input, channel⟩ := pair
  simp only [analyzeInput] at h
  split at h
  · split at h
    · cases policy with
      | reject => cases h
      | retain =>
        simp only [Except.pure_eq_ok] at h
        rw [← h]
        rfl
    · simp only [Except.pure_eq_ok] at h
      rw [h]
  · simp only [Except.bind_eq_ok, Except.pure_eq_ok] at h
    obtain ⟨_, -, _, -, _, -, _, -, _, -, h⟩ := h
    rw [← h]
    rfl

private theorem analyzeInputs_reported {node : NodeDefinition}
    {pairs : List (PortDefinition × NodeInputChannelContract)}
    {progress progress' : AnalysisProgress}
    (h : pairs.foldlM (analyzeInput tables limits policy bounds node) progress = .ok progress') :
    progress'.reported = progress.reported :=
  Except.foldlM_invariant (P := fun p => p.reported = progress.reported)
    (fun _ _ _ _ hs hstep => (analyzeInput_reported hstep).trans hs) rfl h

private theorem analyzeTransition_step {node : NodeDefinition} {schema : NodeSchema}
    {progress progress' : AnalysisProgress} {contract : NodeRateTransitionContract}
    (h : analyzeTransition tables limits rates bounds node schema progress contract =
      .ok progress') :
    progress'.schemas = progress.schemas ∧
      progress'.stateAllocations = progress.stateAllocations ∧
      ∃ report, progress'.rateTransitions = progress.rateTransitions ++ [report] ∧
        analyzeRateTransition tables node schema contract rates bounds
          limits.maximumRatePatternTicks = .ok report := by
  simp only [analyzeTransition, Except.bind_eq_ok, Except.exists_unit, Except.pure_eq_ok] at h
  obtain ⟨-, report, hreport, -, rfl⟩ := h
  exact ⟨rfl, rfl, report, rfl, hreport⟩

private theorem analyzeTransitions_step {node : NodeDefinition} {schema : NodeSchema}
    {contracts : List NodeRateTransitionContract} {progress progress' : AnalysisProgress}
    (h : contracts.foldlM (analyzeTransition tables limits rates bounds node schema) progress =
      .ok progress') :
    progress'.schemas = progress.schemas ∧
      progress'.stateAllocations = progress.stateAllocations ∧
      ∃ new, progress'.rateTransitions = progress.rateTransitions ++ new ∧
        List.Forall₂ (fun contract report =>
          analyzeRateTransition tables node schema contract rates bounds
            limits.maximumRatePatternTicks = .ok report) contracts new := by
  induction contracts generalizing progress with
  | nil =>
    obtain rfl : progress = progress' := by simpa using h
    exact ⟨rfl, rfl, [], by simp, .nil⟩
  | cons contract contracts ih =>
    rw [List.foldlM_cons, Except.bind_eq_ok] at h
    obtain ⟨middle, hhead, hrest⟩ := h
    obtain ⟨hschemas, hstates, report, hreport, hok⟩ := analyzeTransition_step hhead
    obtain ⟨hschemas', hstates', new, hnew, hall⟩ := ih hrest
    refine ⟨hschemas'.trans hschemas, hstates'.trans hstates, report :: new, ?_, .cons hok hall⟩
    rw [hnew, hreport, List.append_assoc, List.singleton_append]

private theorem analyzeState_step {node : NodeDefinition} {state : Option NodeStateContract}
    {progress progress' : AnalysisProgress}
    (h : analyzeState limits bounds node progress state = .ok progress') :
    progress'.schemas = progress.schemas ∧
      progress'.rateTransitions = progress.rateTransitions ∧
      ∃ new, progress'.stateAllocations = progress.stateAllocations ++ new ∧
        ∀ allocation ∈ new, ∃ required,
          literalStorageBytes bounds allocation.valueType = .ok required ∧
            required ≤ allocation.declaredStorageBytes.toNat := by
  cases state with
  | none =>
    obtain rfl : progress = progress' := by simpa [analyzeState] using h
    exact ⟨rfl, rfl, [], by simp, by simp⟩
  | some state =>
    simp only [analyzeState, Except.bind_eq_ok, Except.exists_unit, Except.failIf_eq_ok,
      Except.mapError_eq_ok, not_lt, Except.pure_eq_ok] at h
    obtain ⟨-, required, hrequired, hle, -, rfl⟩ := h
    refine ⟨rfl, rfl, _, rfl, fun allocation hmem => ?_⟩
    obtain rfl := List.mem_singleton.mp hmem
    exact ⟨required, hrequired, hle⟩

/-- One node of the pass: it resolves to a schema and adds its own reports. -/
private theorem analyzeNode_step {registry : RegistryTables} {node : NodeDefinition}
    {progress progress' : AnalysisProgress}
    (h : analyzeNode tables limits policy rates bounds registry progress node = .ok progress') :
    ∃ schema transitions allocations,
      NodeAdmitted tables limits rates bounds registry node schema transitions allocations ∧
      progress'.schemas = progress.schemas ++ [schema] ∧
      progress'.rateTransitions = progress.rateTransitions ++ transitions ∧
      progress'.stateAllocations = progress.stateAllocations ++ allocations := by
  simp only [analyzeNode, Except.bind_eq_ok, Except.exists_unit, Option.okOr_eq_ok,
    Except.pure_eq_ok] at h
  obtain ⟨schema, hschema, hinstance, afterInputs, hinputs, afterTransitions, htransitions,
    afterState, hstate, rfl⟩ := h
  have hreported := analyzeInputs_reported hinputs
  simp only [AnalysisProgress.reported, Prod.mk.injEq] at hreported
  obtain ⟨hschemas, hrate, hstates⟩ := hreported
  obtain ⟨hschemas', hstates', transitions, hrate', htransitionsOk⟩ :=
    analyzeTransitions_step htransitions
  obtain ⟨hschemas'', hrate'', allocations, hstates'', hallocations⟩ := analyzeState_step hstate
  refine ⟨schema, transitions, allocations,
    ⟨hschema, hinstance, htransitionsOk, hallocations⟩, ?_, ?_, ?_⟩
  · rw [hschemas'', hschemas', hschemas]
  · rw [hrate'', hrate', hrate]
  · rw [hstates'', hstates', hstates]

/-- The whole pass: the reports are those of the single nodes, in node order. -/
private theorem analyzeNodes {registry : RegistryTables} {nodes : List NodeDefinition}
    {progress progress' : AnalysisProgress}
    (h : nodes.foldlM (analyzeNode tables limits policy rates bounds registry) progress =
      .ok progress') :
    ∃ schemas transitions allocations,
      progress'.schemas = progress.schemas ++ schemas ∧
      progress'.rateTransitions = progress.rateTransitions ++ transitions ∧
      progress'.stateAllocations = progress.stateAllocations ++ allocations ∧
      List.Forall₂ (fun node schema => registry.schema node.kind = some schema) nodes schemas ∧
      (∀ node ∈ nodes, ∃ schema own ownAllocations,
        NodeAdmitted tables limits rates bounds registry node schema own ownAllocations ∧
          ∀ report ∈ own, report ∈ transitions) ∧
      (∀ report ∈ transitions, ∃ node ∈ nodes, ∃ schema own ownAllocations,
        NodeAdmitted tables limits rates bounds registry node schema own ownAllocations ∧
          report ∈ own) ∧
      (∀ allocation ∈ allocations, ∃ node ∈ nodes, ∃ schema own ownAllocations,
        NodeAdmitted tables limits rates bounds registry node schema own ownAllocations ∧
          allocation ∈ ownAllocations) := by
  induction nodes generalizing progress with
  | nil =>
    obtain rfl : progress = progress' := by simpa using h
    exact ⟨[], [], [], by simp, by simp, by simp, .nil, by simp, by simp, by simp⟩
  | cons node nodes ih =>
    rw [List.foldlM_cons, Except.bind_eq_ok] at h
    obtain ⟨middle, hnode, hrest⟩ := h
    obtain ⟨schema, own, ownAllocations, hadmitted, hschemas, hrate, hstates⟩ :=
      analyzeNode_step hnode
    obtain ⟨schemas, transitions, allocations, hschemas', hrate', hstates', hresolve, hnodes,
      hreports, hallocations⟩ := ih hrest
    refine ⟨schema :: schemas, own ++ transitions, ownAllocations ++ allocations, ?_, ?_, ?_,
      .cons hadmitted.schema_eq hresolve, ?_, ?_, ?_⟩
    · rw [hschemas', hschemas, List.append_assoc, List.singleton_append]
    · rw [hrate', hrate, List.append_assoc]
    · rw [hstates', hstates, List.append_assoc]
    · intro other hother
      rcases List.mem_cons.mp hother with rfl | hother
      · exact ⟨schema, own, ownAllocations, hadmitted, fun report hreport => by simp [hreport]⟩
      · obtain ⟨schema, own, ownAllocations, hadmitted, hmem⟩ := hnodes other hother
        exact ⟨schema, own, ownAllocations, hadmitted, fun report hreport => by
          simp [hmem report hreport]⟩
    · intro report hreport
      rcases List.mem_append.mp hreport with hown | hreport
      · exact ⟨node, by simp, schema, own, ownAllocations, hadmitted, hown⟩
      · obtain ⟨other, hother, hrest⟩ := hreports report hreport
        exact ⟨other, by simp [hother], hrest⟩
    · intro allocation hallocation
      rcases List.mem_append.mp hallocation with hown | hallocation
      · exact ⟨node, by simp, schema, own, ownAllocations, hadmitted, hown⟩
      · obtain ⟨other, hother, hrest⟩ := hallocations allocation hallocation
        exact ⟨other, by simp [hother], hrest⟩

end Pass

/-! ## Facts of an accepted document -/

/-- The ports of an admitted instance are those of its schema. -/
theorem validateInstance_ports {node : NodeDefinition} {schema : NodeSchema}
    (h : validateInstance node schema = .ok ()) :
    node.inputs = schema.inputs ∧ node.outputs = schema.outputs := by
  simp only [validateInstance, validateInstancePorts, Except.bind_eq_ok, Except.exists_unit,
    Except.failIf_eq_ok, not_not, ne_eq] at h
  exact ⟨h.2.1, h.2.2.1⟩

/-- What a successful analysis has established about a document. -/
structure AnalysisFacts (document : GraphDocument) (registry : GraphNodeRegistry)
    (analysis : GraphAnalysis) : Prop where
  schema_eq : document.schema = registry.contextSchema
  clocks_eq : document.clocks = registry.contextClocks
  bounds_ok : analyzeTypeStorage document.schema.toSchemaTables = .ok analysis.typeStorageBounds
  rates_ok : resolveClockRates document.toDocumentTables = .ok analysis.clockRates
  /-- Every node resolves to a schema it is an instance of, and its rate transitions are
  reported. -/
  node : ∀ node ∈ document.nodes, ∃ schema own ownAllocations,
    NodeAdmitted document.toDocumentTables registry.limits analysis.clockRates
        analysis.typeStorageBounds registry.toRegistryTables node schema own ownAllocations ∧
      ∀ report ∈ own, report ∈ analysis.rateTransitions
  /-- Every reported rate transition belongs to a node. -/
  transition : ∀ report ∈ analysis.rateTransitions, ∃ node ∈ document.nodes,
    ∃ schema own ownAllocations,
      NodeAdmitted document.toDocumentTables registry.limits analysis.clockRates
          analysis.typeStorageBounds registry.toRegistryTables node schema own ownAllocations ∧
        report ∈ own
  allocation : ∀ allocation ∈ analysis.stateAllocations, ∃ required,
    literalStorageBytes analysis.typeStorageBounds allocation.valueType = .ok required ∧
      required ≤ allocation.declaredStorageBytes.toNat
  /-- Wires and current-tick feedthroughs only ever lower the rank. -/
  acyclic : ∃ rank : WireEndpoint → Nat,
    (∀ wire ∈ document.wires, rank wire.target < rank wire.source) ∧
    ∀ node ∈ document.nodes, ∀ schema, registry.schema node.kind = some schema →
      ∀ dependency ∈ schema.outputDependencies, ∀ input ∈ dependency.inputs,
        rank ⟨node.id, dependency.output⟩ < rank ⟨node.id, input⟩

section Facts

variable {document : GraphDocument} {registry : GraphNodeRegistry} {analysis : GraphAnalysis}

/-- An edge of the dependency graph is an edge of its source's adjacency list. -/
private theorem mem_dependencyAdjacency {edges : List (WireEndpoint × DependencyEdge)}
    {source : WireEndpoint} {edge : DependencyEdge} (h : (source, edge) ∈ edges) :
    edge ∈ dependencyAdjacency edges source := by
  rw [dependencyAdjacency, Table.mem_sortByKey, List.mem_map]
  exact ⟨(source, edge), List.mem_filter.mpr ⟨h, by simp⟩, rfl⟩

/-- A search that reports no cycle ranks the graph. -/
private theorem rank_of_findCycle {vertices : List WireEndpoint}
    {edges : List (WireEndpoint × DependencyEdge)} {maximum : Nat}
    (h : findCycle vertices edges maximum = .ok none) :
    ∃ rank : WireEndpoint → Nat, ∀ edge ∈ edges, edge.1 ∈ vertices →
      rank edge.2.target < rank edge.1 := by
  rw [findCycle] at h
  split at h
  · next machine hrun =>
    obtain ⟨rank, hrank⟩ := Dfs.rank_of_search hrun
    exact ⟨rank, fun edge hedge hmem => hrank edge.1 hmem edge.2 (mem_dependencyAdjacency hedge)⟩
  · cases h
  · simp at h

theorem mem_dependencyVertices {tables : DocumentTables} {node : NodeDefinition}
    (hnode : node ∈ tables.nodes) {port : GraphPortId}
    (hport : port ∈ (node.inputs ++ node.outputs).map PortDefinition.id) :
    (⟨node.id, port⟩ : WireEndpoint) ∈ dependencyVertices tables := by
  obtain ⟨definition, hdefinition, rfl⟩ := List.mem_map.mp hport
  rw [dependencyVertices, Table.mem_sortByKey, List.mem_flatMap]
  exact ⟨node, hnode, List.mem_map_of_mem hdefinition⟩

/-- Both ends of a wire are ports of the document. -/
theorem GraphDocument.resolveWire_of_mem (document : GraphDocument) {wire : WireDefinition}
    (h : wire ∈ document.wires) : document.resolveWire wire = .ok () := by
  have hvalid := document.valid
  simp only [DocumentTables.validate, DocumentTables.validateWires, Except.bind_eq_ok,
    Except.exists_unit, Except.pure_eq_ok] at hvalid
  obtain ⟨-, -, -, -, -, -, final, hwalk, -⟩ := hvalid
  obtain ⟨-, -, hfold⟩ := Table.walk_eq_ok.mp hwalk
  generalize document.wires = wires at h hfold
  generalize (([], []) : List (WireEndpoint × WireEndpoint) × List WireEndpoint) = seen at hfold
  induction wires generalizing seen with
  | nil => cases h
  | cons other wires ih =>
    rw [List.foldlM_cons, Except.bind_eq_ok] at hfold
    obtain ⟨next, hstep, hrest⟩ := hfold
    rcases List.mem_cons.mp h with rfl | h
    · simp only [DocumentTables.validateWire, Except.bind_eq_ok, Except.exists_unit] at hstep
      exact hstep.1
    · exact ih h next hrest

theorem GraphDocument.wire_source (document : GraphDocument) {wire : WireDefinition}
    (h : wire ∈ document.wires) : ∃ node ∈ document.nodes, ∃ port ∈ node.outputs,
      wire.source = ⟨node.id, port.id⟩ := by
  have hresolve := document.resolveWire_of_mem h
  simp only [DocumentTables.resolveWire, Except.bind_eq_ok, Option.okOr_eq_ok] at hresolve
  obtain ⟨node, hnode, _, -, port, hport, -⟩ := hresolve
  refine ⟨node, Table.mem_of_lookup hnode, port, List.mem_of_find?_eq_some hport, ?_⟩
  have hid := Table.key_of_lookup hnode
  have hportId : port.id = wire.source.port := by simpa using List.find?_some hport
  rw [hid, hportId]

/-- Analysis has established its facts, whatever it does with unconnected inputs. -/
theorem analysisFacts {policy : RequiredInputPolicy} {missing : List WireEndpoint}
    (h : analyzeGraphWithRequiredInputPolicy document registry policy = .ok (analysis, missing)) :
    AnalysisFacts document registry analysis := by
  simp only [analyzeGraphWithRequiredInputPolicy, Except.bind_eq_ok, Except.exists_unit,
    Except.failIf_eq_ok, not_or, not_not, ne_eq, Except.mapError_eq_ok] at h
  obtain ⟨⟨hschema, hclocks⟩, bounds, hbounds, rates, hrates, progress, hpass, hlinks, cycle,
    hcycle, h⟩ := h
  obtain ⟨schemas, transitions, allocations, hschemas, htransitions, hallocations, hresolve,
    hnodes, hreports, hstates⟩ := analyzeNodes hpass
  cases cycle with
  | some cycle => cases h
  | none =>
    simp only [Except.pure_eq_ok, Prod.mk.injEq] at h
    obtain ⟨rfl, rfl⟩ := h
    simp only [List.nil_append] at hschemas htransitions hallocations
    refine ⟨hschema, hclocks, hbounds, hrates, ?_, ?_, ?_, ?_⟩
    · simpa only [htransitions] using hnodes
    · simpa only [htransitions] using hreports
    · intro allocation hmem
      obtain ⟨node, -, schema, own, ownAllocations, hadmitted, hown⟩ :=
        hstates allocation (hallocations ▸ hmem)
      exact hadmitted.allocations_ok allocation hown
    · obtain ⟨rank, hrank⟩ := rank_of_findCycle hcycle
      rw [hschemas] at hrank
      refine ⟨rank, fun wire hwire => ?_, fun node hnode schema hlookup dependency hdependency
        input hinput => ?_⟩
      · obtain ⟨node, hnode, port, hport, hsource⟩ := document.wire_source hwire
        refine hrank (wireEdge wire) (List.mem_append_right _ (List.mem_map_of_mem hwire)) ?_
        rw [wireEdge, hsource]
        exact mem_dependencyVertices hnode (List.mem_map_of_mem (List.mem_append_right _ hport))
      · -- the schema paired with the node is the one the registry resolves
        obtain ⟨found, hpair, hfound⟩ := hresolve.exists_zip_of_mem_left hnode
        obtain rfl : found = schema := by simpa [hlookup] using hfound.symm
        have hports := NodeSchema.dependency_ports (registry.validate_of_schema hlookup) hdependency
        obtain ⟨_, own, ownAllocations, hadmitted, -⟩ := hnodes node hnode
        obtain rfl := Option.some.inj (hlookup.symm.trans hadmitted.schema_eq)
        have hinstance := validateInstance_ports hadmitted.instance_ok
        refine hrank (⟨node.id, input⟩, ⟨⟨node.id, dependency.output⟩,
          .feedthrough node.id input dependency.output⟩) (List.mem_append_left _ ?_) ?_
        · refine List.mem_flatMap.mpr ⟨(node, found), hpair, ?_⟩
          exact List.mem_flatMap.mpr ⟨dependency, hdependency, List.mem_map_of_mem hinput⟩
        · refine mem_dependencyVertices hnode ?_
          rw [List.map_append, List.mem_append, hinstance.1]
          exact Or.inl (hports.2 input hinput)

theorem analysisFacts_of_suppliedInputs {supplied : List WireEndpoint}
    (h : analyzeGraphWithSuppliedInputs document registry supplied = .ok analysis) :
    AnalysisFacts document registry analysis := by
  simp only [analyzeGraphWithSuppliedInputs, Except.bind_eq_ok] at h
  obtain ⟨⟨report, missing⟩, hreport, h⟩ := h
  simp only at h
  split at h
  · cases h
  · obtain rfl : report = analysis := by simpa using h
    exact analysisFacts hreport

theorem analysisFacts_of_analyzeGraph (h : analyzeGraph document registry = .ok analysis) :
    AnalysisFacts document registry analysis := by
  simp only [analyzeGraph, Except.bind_eq_ok, Except.pure_eq_ok] at h
  obtain ⟨⟨report, missing⟩, hreport, rfl⟩ := h
  exact analysisFacts hreport

/-- A found clock rate is that of a clock of the document. -/
theorem AnalysisFacts.resolve_of_mem (facts : AnalysisFacts document registry analysis)
    {rate : GraphClockRate} (h : rate ∈ analysis.clockRates) : ∃ clock ∈ document.clocks,
      rate.clock = clock.id ∧ resolveClockRate document.toDocumentTables clock.id
        (document.clocks.length + 1) clock.id 1 = .ok (rate.root, rate.ticksPerSecond) := by
  have hrates := Except.mapM_eq_ok facts.rates_ok
  obtain ⟨clock, hclock, hrate⟩ := hrates.exists_of_mem_right h
  simp only [Except.bind_eq_ok, Except.pure_eq_ok] at hrate
  obtain ⟨⟨root, ticks⟩, hresolve, rfl⟩ := hrate
  exact ⟨clock, hclock, rfl, hresolve⟩

theorem AnalysisFacts.rate_pos (facts : AnalysisFacts document registry analysis)
    {rate : GraphClockRate} (h : rate ∈ analysis.clockRates) : 0 < rate.ticksPerSecond := by
  obtain ⟨clock, -, -, hresolve⟩ := facts.resolve_of_mem h
  exact resolveClockRate_pos (fun clock hclock => document.validateClock_of_mem hclock) one_pos
    hresolve

end Facts

end Alumina.Graph
