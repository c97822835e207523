import Alumina.Graph.Document

/-!
# What validation establishes

Inversions of the registry and document validators. Later proofs take a validated
`GraphSchema` or `GraphDocument` and read the facts they need from here, so that only
this file depends on the order of the checks.
-/

namespace Alumina.Graph

/-! ## Names -/

theorem utf8ByteSize_of_validStableName {s : String} (h : validStableName s = true) :
    s.utf8ByteSize ≤ 64 := by
  simp only [validStableName, Bool.and_eq_true, length_utf8Bytes] at h
  exact of_decide_eq_true h.1.1.2

theorem utf8ByteSize_of_validSymbol {s : String} (h : validSymbol s = true) :
    s.utf8ByteSize ≤ 32 := by
  simp only [validSymbol, Bool.and_eq_true, decide_eq_true_eq] at h
  exact h.1.2

theorem utf8ByteSize_of_validLabel {s : String} {maximum : Nat}
    (h : validLabel s maximum = true) : s.utf8ByteSize ≤ maximum := by
  simp only [validLabel, Bool.and_eq_true, decide_eq_true_eq] at h
  exact h.1.2

/-! ## Registries -/

namespace GraphSchema

variable (schema : GraphSchema)

/-- The checks of `SchemaTables.validate`, one by one. -/
private theorem validate_parts :
    schema.limits.validate = .ok () ∧ schema.units.length ≤ schema.limits.maximumUnits ∧
      schema.types.length ≤ schema.limits.maximumTypes ∧
      schema.toSchemaTables.validateUnits = .ok () ∧
      schema.toSchemaTables.validateTypes = .ok () := by
  simpa only [SchemaTables.validate, Except.bind_eq_ok, Except.exists_unit,
    Except.failIf_eq_ok, not_lt] using schema.valid

theorem limits_valid : schema.limits.validate = .ok () := schema.validate_parts.1

theorem units_length_le : schema.units.length ≤ schema.limits.maximumUnits :=
  schema.validate_parts.2.1

theorem types_length_le : schema.types.length ≤ schema.limits.maximumTypes :=
  schema.validate_parts.2.2.1

theorem validSymbol_of_mem {unit : UnitDefinition} (h : unit ∈ schema.units) :
    validSymbol unit.symbol = true := by
  have hunits := schema.validate_parts.2.2.2.1
  simp only [SchemaTables.validateUnits, Except.bind_eq_ok, Table.walk_eq_ok] at hunits
  obtain ⟨_, ⟨_, _, hfold⟩, _⟩ := hunits
  exact ((Table.foldlM_namedStep hfold).1 unit h).1

private theorem types_walk :
    (∀ definition ∈ schema.types, definition.id ≠ 0) ∧
      (schema.types.map TypeDefinition.id).IsChain (· ≠ ·) ∧
      ∀ definition ∈ schema.types, validStableName definition.name = true ∧
        schema.toSchemaTables.validateTypeKind definition = .ok () := by
  have htypes := schema.validate_parts.2.2.2.2
  simp only [SchemaTables.validateTypes, Except.bind_eq_ok, Table.walk_eq_ok] at htypes
  obtain ⟨_, ⟨hzero, hchain, hfold⟩, _⟩ := htypes
  exact ⟨hzero, hchain, (Table.foldlM_namedStep hfold).1⟩

theorem validStableName_of_mem {definition : TypeDefinition} (h : definition ∈ schema.types) :
    validStableName definition.name = true :=
  (schema.types_walk.2.2 definition h).1

theorem validateTypeKind_of_mem {definition : TypeDefinition} (h : definition ∈ schema.types) :
    schema.toSchemaTables.validateTypeKind definition = .ok () :=
  (schema.types_walk.2.2 definition h).2

theorem types_nodup : (schema.types.map TypeDefinition.id).Nodup :=
  (Table.nodup_of_sorted_of_isChain schema.sorted.types schema.types_walk.2.1).imp ne_of_lt

/-- A registered type is found under its own identifier. -/
theorem valueType_of_mem {definition : TypeDefinition} (h : definition ∈ schema.types) :
    schema.valueType definition.id = some definition :=
  Table.lookup_of_mem schema.types_nodup h

/-- Record types respect the field limit, and their field names are bounded. -/
theorem record_bounds {definition : TypeDefinition} {fields : List RecordField}
    (h : definition ∈ schema.types) (hkind : definition.kind = .record fields) :
    fields.length ≤ schema.limits.maximumRecordFields ∧
      ∀ field ∈ fields, validStableName field.name = true := by
  have hvalid := schema.validateTypeKind_of_mem h
  simp only [SchemaTables.validateTypeKind, hkind, Except.bind_eq_ok, Except.exists_unit,
    Except.failIf_eq_ok, not_lt, Table.walk_eq_ok] at hvalid
  obtain ⟨hlength, _, ⟨_, _, hfold⟩, _⟩ := hvalid
  exact ⟨hlength, fun field hfield => ((Table.foldlM_namedStep hfold).1 field hfield).1⟩

end GraphSchema

/-! ## Documents -/

namespace GraphDocument

variable (document : GraphDocument)

private theorem validate_parts :
    document.clocks.length ≤ document.schema.limits.maximumClocks ∧
      document.nodes.length ≤ document.schema.limits.maximumNodes ∧
      document.wires.length ≤ document.schema.limits.maximumWires ∧
      document.toDocumentTables.validateClocks = .ok () ∧
      document.toDocumentTables.validateTypeClocks = .ok () ∧
      document.toDocumentTables.validateNodes = .ok () ∧
      document.toDocumentTables.validateWires = .ok () := by
  simpa only [DocumentTables.validate, validateCount, Except.bind_eq_ok, Except.exists_unit,
    Except.failIf_eq_ok, not_lt] using document.valid

theorem clocks_length_le : document.clocks.length ≤ document.schema.limits.maximumClocks :=
  document.validate_parts.1

theorem nodes_length_le : document.nodes.length ≤ document.schema.limits.maximumNodes :=
  document.validate_parts.2.1

theorem wires_length_le : document.wires.length ≤ document.schema.limits.maximumWires :=
  document.validate_parts.2.2.1

private theorem clocks_walk :
    (∀ clock ∈ document.clocks, clock.id ≠ 0) ∧
      (document.clocks.map ClockDefinition.id).IsChain (· ≠ ·) ∧
      ∀ clock ∈ document.clocks, validStableName clock.name = true ∧
        document.toDocumentTables.validateClock clock = .ok () := by
  have hclocks := document.validate_parts.2.2.2.1
  simp only [DocumentTables.validateClocks, Except.bind_eq_ok, Table.walk_eq_ok] at hclocks
  obtain ⟨_, ⟨hzero, hchain, hfold⟩, _⟩ := hclocks
  exact ⟨hzero, hchain, (Table.foldlM_namedStep hfold).1⟩

theorem validStableName_of_mem_clocks {clock : ClockDefinition} (h : clock ∈ document.clocks) :
    validStableName clock.name = true :=
  (document.clocks_walk.2.2 clock h).1

theorem validateClock_of_mem {clock : ClockDefinition} (h : clock ∈ document.clocks) :
    document.toDocumentTables.validateClock clock = .ok () :=
  (document.clocks_walk.2.2 clock h).2

private theorem nodes_walk :
    (∀ node ∈ document.nodes, node.id ≠ 0) ∧
      (document.nodes.map NodeDefinition.id).IsChain (· ≠ ·) ∧
      ∀ node ∈ document.nodes, document.toDocumentTables.validateNode node = .ok () := by
  have hnodes := document.validate_parts.2.2.2.2.2.1
  simp only [DocumentTables.validateNodes, Table.walk_eq_ok] at hnodes
  obtain ⟨hzero, hchain, hfold⟩ := hnodes
  refine ⟨hzero, hchain, ?_⟩
  generalize document.nodes = nodes at hfold
  induction nodes with
  | nil => simp
  | cons node nodes ih =>
    simp only [List.foldlM_cons, Except.bind_eq_ok, Except.exists_unit] at hfold
    exact List.forall_mem_cons.2 ⟨hfold.1, ih hfold.2⟩

theorem validateNode_of_mem {node : NodeDefinition} (h : node ∈ document.nodes) :
    document.toDocumentTables.validateNode node = .ok () :=
  document.nodes_walk.2.2 node h

theorem nodes_nodup : (document.nodes.map NodeDefinition.id).Nodup :=
  (Table.nodup_of_sorted_of_isChain document.sorted.nodes document.nodes_walk.2.1).imp ne_of_lt

theorem node_of_mem {node : NodeDefinition} (h : node ∈ document.nodes) :
    document.node node.id = some node :=
  Table.lookup_of_mem document.nodes_nodup h

end GraphDocument

/-- What a validated node satisfies. -/
structure NodeFacts (tables : DocumentTables) (node : NodeDefinition) : Prop where
  kindName : validStableName node.kind.name = true
  label : validLabel node.label tables.schema.limits.maximumLabelBytes = true
  ports : node.inputs.length + node.outputs.length ≤ tables.schema.limits.maximumPortsPerNode
  parameterCount : node.parameters.length ≤ tables.schema.limits.maximumParametersPerNode
  portNames : ∀ port ∈ node.inputs ++ node.outputs, validStableName port.name = true
  portIds : ((node.inputs ++ node.outputs).map PortDefinition.id).Nodup
  parameterNames : ∀ parameter ∈ node.parameters, validStableName parameter.name = true
  parameterValues : ∀ parameter ∈ node.parameters,
    tables.schema.validateTypedValue parameter.value = .ok ()

/-- The port fold keeps identifiers apart and has checked every name. -/
private theorem foldlM_validatePort {tables : DocumentTables} {ports : List PortDefinition}
    {seen final : List GraphPortId × List String}
    (h : ports.foldlM tables.validatePort seen = .ok final) :
    (∀ port ∈ ports, validStableName port.name = true ∧ port.id ∉ seen.1) ∧
      (ports.map PortDefinition.id).Nodup := by
  induction ports generalizing seen with
  | nil => simp
  | cons port ports ih =>
    simp only [List.foldlM_cons, DocumentTables.validatePort, Except.bind_eq_ok,
      Except.exists_unit, Except.failIf_eq_ok, Except.pure_eq_ok] at h
    obtain ⟨_, ⟨_, hfresh, hname, _, _, rfl⟩, hrest⟩ := h
    obtain ⟨hall, hnodup⟩ := ih hrest
    refine ⟨?_, ?_⟩
    · intro other hother
      rcases List.mem_cons.1 hother with rfl | hother
      · exact ⟨by simpa using hname, hfresh⟩
      · obtain ⟨hvalid, hnew⟩ := hall other hother
        exact ⟨hvalid, fun hmem => hnew (List.mem_cons_of_mem _ hmem)⟩
    · rw [List.map_cons, List.nodup_cons]
      refine ⟨fun hmem => ?_, hnodup⟩
      obtain ⟨other, hother, heq⟩ := List.mem_map.1 hmem
      exact (hall other hother).2 (by simp [heq])

theorem nodeFacts_of_validateNode {tables : DocumentTables} {node : NodeDefinition}
    (h : tables.validateNode node = .ok ()) : NodeFacts tables node := by
  simp only [DocumentTables.validateNode, validateCount, Except.bind_eq_ok, Except.exists_unit,
    Except.failIf_eq_ok, not_or, not_lt, Table.walk_eq_ok] at h
  obtain ⟨⟨hkind, _⟩, hlabel, _, hports, hcount, _, hfold, _, ⟨_, _, hparameters⟩, _⟩ := h
  obtain ⟨hportNames, hportIds⟩ := foldlM_validatePort hfold
  have hall := (Table.foldlM_namedStep hparameters).1
  exact {
    kindName := by simpa using hkind
    label := by simpa using hlabel
    ports := hports
    parameterCount := hcount
    portNames := fun port hport => (hportNames port hport).1
    portIds := hportIds
    parameterNames := fun parameter hparameter => (hall parameter hparameter).1
    parameterValues := fun parameter hparameter => by
      have hvalue := (hall parameter hparameter).2
      rwa [DocumentTables.validateParameter, Except.mapError_eq_ok] at hvalue }

theorem GraphDocument.nodeFacts (document : GraphDocument) {node : NodeDefinition}
    (h : node ∈ document.nodes) : NodeFacts document.toDocumentTables node :=
  nodeFacts_of_validateNode (document.validateNode_of_mem h)

end Alumina.Graph
