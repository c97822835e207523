import Alumina.Graph.HostLibrary
import Alumina.Spec.DocumentFacts
import Alumina.Spec.ValueTyping
import Alumina.Spec.WirePrimitives

/-!
# Round trip of the canonical graph encoding

Every structural decoder reads what its encoder wrote. Values follow the typing
derivation of `Spec.ValueTyping`, so that the decoder's depth and node bounds are the
ones the validator already passed.

Key results:
- `reads_value`: typed literals of any nesting
- `reads_schema`, `reads_nodes`: the two tables with bounds of their own
- `replayGraphDocument_encodeGraphDocument`: the whole document
-/

namespace Alumina.Graph

open Codec

/-! ## Values -/

section Values

variable {schema : GraphSchema}

theorem wireKind_of_valueType {valueType : GraphTypeId} {definition : TypeDefinition}
    (h : schema.valueType valueType = some definition) :
    wireKind schema.toSchemaTables valueType = .ok definition.kind := by
  simp [wireKind, SchemaTables.requireType, h, Except.mapError]

/-- A leaf is encoded by `encodeLeaf` under its registered shape. -/
theorem encodeLeaf_of_encodeValue {valueType : GraphTypeId} {kind : TypeKind}
    {value : GraphValue} {bytes : List UInt8}
    (hkind : wireKind schema.toSchemaTables valueType = .ok kind)
    (hleaf : LeafShape schema.toSchemaTables kind value)
    (h : encodeValue schema.toSchemaTables valueType value = .ok bytes) :
    encodeLeaf schema.toSchemaTables kind value = .ok bytes := by
  have hbind : (do
      let kind ← wireKind schema.toSchemaTables valueType
      encodeLeaf schema.toSchemaTables kind value) = Except.ok bytes := by
    cases hleaf <;> simpa only [encodeValue] using h
  rwa [Except.bind_of_ok hkind] at hbind

variable [RationalParser]

/-- Leaves read back under the shape they were encoded with. -/
private theorem reads_leaf {nodes : Nat} {valueType : GraphTypeId} {kind : TypeKind}
    {value : GraphValue} {bytes : List UInt8}
    {decodeChild : Nat → GraphTypeId → WireDecoder (GraphValue × Nat)}
    (hleaf : LeafShape schema.toSchemaTables kind value)
    (hbytes : encodeLeaf schema.toSchemaTables kind value = .ok bytes) :
    Reads (decodeShape schema.toSchemaTables decodeChild valueType nodes kind) bytes
      (value, nodes) := by
  cases hleaf with
  | boolean =>
    rename_i b
    simp only [encodeLeaf, Except.pure_eq_ok] at hbytes
    subst hbytes
    cases b
    · exact reads_tag (Reads.pure _)
    · exact reads_tag (Reads.pure _)
  | canonicalI64 =>
    simp only [encodeLeaf, Except.pure_eq_ok] at hbytes
    subst hbytes
    exact (reads_i64 _).bind_nil (Reads.pure _)
  | canonicalU64 =>
    simp only [encodeLeaf, Except.pure_eq_ok] at hbytes
    subst hbytes
    exact (reads_u64 _).bind_nil (Reads.pure _)
  | exactRational _ => exact (reads_rational hbytes).bind_nil (Reads.pure _)
  | measurementInterval _ _ _ =>
    simp only [encodeLeaf, Except.bind_eq_ok, Except.pure_eq_ok] at hbytes
    obtain ⟨lower, hlower, upper, hupper, rfl⟩ := hbytes
    refine (reads_rational hlower).bind ?_
    exact (reads_rational hupper).bind_nil (Reads.pure _)
  | text hbound hlimit =>
    exact (reads_text hbytes (le_min hbound hlimit)).bind_nil (Reads.pure _)
  | bytes hbound hlimit =>
    simp only [encodeLeaf, Except.bind_eq_ok, Except.pure_eq_ok] at hbytes
    obtain ⟨count, hcount, rfl⟩ := hbytes
    exact (reads_boundedBytes hcount (le_min hbound hlimit)).bind_nil (Reads.pure _)
  | optionNone =>
    simp only [encodeLeaf, Except.pure_eq_ok] at hbytes
    subst hbytes
    exact reads_tag (Reads.pure _)
  | resourceHandle =>
    simp only [encodeLeaf, Except.pure_eq_ok, List.append_assoc] at hbytes
    subst hbytes
    refine (reads_array _).bind ((reads_array _).bind ((reads_id _).bind ?_))
    exact (reads_u32 _).bind_nil (Reads.pure _)
  | jobHandle =>
    simp only [encodeLeaf, Except.pure_eq_ok, List.append_assoc] at hbytes
    subst hbytes
    refine (reads_array _).bind ((reads_array _).bind ?_)
    exact (reads_array _).bind_nil (Reads.pure _)

mutual

/-- Induction on the typing derivation; each level of nesting uses up one decoder level. -/
theorem reads_value {depth nodes final : Nat} {valueType : GraphTypeId} {value : GraphValue}
    {levels : Nat} {bytes : List UInt8}
    (hlevels : levels + depth = schema.limits.maximumValueDepth + 1)
    (hbytes : encodeValue schema.toSchemaTables valueType value = .ok bytes) :
    HasType schema.toSchemaTables depth nodes valueType value final →
    Reads (decodeValue schema.toSchemaTables levels nodes valueType) bytes (value, final)
  | .intro hdepth hnodes hdefinition hshape => by
    cases levels with
    | zero => omega
    | succ levels =>
      rw [decodeValue]
      refine Reads.lift_bind (Except.failIf_of_not (by omega))
        (Reads.lift_bind (wireKind_of_valueType hdefinition) ?_)
      exact reads_shape (by omega) hdefinition hbytes rfl hshape

theorem reads_shape {depth nodes final : Nat} {valueType : GraphTypeId} {kind : TypeKind}
    {definition : TypeDefinition} {value : GraphValue} {levels : Nat} {bytes : List UInt8}
    (hlevels : levels + depth = schema.limits.maximumValueDepth)
    (hdefinition : schema.valueType valueType = some definition)
    (hbytes : encodeValue schema.toSchemaTables valueType value = .ok bytes)
    (hdefkind : definition.kind = kind) :
    HasShape schema.toSchemaTables depth nodes kind value final →
    Reads (decodeShape schema.toSchemaTables (decodeValue schema.toSchemaTables levels) valueType
      nodes kind) bytes (value, final)
  | .array hbound hlimit hitems => by
    rw [encodeValue, Except.bind_of_ok (hdefkind ▸ wireKind_of_valueType hdefinition)] at hbytes
    simp only [Except.bind_eq_ok, Except.pure_eq_ok] at hbytes
    obtain ⟨count, hcount, body, hbody, rfl⟩ := hbytes
    refine (reads_count hcount (le_min hbound hlimit)).bind ?_
    exact (reads_items (by omega) hbody hitems).bind_nil (Reads.pure _)
  | .record hfields => by
    rw [encodeValue, Except.bind_of_ok (hdefkind ▸ wireKind_of_valueType hdefinition)] at hbytes
    simp only [Except.bind_eq_ok, Except.pure_eq_ok] at hbytes
    obtain ⟨count, hcount, body, hbody, rfl⟩ := hbytes
    have hlength := fieldsHaveType_length hfields
    have hlimit := (schema.record_bounds (Table.mem_of_lookup hdefinition) hdefkind).1
    refine (reads_count hcount (hlength ▸ hlimit)).bind ?_
    refine Reads.lift_bind (Except.failIf_of_not (by omega)) ?_
    exact (reads_fields (by omega) hbody hfields).bind_nil (Reads.pure _)
  | .optionSome hvalue => by
    rw [encodeValue, Except.bind_of_ok (hdefkind ▸ wireKind_of_valueType hdefinition)] at hbytes
    simp only [Except.bind_eq_ok, Except.pure_eq_ok] at hbytes
    obtain ⟨body, hbody, rfl⟩ := hbytes
    exact reads_tag ((reads_value (by omega) hbody hvalue).bind_nil (Reads.pure _))
  | .resultOk hvalue => by
    rw [encodeValue, Except.bind_of_ok (hdefkind ▸ wireKind_of_valueType hdefinition)] at hbytes
    simp only [Except.bind_eq_ok, Except.pure_eq_ok] at hbytes
    obtain ⟨body, hbody, rfl⟩ := hbytes
    exact reads_tag ((reads_value (by omega) hbody hvalue).bind_nil (Reads.pure _))
  | .resultError hvalue => by
    rw [encodeValue, Except.bind_of_ok (hdefkind ▸ wireKind_of_valueType hdefinition)] at hbytes
    simp only [Except.bind_eq_ok, Except.pure_eq_ok] at hbytes
    obtain ⟨body, hbody, rfl⟩ := hbytes
    exact reads_tag ((reads_value (by omega) hbody hvalue).bind_nil (Reads.pure _))
  | .leaf hleaf =>
    reads_leaf hleaf (encodeLeaf_of_encodeValue
      (hdefkind ▸ wireKind_of_valueType hdefinition) hleaf hbytes)

theorem reads_items {depth nodes final : Nat} {element : GraphTypeId} {items : List GraphValue}
    {levels : Nat} {bytes : List UInt8}
    (hlevels : levels + depth = schema.limits.maximumValueDepth + 1)
    (hbytes : encodeItems schema.toSchemaTables element items = .ok bytes) :
    ItemsHaveType schema.toSchemaTables depth nodes element items final →
    Reads (traverse (decodeValue schema.toSchemaTables levels) nodes
      (List.replicate items.length element)) bytes (items, final)
  | .nil => by
    simp only [encodeItems, Except.ok.injEq] at hbytes
    subst hbytes
    exact Reads.pure _
  | .cons hitem hitems => by
    simp only [encodeItems, Except.bind_eq_ok, Except.pure_eq_ok] at hbytes
    obtain ⟨first, hfirst, rest, hrest, rfl⟩ := hbytes
    refine (reads_value hlevels hfirst hitem).bind ?_
    exact (reads_items hlevels hrest hitems).bind_nil (Reads.pure _)

theorem reads_fields {depth nodes final : Nat} {fields : List RecordField}
    {values : List (RecordFieldId × GraphValue)} {levels : Nat} {bytes : List UInt8}
    (hlevels : levels + depth = schema.limits.maximumValueDepth + 1)
    (hbytes : encodeFields schema.toSchemaTables fields values = .ok bytes) :
    FieldsHaveType schema.toSchemaTables depth nodes fields values final →
    Reads (traverse (fun nodes (field : RecordField) => do
      let id ← decodeId .recordField
      let (value, nodes) ← decodeValue schema.toSchemaTables levels nodes field.valueType
      return ((id, value), nodes)) nodes fields) bytes (values, final)
  | .nil => by
    simp only [encodeFields, Except.ok.injEq] at hbytes
    subst hbytes
    exact Reads.pure _
  | .cons hvalue hvalues => by
    simp only [encodeFields, Except.bind_eq_ok, Except.pure_eq_ok] at hbytes
    obtain ⟨first, hfirst, rest, hrest, rfl⟩ := hbytes
    refine Reads.bind (a := ((_, _), _)) ?_
      ((reads_fields hlevels hrest hvalues).bind_nil (Reads.pure _))
    refine (reads_id _).bind ?_
    exact (reads_value hlevels hfirst hvalue).bind_nil (Reads.pure _)

end

/-- A typed value reads back, and the constructor revalidates it. -/
theorem reads_typedValue {typed : TypedGraphValue} {bytes : List UInt8}
    (h : encodeTypedValue schema.toSchemaTables typed = .ok bytes) :
    Reads (decodeTypedValue schema) bytes typed := by
  simp only [encodeTypedValue, Except.bind_eq_ok, Except.exists_unit, Except.mapError_eq_ok,
    Except.pure_eq_ok] at h
  obtain ⟨hvalid, body, hbody, rfl⟩ := h
  obtain ⟨final, htype⟩ := hasType_of_validateValue hvalid
  refine (reads_id _).bind ?_
  refine (reads_value rfl hbody htype).bind_nil (Reads.lift ?_)
  have hnew : TypedGraphValue.tryNew schema typed.valueType typed.value = .ok typed := by
    unfold SchemaTables.validateTypedValue at hvalid
    rw [TypedGraphValue.tryNew, Except.bind_of_ok hvalid]
    rfl
  rw [hnew]
  rfl

end Values

/-! ## Units and types -/

private theorem reads_dimensions (dimensions : BaseDimensions) :
    Reads decodeDimensions (dimensions.val.map Int8.toUInt8) dimensions := by
  have hlength : (dimensions.val.map Int8.toUInt8).length = 7 := by
    rw [List.length_map, dimensions.property]
  refine (reads_array ⟨dimensions.val.map Int8.toUInt8, hlength⟩).bind_nil ?_
  refine (Reads.pure _).of_eq rfl (Subtype.ext ?_)
  simp [Function.comp_def]

private theorem reads_unit [RationalParser] {limits : GraphLimits} {unit : UnitDefinition} {bytes : List UInt8}
    (h : encodeUnit limits unit = .ok bytes) (hsymbol : validSymbol unit.symbol = true) :
    Reads (decodeUnit limits) bytes unit := by
  simp only [encodeUnit, Except.bind_eq_ok, Except.pure_eq_ok, List.append_assoc] at h
  obtain ⟨symbol, hbytes, scale, hscale, rfl⟩ := h
  refine (reads_id _).bind ((reads_text hbytes (utf8ByteSize_of_validSymbol hsymbol)).bind ?_)
  exact (reads_dimensions _).bind ((reads_rational hscale).bind_nil (Reads.pure _))

private theorem reads_recordField {field : RecordField} {bytes : List UInt8}
    (h : encodeRecordField field = .ok bytes) (hname : validStableName field.name = true) :
    Reads decodeRecordField bytes field := by
  simp only [encodeRecordField, Except.bind_eq_ok, Except.pure_eq_ok, List.append_assoc] at h
  obtain ⟨name, hbytes, rfl⟩ := h
  refine (reads_id _).bind ((reads_text hbytes (utf8ByteSize_of_validStableName hname)).bind ?_)
  exact (reads_id _).bind_nil (Reads.pure _)

/-- Type shapes; only records have a bound to meet. -/
private theorem reads_typeKind [RationalParser] {limits : GraphLimits} {kind : TypeKind} {bytes : List UInt8}
    (h : encodeTypeKind limits kind = .ok bytes)
    (hrecord : ∀ fields, kind = .record fields → fields.length ≤ limits.maximumRecordFields ∧
      ∀ field ∈ fields, validStableName field.name = true) :
    Reads (decodeTypeKind limits) bytes kind := by
  cases kind with
  | record fields =>
    obtain ⟨hlength, hnames⟩ := hrecord fields rfl
    simp only [encodeTypeKind, Except.bind_eq_ok, Except.pure_eq_ok] at h
    obtain ⟨count, hcount, body, hbody, rfl⟩ := h
    refine reads_tag ((reads_count hcount hlength).bind ?_)
    refine (Reads.replicate fields hbody ?_).bind_nil (Reads.pure _)
    exact fun field hfield b hb => reads_recordField hb (hnames field hfield)
  | canonicalI64 unit quantum | canonicalU64 unit quantum =>
    simp only [encodeTypeKind, Except.bind_eq_ok, Except.pure_eq_ok] at h
    obtain ⟨body, hbody, rfl⟩ := h
    exact reads_tag ((reads_id _).bind ((reads_rational hbody).bind_nil (Reads.pure _)))
  | boolean | jobHandle =>
    simp only [encodeTypeKind, Except.pure_eq_ok] at h
    subst h
    exact reads_tag (Reads.pure _)
  | exactRational _ | measurementInterval _ | option _ | resourceHandle _ =>
    simp only [encodeTypeKind, Except.pure_eq_ok] at h
    subst h
    exact reads_tag ((reads_id _).bind_nil (Reads.pure _))
  | text _ | bytes _ =>
    simp only [encodeTypeKind, Except.pure_eq_ok] at h
    subst h
    exact reads_tag ((reads_u32 _).bind_nil (Reads.pure _))
  | array _ _ =>
    simp only [encodeTypeKind, Except.pure_eq_ok] at h
    subst h
    exact reads_tag ((reads_id _).bind ((reads_u32 _).bind_nil (Reads.pure _)))
  | result _ _ | event _ _ =>
    simp only [encodeTypeKind, Except.pure_eq_ok] at h
    subst h
    exact reads_tag ((reads_id _).bind ((reads_id _).bind_nil (Reads.pure _)))
  | stream _ _ _ =>
    simp only [encodeTypeKind, Except.pure_eq_ok, List.cons_append, List.append_assoc] at h
    subst h
    exact reads_tag ((reads_id _).bind ((reads_id _).bind ((reads_u32 _).bind_nil (Reads.pure _))))

private theorem reads_type [RationalParser] {schema : GraphSchema} {definition : TypeDefinition}
    {bytes : List UInt8} (hmem : definition ∈ schema.types)
    (h : encodeType schema.limits definition = .ok bytes) :
    Reads (decodeType schema.limits) bytes definition := by
  simp only [encodeType, Except.bind_eq_ok, Except.pure_eq_ok, List.append_assoc] at h
  obtain ⟨name, hname, kind, hkind, rfl⟩ := h
  have hsize := utf8ByteSize_of_validStableName (schema.validStableName_of_mem hmem)
  refine (reads_id _).bind ((reads_text hname hsize).bind ?_)
  refine (reads_typeKind hkind ?_).bind_nil (Reads.pure _)
  exact fun fields hfields => schema.record_bounds hmem hfields

/-- The registry reads back, and validating its own tables returns it. -/
theorem reads_schema [RationalParser] {schema : GraphSchema} {bytes : List UInt8}
    (h : encodeSchema schema.toSchemaTables = .ok bytes) :
    Reads (decodeSchema schema.limits) bytes schema := by
  simp only [encodeSchema, Except.bind_eq_ok, Except.pure_eq_ok, List.append_assoc] at h
  obtain ⟨unitCount, hunitCount, units, hunits, typeCount, htypeCount, types, htypes, rfl⟩ := h
  refine (reads_count hunitCount schema.units_length_le).bind ?_
  refine (Reads.replicate schema.units hunits fun unit hunit b hb =>
    reads_unit hb (schema.validSymbol_of_mem hunit)).bind ?_
  refine (reads_count htypeCount schema.types_length_le).bind ?_
  refine (Reads.replicate schema.types htypes fun definition hmem b hb =>
    reads_type hmem hb).bind_nil (Reads.lift ?_)
  rw [schema.tryNew_self]
  rfl

/-! ## Clocks, nodes and wires -/

private theorem reads_clockKind (kind : ClockKind) :
    Reads decodeClockKind (encodeClockKind kind) kind := by
  cases kind with
  | hostMonotonic _ => exact reads_tag ((reads_u64 _).bind_nil (Reads.pure _))
  | deviceCycle _ _ =>
    exact reads_tag ((reads_array _).bind ((reads_u64 _).bind_nil (Reads.pure _)))
  | derived source numerator denominator =>
    simp only [encodeClockKind, List.cons_append, List.append_assoc]
    exact reads_tag ((reads_id _).bind ((reads_u32 _).bind ((reads_u32 _).bind_nil
      (Reads.pure _))))

private theorem reads_clock {clock : ClockDefinition} {bytes : List UInt8}
    (h : encodeClock clock = .ok bytes) (hname : validStableName clock.name = true) :
    Reads decodeClock bytes clock := by
  simp only [encodeClock, Except.bind_eq_ok, Except.pure_eq_ok, List.append_assoc] at h
  obtain ⟨name, hbytes, rfl⟩ := h
  refine (reads_id _).bind ((reads_text hbytes (utf8ByteSize_of_validStableName hname)).bind ?_)
  exact (reads_clockKind _).bind_nil (Reads.pure _)

private theorem reads_ports {ports : List PortDefinition} {maximum : Nat} {bytes : List UInt8}
    (h : encodePorts ports = .ok bytes) (hlength : ports.length ≤ maximum)
    (hnames : ∀ port ∈ ports, validStableName port.name = true) :
    Reads (decodePorts maximum) bytes ports := by
  simp only [encodePorts, Except.bind_eq_ok, Except.pure_eq_ok] at h
  obtain ⟨count, hcount, body, hbody, rfl⟩ := h
  refine (reads_count hcount hlength).bind (Reads.replicate ports hbody ?_)
  intro port hport b hb
  simp only [encodePort, Except.bind_eq_ok, Except.pure_eq_ok, List.append_assoc] at hb
  obtain ⟨name, hname, rfl⟩ := hb
  refine (reads_id _).bind ((reads_text hname
    (utf8ByteSize_of_validStableName (hnames port hport))).bind ?_)
  exact (reads_id _).bind_nil (Reads.pure _)

private theorem reads_domain (domain : ExecutionDomain) :
    Reads decodeDomain (encodeDomain domain) domain := by
  cases domain with
  | hostExact => exact reads_tag (Reads.pure _)
  | service _ => exact reads_tag ((reads_array _).bind_nil (Reads.pure _))
  | realtime _ => exact reads_tag ((reads_array _).bind_nil (Reads.pure _))

private theorem reads_parameter [RationalParser] {schema : GraphSchema}
    {parameter : NodeParameter} {bytes : List UInt8}
    (h : encodeParameter schema.toSchemaTables parameter = .ok bytes)
    (hname : validStableName parameter.name = true) :
    Reads (decodeParameter schema) bytes parameter := by
  simp only [encodeParameter, Except.bind_eq_ok, Except.pure_eq_ok, List.append_assoc] at h
  obtain ⟨name, hbytes, value, hvalue, rfl⟩ := h
  refine (reads_u32 _).bind ((reads_text hbytes (utf8ByteSize_of_validStableName hname)).bind ?_)
  exact (reads_typedValue hvalue).bind_nil (Reads.pure _)

private theorem reads_node [RationalParser] {tables : DocumentTables} {node : NodeDefinition}
    {bytes : List UInt8} (h : encodeNode tables.schema.toSchemaTables node = .ok bytes)
    (hfacts : NodeFacts tables node) : Reads (decodeNode tables.schema) bytes node := by
  simp only [encodeNode, Except.bind_eq_ok, Except.pure_eq_ok, List.append_assoc] at h
  obtain ⟨kindName, hkindName, label, hlabel, inputs, hinputs, outputs, houtputs,
    parameterCount, hcount, parameters, hparameters, rfl⟩ := h
  have hports := hfacts.ports
  refine (reads_id _).bind ((reads_text hkindName
    (utf8ByteSize_of_validStableName hfacts.kindName)).bind ?_)
  refine (reads_u16 _).bind ((reads_text hlabel
    (utf8ByteSize_of_validLabel hfacts.label)).bind ?_)
  refine (reads_domain _).bind ?_
  refine (reads_ports hinputs (by omega) fun port hport =>
    hfacts.portNames port (List.mem_append_left _ hport)).bind ?_
  refine (reads_ports houtputs (by omega) fun port hport =>
    hfacts.portNames port (List.mem_append_right _ hport)).bind ?_
  refine (reads_count hcount hfacts.parameterCount).bind ?_
  refine (Reads.replicate node.parameters hparameters ?_).bind_nil (Reads.pure _)
  exact fun parameter hmem b hb => reads_parameter hb (hfacts.parameterNames parameter hmem)

private theorem reads_endpoint (endpoint : WireEndpoint) :
    Reads decodeEndpoint (encodeEndpoint endpoint) endpoint :=
  (reads_id _).bind ((reads_id _).bind_nil (Reads.pure _))

private theorem reads_wire {wire : WireDefinition} {bytes : List UInt8}
    (h : encodeWire wire = .ok bytes) : Reads decodeWire bytes wire := by
  simp only [encodeWire, Except.pure_eq_ok, List.append_assoc] at h
  subst h
  exact (reads_id _).bind ((reads_endpoint _).bind ((reads_endpoint _).bind_nil (Reads.pure _)))

section Document

variable (document : GraphDocument) {bytes : List UInt8}

theorem reads_clocks (h : encodeClocks document.clocks = .ok bytes) :
    Reads (decodeClocks document.schema.limits) bytes document.clocks := by
  simp only [encodeClocks, Except.bind_eq_ok, Except.pure_eq_ok] at h
  obtain ⟨count, hcount, body, hbody, rfl⟩ := h
  refine (reads_count hcount document.clocks_length_le).bind (Reads.replicate _ hbody ?_)
  exact fun clock hclock b hb =>
    reads_clock hb (document.validStableName_of_mem_clocks hclock)

theorem reads_nodes [RationalParser]
    (h : encodeNodes document.schema.toSchemaTables document.nodes = .ok bytes) :
    Reads (decodeNodes document.schema) bytes document.nodes := by
  simp only [encodeNodes, Except.bind_eq_ok, Except.pure_eq_ok] at h
  obtain ⟨count, hcount, body, hbody, rfl⟩ := h
  refine (reads_count hcount document.nodes_length_le).bind (Reads.replicate _ hbody ?_)
  exact fun node hnode b hb => reads_node hb (document.nodeFacts hnode)

theorem reads_wires (h : encodeWires document.wires = .ok bytes) :
    Reads (decodeWires document.schema.limits) bytes document.wires := by
  simp only [encodeWires, Except.bind_eq_ok, Except.pure_eq_ok] at h
  obtain ⟨count, hcount, body, hbody, rfl⟩ := h
  refine (reads_count hcount document.wires_length_le).bind (Reads.replicate _ hbody ?_)
  exact fun wire _ b hb => reads_wire hb

end Document

/-! ## Limits and the complete document -/

/-- Encoded limits fit their width, and are encoded as 64-bit words. -/
private theorem encodeAll_limits {values : List Nat} {bytes : List UInt8}
    (h : encodeAll (fun value => do
      Except.failIf (value ≥ 2 ^ 64) (.integerOverflow "limit value")
      return leBytes 8 value : Nat → Encoded) values = .ok bytes) :
    (values.map UInt64.ofNat).map UInt64.toNat = values ∧
      encodeAll (fun word => .ok (encodeU64 word) : UInt64 → Encoded)
        (values.map UInt64.ofNat) = .ok bytes := by
  induction values generalizing bytes with
  | nil => exact ⟨rfl, h⟩
  | cons value values ih =>
    obtain ⟨first, hfirst, rest, hrest, rfl⟩ := encodeAll_cons_eq_ok.1 h
    simp only [Except.bind_eq_ok, Except.exists_unit, Except.failIf_eq_ok, Except.pure_eq_ok,
      not_le] at hfirst
    obtain ⟨hlt, rfl⟩ := hfirst
    obtain ⟨hmap, henc⟩ := ih hrest
    have hword : (UInt64.ofNat value).toNat = value := UInt64.toNat_ofNat_of_lt' hlt
    refine ⟨by rw [List.map_cons, List.map_cons, hmap, hword], ?_⟩
    exact encodeAll_cons_eq_ok.2 ⟨_, rfl, _, henc, by rw [encodeU64, hword]⟩

private theorem reads_limits {limits : GraphLimits} {bytes : List UInt8}
    (h : encodeLimits limits = .ok bytes) : Reads decodeLimits bytes limits := by
  obtain ⟨hvalues, hbytes⟩ := encodeAll_limits h
  have hwords : Reads (replicate limitFieldCount decodeU64) bytes
      (limits.values.map UInt64.ofNat) :=
    Reads.replicate (limits.values.map UInt64.ofNat) hbytes fun word _ b hb => by
      simp only [Except.ok.injEq] at hb
      subst hb
      exact reads_u64 word
  refine hwords.bind_nil ?_
  rw [hvalues]
  exact Reads.pure limits

/-- Admission limits at least as large as valid limits are valid. -/
private theorem validate_of_limitsWithin {received admission : GraphLimits}
    (hvalid : received.validate = .ok ()) (h : limitsWithin received admission = true) :
    admission.validate = .ok () := by
  simp only [GraphLimits.validate, Except.failIf_eq_ok, GraphLimits.values, List.mem_cons,
    List.not_mem_nil, or_false, not_or] at hvalid ⊢
  simp only [limitsWithin, GraphLimits.values, List.zip_cons_cons, List.zip_nil_right,
    List.all_cons, List.all_nil, Bool.and_eq_true, decide_eq_true_eq] at h
  omega

private theorem maximumDocumentBytes_le {received admission : GraphLimits}
    (h : limitsWithin received admission = true) :
    received.maximumDocumentBytes ≤ admission.maximumDocumentBytes := by
  simp only [limitsWithin, GraphLimits.values, List.zip_cons_cons, List.all_cons,
    Bool.and_eq_true, decide_eq_true_eq] at h
  exact h.1

/-- The header of a document that fits its own limits passes every admission check. -/
private theorem reads_header {length : Nat} {limits admission : GraphLimits}
    {bytes : List UInt8} (hbytes : encodeLimits limits = .ok bytes)
    (hvalid : limits.validate = .ok ()) (hwithin : limitsWithin limits admission = true)
    (hlength : length ≤ limits.maximumDocumentBytes) :
    Reads (decodeHeader length admission)
      (graphDocumentMagic ++ (encodeU16 graphDocumentVersion ++
        (encodeU16 graphDocumentFlags ++ bytes))) limits := by
  refine (Reads.take _ graphDocumentMagic).bind ?_
  refine Reads.lift_bind (Except.failIf_of_not (by simp)) ?_
  refine (reads_u16 _).bind (Reads.lift_bind (Except.failIf_of_not (by simp)) ?_)
  refine (reads_u16 _).bind (Reads.lift_bind (Except.failIf_of_not (by simp)) ?_)
  refine (reads_limits hbytes).bind_nil ?_
  refine Reads.lift_bind (Except.failIf_of_not (by simp [hwithin])) ?_
  refine Reads.lift_bind (Except.mapError_eq_ok.2 hvalid) ?_
  exact Reads.lift_bind (Except.failIf_of_not (by omega)) (Reads.pure limits)

/-- The last step of the decoder: nothing remains, and the tables rebuild the document. -/
private theorem decode_end (document : GraphDocument) :
    (do
      Except.failIf (!(← Codec.isEmpty)) GraphWireError.trailingBytes
      (GraphDocument.tryNew document.revision document.schema document.clocks document.nodes
        document.wires).mapError GraphWireError.document : WireDecoder GraphDocument) [] =
      .ok (document, []) := by
  rw [document.tryNew_self]
  rfl

private theorem decodeGraphDocument_of_parts [RationalParser] {document : GraphDocument}
    {length : Nat} {admission : GraphLimits} {header schema clocks nodes wires : List UInt8}
    (hheader : Reads (decodeHeader length admission) header document.schema.limits)
    (hschema : encodeSchema document.schema.toSchemaTables = .ok schema)
    (hclocks : encodeClocks document.clocks = .ok clocks)
    (hnodes : encodeNodes document.schema.toSchemaTables document.nodes = .ok nodes)
    (hwires : encodeWires document.wires = .ok wires) :
    decodeGraphDocument length admission (header ++ (encodeU64 document.revision ++
      (schema ++ (clocks ++ (nodes ++ (wires ++ [])))))) = .ok (document, []) := by
  rw [decodeGraphDocument, hheader.bind_apply, (reads_u64 _).bind_apply,
    (reads_schema hschema).bind_apply, (reads_clocks document hclocks).bind_apply,
    (reads_nodes document hnodes).bind_apply, (reads_wires document hwires).bind_apply]
  exact decode_end document

/-- Replaying an encoded document under any admission that covers its own limits returns
the document and the same encoding. -/
theorem replayGraphDocument_of_encode [RationalParser] [Sha256] {document : GraphDocument}
    {encoding : CanonicalGraphEncoding} {admission : GraphLimits}
    (hencode : encodeGraphDocument document = .ok encoding)
    (hwithin : limitsWithin document.schema.limits admission = true) :
    replayGraphDocument encoding.bytes admission = .ok ⟨document, encoding⟩ := by
  have h := hencode
  simp only [encodeGraphDocument, Except.bind_eq_ok, Except.exists_unit, Except.failIf_eq_ok,
    Except.pure_eq_ok, not_lt] at h
  obtain ⟨limits, hlimits, schema, hschema, clocks, hclocks, nodes, hnodes, wires, hwires,
    hlength, hencoding⟩ := h
  have hbytes : encoding.bytes = (graphDocumentMagic ++ (encodeU16 graphDocumentVersion ++
      (encodeU16 graphDocumentFlags ++ limits))) ++ (encodeU64 document.revision ++
        (schema ++ (clocks ++ (nodes ++ (wires ++ []))))) := by
    rw [← hencoding]
    simp
  have hfits : encoding.bytes.length ≤ document.schema.limits.maximumDocumentBytes := by
    rw [← hencoding]
    exact hlength
  have hvalid := document.schema.limits_valid
  have hadmitted := validate_of_limitsWithin hvalid hwithin
  have hdocumentBytes := maximumDocumentBytes_le hwithin
  have hdecode : decodeGraphDocument encoding.bytes.length admission encoding.bytes =
      .ok (document, []) := by
    have hheader := reads_header hlimits hvalid hwithin hfits
    have hparts := decodeGraphDocument_of_parts hheader hschema hclocks hnodes hwires
    rwa [← hbytes] at hparts
  rw [replayGraphDocument, Except.bind_of_ok (Except.mapError_eq_ok.2 hadmitted),
    Except.bind_of_ok (Except.failIf_of_not (by omega)), Except.bind_of_ok hdecode]
  dsimp only
  rw [Except.bind_of_ok hencode, Except.bind_of_ok (Except.failIf_of_not (by simp))]
  rfl

/-- The fieldwise maximum of two policies. -/
def GraphLimits.max (left right : GraphLimits) : GraphLimits :=
  .ofValues (List.zipWith Nat.max left.values right.values)

theorem limitsWithin_max_left (left right : GraphLimits) :
    limitsWithin left (left.max right) = true := by
  simp [limitsWithin, GraphLimits.values, GraphLimits.max, GraphLimits.ofValues]

theorem limitsWithin_max_right (left right : GraphLimits) :
    limitsWithin right (left.max right) = true := by
  simp [limitsWithin, GraphLimits.values, GraphLimits.max, GraphLimits.ofValues]

/-- Documents with equal bytes are equal: both replay under the larger of their limits. -/
theorem document_eq_of_bytes_eq [RationalParser] [Sha256] {left right : GraphDocument}
    {leftEncoding rightEncoding : CanonicalGraphEncoding}
    (hleft : encodeGraphDocument left = .ok leftEncoding)
    (hright : encodeGraphDocument right = .ok rightEncoding)
    (hbytes : leftEncoding.bytes = rightEncoding.bytes) : left = right := by
  have hreplay := replayGraphDocument_of_encode hleft
    (limitsWithin_max_left left.schema.limits right.schema.limits)
  rw [hbytes, replayGraphDocument_of_encode hright
    (limitsWithin_max_right left.schema.limits right.schema.limits)] at hreplay
  simp only [Except.ok.injEq, GraphReplay.mk.injEq] at hreplay
  exact hreplay.1.symm

/-- One clock, a lattice unit, a record of scalars and one node that stores it. -/
def gaugeTables : SchemaTables where
  limits := .interactive
  units := [⟨⟨1⟩, "mm", ⟨[1, 0, 0, 0, 0, 0, 0], rfl⟩, 1 / 1000⟩]
  types := [⟨⟨1⟩, "flag", .boolean⟩, ⟨⟨2⟩, "length", .exactRational ⟨1⟩⟩,
    ⟨⟨3⟩, "gauge", .record [⟨⟨1⟩, "valid", ⟨1⟩⟩, ⟨⟨2⟩, "reading", ⟨2⟩⟩]⟩]

def gaugeSchema : GraphSchema where
  toSchemaTables := gaugeTables
  sorted := by decide
  valid := by decide +kernel

def gaugeDocument : GraphDocument where
  revision := 3
  schema := gaugeSchema
  clocks := [⟨⟨1⟩, "main", .hostMonotonic 1000⟩]
  nodes := [⟨⟨1⟩, ⟨"gauge.store", 1⟩, "gauge", .hostExact, [], [⟨⟨1⟩, "value", ⟨3⟩⟩],
    [⟨1, "initial", ⟨⟨3⟩, .record [(⟨1⟩, .boolean true), (⟨2⟩, .exactRational (-5 / 2))]⟩⟩]⟩]
  wires := []
  sorted := by decide
  valid := by decide +kernel

/-- **Round trip.** Replaying the encoding of a document under any admission at least as
large as the embedded limits returns the document with the same bytes, and no other
document has these bytes. -/
theorem graphDocument_roundTrip [RationalParser] [Sha256] (document : GraphDocument)
    (encoding : CanonicalGraphEncoding)
    (hencode : encodeGraphDocument document = .ok encoding) :
    (∀ admission, List.Forall₂ (· ≤ ·) document.schema.limits.values admission.values →
      replayGraphDocument encoding.bytes admission = .ok ⟨document, encoding⟩) ∧
    ∀ other otherEncoding, encodeGraphDocument other = .ok otherEncoding →
      otherEncoding.bytes = encoding.bytes → other = document := by
  refine ⟨fun admission hlimits => ?_, fun other otherEncoding hother hbytes => ?_⟩
  · refine replayGraphDocument_of_encode hencode ?_
    rw [limitsWithin, List.all_eq_true]
    exact fun pair hpair => decide_eq_true ((List.forall₂_iff_zip.1 hlimits).2 hpair)
  · exact document_eq_of_bytes_eq hother hencode hbytes

open HostLibrary in
theorem graphDocument_roundTrip_gauge :
    ∃ encoding, encodeGraphDocument gaugeDocument = .ok encoding ∧
      replayGraphDocument encoding.bytes .interactive = .ok ⟨gaugeDocument, encoding⟩ := by
  obtain ⟨encoding, hencode⟩ : ∃ encoding, encodeGraphDocument gaugeDocument = .ok encoding :=
    Except.isOk_iff_exists.1 (by decide +kernel)
  refine ⟨encoding, hencode, ?_⟩
  exact (graphDocument_roundTrip gaugeDocument encoding hencode).1 .interactive (by decide)

end Alumina.Graph
