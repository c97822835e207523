import Mathlib
import Alumina.ForStd.Except
import Alumina.ForStd.Table
import Alumina.Graph.Value

/-!
# The unit and type registry

`GraphSchema.tryNew` sorts a registry into canonical order and validates it: names,
identifiers, unit scales, type references, nesting depth. A `GraphSchema` keeps the
result of that validation as a field, so a registry that was never validated cannot be
passed to the functions over it. `validateValue` checks one literal against a
registered type, counting nesting depth and value nodes.
-/

namespace Alumina.Graph

/-- Rejection at a bounded graph value/schema boundary. -/
inductive GraphSchemaError where
  | zeroLimit
  | limitExceeded (name : String)
  | zeroIdentifier (kind : String)
  | duplicateIdentifier (kind : String)
  | duplicateName (kind : String)
  | invalidName (kind : String)
  | invalidUnitScale (unit : UnitId)
  | invalidLatticeQuantum (valueType : GraphTypeId)
  | unknownUnit (unit : UnitId)
  | unknownType (valueType : GraphTypeId)
  | recursiveType (valueType : GraphTypeId)
  | typeDepthExceeded (valueType : GraphTypeId)
  | valueDepthExceeded
  | valueNodeLimitExceeded
  | typeMismatch (expected : GraphTypeId) (received : GraphValueKind)
  | reversedMeasurement
  | recordShape
  | runtimeOnlyType (valueType : GraphTypeId)
  | invalidHandle
  deriving DecidableEq, Repr

open Except (failIf)

/-! ## Scalar checks -/

/-- The UTF-8 bytes of a string. -/
def utf8Bytes (s : String) : List UInt8 := s.toByteArray.data.toList

@[simp] theorem length_utf8Bytes (s : String) : (utf8Bytes s).length = s.utf8ByteSize := rfl

def isAsciiAlphabetic (byte : UInt8) : Bool :=
  (65 ≤ byte && byte ≤ 90) || (97 ≤ byte && byte ≤ 122)

def isAsciiDigit (byte : UInt8) : Bool := 48 ≤ byte && byte ≤ 57

def isAsciiAlphanumeric (byte : UInt8) : Bool := isAsciiAlphabetic byte || isAsciiDigit byte

/-- `char::is_control`: general category Cc. -/
def isControl (c : Char) : Bool := c.toNat ≤ 0x1f || (0x7f ≤ c.toNat && c.toNat ≤ 0x9f)

/-- `char::is_whitespace`: the Unicode `White_Space` property. -/
def isWhitespace (c : Char) : Bool :=
  (0x09 ≤ c.toNat && c.toNat ≤ 0x0d) || (0x2000 ≤ c.toNat && c.toNat ≤ 0x200a) ||
    [0x20, 0x85, 0xa0, 0x1680, 0x2028, 0x2029, 0x202f, 0x205f, 0x3000].contains c.toNat

def validStableName (value : String) : Bool :=
  let bytes := utf8Bytes value
  !bytes.isEmpty && bytes.length ≤ 64 && isAsciiAlphabetic (bytes.headD 0) &&
    bytes.all fun byte => isAsciiAlphanumeric byte || [95, 45, 46].contains byte

def validSymbol (value : String) : Bool :=
  !value.isEmpty && value.utf8ByteSize ≤ 32 &&
    value.toList.all fun character => !isControl character && !isWhitespace character

def validateU32Limit (value : UInt32) (maximum : Nat) (name : String) :
    Except GraphSchemaError Unit :=
  failIf (value = 0 ∨ value.toNat > maximum) (.limitExceeded name)

def validateRationalMagnitude (value : ℚ) (maximumDigits : Nat) : Except GraphSchemaError Unit :=
  failIf ((numeratorText value).utf8ByteSize > maximumDigits ∨
    (denominatorText value).utf8ByteSize > maximumDigits) (.limitExceeded "rational magnitude")

/-- The limit fields in declaration order (`limit_values`). -/
def GraphLimits.values (limits : GraphLimits) : List Nat :=
  [limits.maximumDocumentBytes, limits.maximumRationalDigits, limits.maximumUnits,
    limits.maximumTypes, limits.maximumRecordFields, limits.maximumValueDepth,
    limits.maximumValueNodes, limits.maximumArrayItems, limits.maximumTextBytes,
    limits.maximumBlobBytes, limits.maximumStreamCapacity, limits.maximumClocks,
    limits.maximumNodes, limits.maximumWires, limits.maximumPortsPerNode,
    limits.maximumParametersPerNode, limits.maximumLabelBytes]

def GraphLimits.validate (limits : GraphLimits) : Except GraphSchemaError Unit :=
  failIf (0 ∈ limits.values) .zeroLimit

/-- The types a type shape refers to, in declaration order. -/
def referencedTypes : TypeKind → List GraphTypeId
  | .array element _ => [element]
  | .record fields => fields.map RecordField.valueType
  | .option value => [value]
  | .result ok error => [ok, error]
  | .event payload _ => [payload]
  | .stream sample _ _ => [sample]
  | _ => []

/-! ## Registry tables -/

/-- The three fields of a registry, before anything is known about them. -/
structure SchemaTables where
  limits : GraphLimits
  units : List UnitDefinition
  types : List TypeDefinition
  deriving DecidableEq

namespace SchemaTables

variable (tables : SchemaTables)

def unit (id : UnitId) : Option UnitDefinition :=
  Table.lookup UnitDefinition.id id tables.units

def valueType (id : GraphTypeId) : Option TypeDefinition :=
  Table.lookup TypeDefinition.id id tables.types

def requireType (id : GraphTypeId) : Except GraphSchemaError TypeDefinition :=
  (tables.valueType id).okOr (.unknownType id)

def validateUnit (unit : UnitDefinition) : Except GraphSchemaError Unit := do
  failIf (unit.scale = 0 ∨ unit.scale < 0) (.invalidUnitScale unit.id)
  validateRationalMagnitude unit.scale tables.limits.maximumRationalDigits

def validateUnits : Except GraphSchemaError Unit := do
  let _ ← Table.walk (.zeroIdentifier "unit") (.duplicateIdentifier "unit") UnitDefinition.id
    (Table.namedStep (.invalidName "unit symbol") (.duplicateName "unit symbol")
      UnitDefinition.symbol validSymbol tables.validateUnit) none [] tables.units

/-- The unit reference of a scalar type, and the quantum of a lattice type. -/
def validateScalar (id : GraphTypeId) (unit : UnitId) (quantum : Option ℚ) :
    Except GraphSchemaError Unit := do
  failIf (tables.unit unit).isNone (.unknownUnit unit)
  match quantum with
  | none => .ok ()
  | some quantum => do
    failIf (quantum = 0 ∨ quantum < 0) (.invalidLatticeQuantum id)
    validateRationalMagnitude quantum tables.limits.maximumRationalDigits

def validateRecordField (field : RecordField) : Except GraphSchemaError Unit := do
  let _ ← tables.requireType field.valueType

def validateTypeKind (definition : TypeDefinition) : Except GraphSchemaError Unit :=
  match definition.kind with
  | .boolean | .jobHandle => .ok ()
  | .exactRational unit | .measurementInterval unit =>
    tables.validateScalar definition.id unit none
  | .canonicalI64 unit quantum | .canonicalU64 unit quantum =>
    tables.validateScalar definition.id unit (some quantum)
  | .text maximumBytes =>
    validateU32Limit maximumBytes tables.limits.maximumTextBytes "text byte bound"
  | .bytes maximumBytes =>
    validateU32Limit maximumBytes tables.limits.maximumBlobBytes "blob byte bound"
  | .array element maximumItems => do
    let _ ← tables.requireType element
    validateU32Limit maximumItems tables.limits.maximumArrayItems "array item bound"
  | .record fields => do
    failIf (fields.length > tables.limits.maximumRecordFields)
      (.limitExceeded "record field count")
    let _ ← Table.walk (.zeroIdentifier "record field") (.duplicateIdentifier "record field")
      RecordField.id (Table.namedStep (.invalidName "record field")
        (.duplicateName "record field") RecordField.name validStableName
        tables.validateRecordField) none [] fields
  | .option value => do
    let _ ← tables.requireType value
  | .result ok error => do
    let _ ← tables.requireType ok
    let _ ← tables.requireType error
  | .event payload clock => do
    let _ ← tables.requireType payload
    failIf (clock = 0) (.zeroIdentifier "event clock")
  | .stream sample clock capacity => do
    let _ ← tables.requireType sample
    failIf (clock = 0) (.zeroIdentifier "stream clock")
    validateU32Limit capacity tables.limits.maximumStreamCapacity "stream capacity"
  | .resourceHandle resourceClass =>
    failIf (resourceClass = 0) (.zeroIdentifier "resource class")

/-- Visit states of the type walk: 0 is new, 1 on the current path, 2 finished. -/
abbrev VisitStates := GraphTypeId → UInt8

/-- Depth-first walk along type references. The first argument counts the nesting levels
that remain below `maximumValueDepth`. -/
def visitType : Nat → TypeDefinition → VisitStates → Except GraphSchemaError VisitStates
  | 0, definition, _ => .error (.typeDepthExceeded definition.id)
  | levels + 1, definition, states =>
    if states definition.id = 2 then .ok states
    else if states definition.id = 1 then .error (.recursiveType definition.id)
    else do
      let states ← (referencedTypes definition.kind).foldlM (fun states reference => do
        let target ← tables.requireType reference
        visitType levels target states) (Function.update states definition.id 1)
      return Function.update states definition.id 2

def validateTypes : Except GraphSchemaError Unit := do
  let _ ← Table.walk (.zeroIdentifier "type") (.duplicateIdentifier "type") TypeDefinition.id
    (Table.namedStep (.invalidName "type") (.duplicateName "type") TypeDefinition.name
      validStableName tables.validateTypeKind) none [] tables.types
  let _ ← tables.types.foldlM (fun states definition =>
    tables.visitType tables.limits.maximumValueDepth definition states) (fun _ => 0)

/-- Every check of `GraphSchema::try_new`. The two counts do not depend on the order of
the tables, so they may be made after sorting. -/
def validate : Except GraphSchemaError Unit := do
  tables.limits.validate
  failIf (tables.units.length > tables.limits.maximumUnits) (.limitExceeded "unit count")
  failIf (tables.types.length > tables.limits.maximumTypes) (.limitExceeded "type count")
  tables.validateUnits
  tables.validateTypes

end SchemaTables

/-- Record fields in identifier order; other shapes have no order of their own. -/
def TypeKind.sortFields : TypeKind → TypeKind
  | .record fields => .record (Table.sortByKey RecordField.id fields)
  | kind => kind

def TypeKind.FieldsSorted : TypeKind → Prop
  | .record fields => Table.Sorted RecordField.id fields
  | _ => True

instance (kind : TypeKind) : Decidable kind.FieldsSorted :=
  match kind with
  | .record fields => inferInstanceAs (Decidable (Table.Sorted RecordField.id fields))
  | .boolean | .exactRational _ | .measurementInterval _ | .canonicalI64 _ _
  | .canonicalU64 _ _ | .text _ | .bytes _ | .array _ _ | .option _ | .result _ _
  | .event _ _ | .stream _ _ _ | .resourceHandle _ | .jobHandle => isTrue trivial

/-- Sort units, types and record fields by identifier. -/
def SchemaTables.canonical (tables : SchemaTables) : SchemaTables where
  limits := tables.limits
  units := Table.sortByKey UnitDefinition.id tables.units
  types := (Table.sortByKey TypeDefinition.id tables.types).map fun definition =>
    { definition with kind := definition.kind.sortFields }

/-- Tables in canonical identifier order. -/
structure SchemaTables.Canonical (tables : SchemaTables) : Prop where
  units : Table.Sorted UnitDefinition.id tables.units
  types : Table.Sorted TypeDefinition.id tables.types
  fields : ∀ definition ∈ tables.types, definition.kind.FieldsSorted

instance (tables : SchemaTables) : Decidable tables.Canonical :=
  decidable_of_iff (Table.Sorted UnitDefinition.id tables.units ∧
    Table.Sorted TypeDefinition.id tables.types ∧
    ∀ definition ∈ tables.types, definition.kind.FieldsSorted)
    ⟨fun h => ⟨h.1, h.2.1, h.2.2⟩, fun h => ⟨h.units, h.types, h.fields⟩⟩

theorem TypeKind.sortFields_fieldsSorted (kind : TypeKind) : kind.sortFields.FieldsSorted := by
  cases kind <;> simp [sortFields, FieldsSorted, Table.sortByKey_sorted]

theorem TypeKind.sortFields_of_fieldsSorted {kind : TypeKind} (h : kind.FieldsSorted) :
    kind.sortFields = kind := by
  cases kind with
  | record fields => rw [sortFields, Table.sortByKey_of_sorted h]
  | _ => rfl

theorem SchemaTables.canonical_canonical (tables : SchemaTables) :
    tables.canonical.Canonical where
  units := Table.sortByKey_sorted
  types := List.pairwise_map.2 Table.sortByKey_sorted
  fields := by
    intro definition hmem
    obtain ⟨origin, _, rfl⟩ := List.mem_map.1 hmem
    exact TypeKind.sortFields_fieldsSorted origin.kind

theorem SchemaTables.Canonical.canonical_eq {tables : SchemaTables} (h : tables.Canonical) :
    tables.canonical = tables := by
  have htypes : (tables.types.map fun definition =>
      { definition with kind := definition.kind.sortFields }) = tables.types := by
    refine (List.map_congr_left fun definition hmem => ?_).trans (List.map_id _)
    rw [TypeKind.sortFields_of_fieldsSorted (h.fields definition hmem)]
    rfl
  rw [canonical, Table.sortByKey_of_sorted h.units, Table.sortByKey_of_sorted h.types, htypes]

/-! ## Validated registries -/

/-- Canonicalized unit/type registry shared by graph documents and executors. -/
structure GraphSchema extends SchemaTables where
  sorted : toSchemaTables.Canonical
  valid : toSchemaTables.validate = .ok ()

namespace GraphSchema

/-- Sort, validate, and retain one complete value schema. -/
def tryNew (limits : GraphLimits) (units : List UnitDefinition) (types : List TypeDefinition) :
    Except GraphSchemaError GraphSchema := do
  let tables : SchemaTables := ⟨limits, units, types⟩
  let ⟨valid⟩ ← tables.canonical.validate.attest
  return ⟨tables.canonical, tables.canonical_canonical, valid⟩

/-- A registry is determined by its tables. -/
theorem ext_tables {left right : GraphSchema} (h : left.toSchemaTables = right.toSchemaTables) :
    left = right := by
  cases left
  cases right
  cases h
  rfl

/-- Rebuilding a registry from its own tables returns it. -/
theorem tryNew_self (schema : GraphSchema) :
    tryNew schema.limits schema.units schema.types = .ok schema := by
  have hcanonical : SchemaTables.canonical ⟨schema.limits, schema.units, schema.types⟩ =
      schema.toSchemaTables := schema.sorted.canonical_eq
  have hvalid : (SchemaTables.canonical
      ⟨schema.limits, schema.units, schema.types⟩).validate = .ok () := by
    rw [hcanonical]
    exact schema.valid
  simp only [tryNew, Except.attest_of_ok hvalid]
  exact congrArg Except.ok (ext_tables hcanonical)

end GraphSchema

/-! ## Literal validation -/

section Values

variable (tables : SchemaTables)

/-- The rejection of a literal whose shape is not the registered one. -/
def mismatch (valueType : GraphTypeId) (kind : TypeKind) (value : GraphValue) :
    GraphSchemaError :=
  match kind with
  | .event _ _ | .stream _ _ _ => .runtimeOnlyType valueType
  | _ => .typeMismatch valueType value.kind

/-- Count one value node and look up its registered shape. -/
def enterValue (valueType : GraphTypeId) (depth nodes : Nat) :
    Except GraphSchemaError TypeKind := do
  failIf (depth > tables.limits.maximumValueDepth) .valueDepthExceeded
  failIf (nodes + 1 > tables.limits.maximumValueNodes) .valueNodeLimitExceeded
  let definition ← tables.requireType valueType
  return definition.kind

/-- The checks of `validate_value_inner` on literals with nothing below them. -/
def validateLeaf (valueType : GraphTypeId) (kind : TypeKind) (value : GraphValue) :
    Except GraphSchemaError Unit :=
  match kind, value with
  | .boolean, .boolean _ => .ok ()
  | .canonicalI64 _ _, .canonicalI64 _ => .ok ()
  | .canonicalU64 _ _, .canonicalU64 _ => .ok ()
  | .exactRational _, .exactRational value =>
    validateRationalMagnitude value tables.limits.maximumRationalDigits
  | .measurementInterval _, .measurementInterval lower upper => do
    failIf (lower > upper) .reversedMeasurement
    validateRationalMagnitude lower tables.limits.maximumRationalDigits
    validateRationalMagnitude upper tables.limits.maximumRationalDigits
  | .text maximumBytes, .text text =>
    failIf (text.utf8ByteSize > maximumBytes.toNat ∨
      text.utf8ByteSize > tables.limits.maximumTextBytes) (.limitExceeded "text literal")
  | .bytes maximumBytes, .bytes bytes =>
    failIf (bytes.length > maximumBytes.toNat ∨
      bytes.length > tables.limits.maximumBlobBytes) (.limitExceeded "byte literal")
  | .option _, .optionNone => .ok ()
  | .resourceHandle resourceClass, .resourceHandle handle =>
    failIf (handle.resourceClass ≠ resourceClass ∨ handle.deviceId.isZero ∨
      handle.boardPackageDigest.isZero) .invalidHandle
  | .jobHandle, .jobHandle handle =>
    failIf (handle.deviceId.isZero ∨ handle.globalJobDigest.isZero ∨
      handle.partitionDigest.isZero) .invalidHandle
  | kind, value => .error (mismatch valueType kind value)

mutual

/-- Check one literal node and everything below it. `nodes` is the number of value nodes
counted before it; the result is the number counted after it. The match on the literal
stands outside the match on its type, since the recursion is on the literal. -/
def validateValueInner (valueType : GraphTypeId) (value : GraphValue) (depth nodes : Nat) :
    Except GraphSchemaError Nat :=
  match value with
  | .array items => do
    match ← enterValue tables valueType depth nodes with
    | .array element maximumItems => do
      failIf (items.length > maximumItems.toNat ∨
        items.length > tables.limits.maximumArrayItems) (.limitExceeded "array literal")
      validateItems element items (depth + 1) (nodes + 1)
    | kind => .error (mismatch valueType kind (.array items))
  | .record values => do
    match ← enterValue tables valueType depth nodes with
    | .record fields => do
      failIf (fields.length ≠ values.length) .recordShape
      validateFields fields values (depth + 1) (nodes + 1)
    | kind => .error (mismatch valueType kind (.record values))
  | .optionSome value => do
    match ← enterValue tables valueType depth nodes with
    | .option inner => validateValueInner inner value (depth + 1) (nodes + 1)
    | kind => .error (mismatch valueType kind (.optionSome value))
  | .resultOk value => do
    match ← enterValue tables valueType depth nodes with
    | .result ok _ => validateValueInner ok value (depth + 1) (nodes + 1)
    | kind => .error (mismatch valueType kind (.resultOk value))
  | .resultError value => do
    match ← enterValue tables valueType depth nodes with
    | .result _ error => validateValueInner error value (depth + 1) (nodes + 1)
    | kind => .error (mismatch valueType kind (.resultError value))
  | value => do
    let kind ← enterValue tables valueType depth nodes
    validateLeaf tables valueType kind value
    return nodes + 1
termination_by structural value

/-- The items of an array, in order. -/
def validateItems (element : GraphTypeId) (items : List GraphValue) (depth nodes : Nat) :
    Except GraphSchemaError Nat :=
  match items with
  | [] => .ok nodes
  | item :: items => do
    let nodes ← validateValueInner element item depth nodes
    validateItems element items depth nodes
termination_by structural items

/-- Registered fields and literal fields, pairwise in canonical order. -/
def validateFields (fields : List RecordField) (values : List (RecordFieldId × GraphValue))
    (depth nodes : Nat) : Except GraphSchemaError Nat :=
  match values with
  | [] => .ok nodes
  | (id, value) :: values =>
    match fields with
    | [] => .ok nodes
    | field :: fields => do
      failIf (field.id ≠ id) .recordShape
      let nodes ← validateValueInner field.valueType value depth nodes
      validateFields fields values depth nodes
termination_by structural values

end

/-- Validate a raw root type/value pair without retaining it. -/
def validateValue (valueType : GraphTypeId) (value : GraphValue) :
    Except GraphSchemaError Unit := do
  let _ ← validateValueInner tables valueType value 1 0

end Values

/-- One root value paired with its registered type. -/
structure TypedGraphValue where
  valueType : GraphTypeId
  value : GraphValue

/-- Revalidate an already retained typed value against this exact schema. -/
def SchemaTables.validateTypedValue (tables : SchemaTables) (typed : TypedGraphValue) :
    Except GraphSchemaError Unit :=
  validateValue tables typed.valueType typed.value

/-- Construct and validate one complete bounded literal tree. -/
def TypedGraphValue.tryNew (schema : GraphSchema) (valueType : GraphTypeId) (value : GraphValue) :
    Except GraphSchemaError TypedGraphValue := do
  validateValue schema.toSchemaTables valueType value
  return ⟨valueType, value⟩

end Alumina.Graph
