import Mathlib
import Alumina.ForStd.Codec
import Alumina.ForStd.Except
import Alumina.Graph.Document

/-!
# The canonical graph encoding

Encoder and decoder of the `ALGR` format. Integers are fixed-width little-endian, exact
rationals are a sign byte and two decimal magnitudes, collections carry a 32-bit count.
An encoder returns the bytes it appends; a decoder consumes them from the front of the
input under its own bounds. `replayGraphDocument` accepts bytes only when re-encoding the
decoded document gives the same bytes.

SHA-256 comes from a library outside this code and is the parameter `Sha256`.
-/

namespace Alumina.Graph

open Codec
open Except (failIf)

/-- The external content digest. -/
class Sha256 where
  sha256 : List UInt8 → Digest

/-- `b"ALGR"` -/
def graphDocumentMagic : List UInt8 := [65, 76, 71, 82]

def graphDocumentVersion : UInt16 := 1

def graphDocumentFlags : UInt16 := 0

def limitFieldCount : Nat := 17

def stableNameBytes : Nat := 64

def unitSymbolBytes : Nat := 32

/-- Rejection at the canonical graph encoding/replay boundary. -/
inductive GraphWireError where
  | invalidMagic
  | unsupportedVersion (version : UInt16)
  | unsupportedFlags (flags : UInt16)
  | truncated
  | limitExceeded (name : String)
  | integerOverflow (name : String)
  | invalidUtf8 (name : String)
  | invalidTag (name : String) (tag : UInt8)
  | invalidRational
  | invalidValue
  | trailingBytes
  | nonCanonical
  | schema (error : GraphSchemaError)
  | document (error : GraphDocumentError)
  deriving DecidableEq, Repr

/-- An encoder result: the bytes it appends. -/
abbrev Encoded := Except GraphWireError (List UInt8)

abbrev WireDecoder := Decoder GraphWireError

/-! ## Encoder primitives -/

def encodeU16 (value : UInt16) : List UInt8 := leBytes 2 value.toNat

def encodeU32 (value : UInt32) : List UInt8 := leBytes 4 value.toNat

def encodeU64 (value : UInt64) : List UInt8 := leBytes 8 value.toNat

def encodeI64 (value : Int64) : List UInt8 := encodeU64 value.toUInt64

def encodeId {κ : IdKind} (id : StableId κ) : List UInt8 := encodeU32 id.get

def encodeCount (value : Nat) (name : String) : Encoded := do
  failIf (value ≥ 2 ^ 32) (.integerOverflow name)
  return leBytes 4 value

def encodeText (value : String) : Encoded := do
  let length ← encodeCount value.utf8ByteSize "string byte length"
  return length ++ utf8Bytes value

def rationalSign (value : ℚ) : UInt8 :=
  if value = 0 then 0 else if value < 0 then 2 else 1

def encodeRational (value : ℚ) (maximumDigits : Nat) : Encoded := do
  failIf ((numeratorText value).utf8ByteSize > maximumDigits ∨
    (denominatorText value).utf8ByteSize > maximumDigits) (.limitExceeded "rational magnitude")
  let numerator ← encodeText (numeratorText value)
  let denominator ← encodeText (denominatorText value)
  return rationalSign value :: numerator ++ denominator

/-! ## Decoder primitives -/

/-- Read a fixed-size byte array (`Decoder::array`). -/
def decodeArray (n : Nat) : WireDecoder (FixedArray UInt8 n) := do
  let bytes ← take .truncated n
  if h : bytes.length = n then return ⟨bytes, h⟩ else liftM (Except.error GraphWireError.truncated)

def decodeU8 : WireDecoder UInt8 := do
  let bytes ← decodeArray 1
  return bytes.val.headD 0

def decodeU16 : WireDecoder UInt16 := do
  let bytes ← decodeArray 2
  return .ofNat (ofLeBytes bytes.val)

def decodeU32 : WireDecoder UInt32 := do
  let bytes ← decodeArray 4
  return .ofNat (ofLeBytes bytes.val)

def decodeU64 : WireDecoder UInt64 := do
  let bytes ← decodeArray 8
  return .ofNat (ofLeBytes bytes.val)

def decodeI64 : WireDecoder Int64 := do
  let value ← decodeU64
  return value.toInt64

def decodeId (κ : IdKind) : WireDecoder (StableId κ) := do
  let value ← decodeU32
  return ⟨value⟩

def decodeCount (maximum : Nat) (name : String) : WireDecoder Nat := do
  let value ← decodeU32
  failIf (value.toNat > maximum) (GraphWireError.limitExceeded name)
  return value.toNat

def boundedBytes (maximum : Nat) (name : String) : WireDecoder (List UInt8) := do
  let length ← decodeCount maximum name
  take .truncated length

/-- `str::from_utf8` -/
def fromUtf8 (bytes : List UInt8) : Option String := String.fromUTF8? ⟨bytes.toArray⟩

def decodeText (maximum : Nat) (name : String) : WireDecoder String := do
  let bytes ← boundedBytes maximum name
  (fromUtf8 bytes).okOr (GraphWireError.invalidUtf8 name)

def canonicalDigits (value : String) : Bool :=
  let bytes := utf8Bytes value
  !bytes.isEmpty && bytes.all isAsciiDigit && (bytes.length = 1 || bytes.headD 0 != 48)

/-- The value of a sign byte and two decimal magnitudes. -/
def rationalOfParts [RationalParser] (sign : UInt8) (numerator denominator : String) :
    Except GraphWireError ℚ := do
  failIf (!canonicalDigits numerator ∨ !canonicalDigits denominator ∨ denominator = "0")
    .invalidRational
  let numeratorIsZero := numerator = "0"
  failIf (sign > 2 ∨ (sign = 0 ∧ ¬ numeratorIsZero) ∨ (sign ≠ 0 ∧ numeratorIsZero) ∨
    (sign = 2 ∧ numeratorIsZero)) .invalidRational
  let source := (if sign = 2 then "-" else "") ++ numerator ++ "/" ++ denominator
  let value ← (RationalParser.parse source).okOr .invalidRational
  failIf (numeratorText value ≠ numerator ∨ denominatorText value ≠ denominator ∨
    ¬ (value = 0 ↔ sign = 0) ∨ ¬ (value < 0 ↔ sign = 2)) .invalidRational
  return value

def decodeRational [RationalParser] (maximumDigits : Nat) : WireDecoder ℚ := do
  let sign ← decodeU8
  let numerator ← decodeText maximumDigits "rational numerator"
  let denominator ← decodeText maximumDigits "rational denominator"
  rationalOfParts sign numerator denominator

/-! ## Limits -/

def encodeLimits (limits : GraphLimits) : Encoded :=
  encodeAll (fun value => do
    failIf (value ≥ 2 ^ 64) (.integerOverflow "limit value")
    return leBytes 8 value) limits.values

/-- Limits from their seventeen values in declaration order. -/
def GraphLimits.ofValues (values : List Nat) : GraphLimits where
  maximumDocumentBytes := values.getD 0 0
  maximumRationalDigits := values.getD 1 0
  maximumUnits := values.getD 2 0
  maximumTypes := values.getD 3 0
  maximumRecordFields := values.getD 4 0
  maximumValueDepth := values.getD 5 0
  maximumValueNodes := values.getD 6 0
  maximumArrayItems := values.getD 7 0
  maximumTextBytes := values.getD 8 0
  maximumBlobBytes := values.getD 9 0
  maximumStreamCapacity := values.getD 10 0
  maximumClocks := values.getD 11 0
  maximumNodes := values.getD 12 0
  maximumWires := values.getD 13 0
  maximumPortsPerNode := values.getD 14 0
  maximumParametersPerNode := values.getD 15 0
  maximumLabelBytes := values.getD 16 0

def decodeLimits : WireDecoder GraphLimits := do
  let values ← replicate limitFieldCount decodeU64
  return .ofValues (values.map UInt64.toNat)

def limitsWithin (received admission : GraphLimits) : Bool :=
  (received.values.zip admission.values).all fun (received, admitted) => received ≤ admitted

/-! ## Units and types -/

def encodeUnit (limits : GraphLimits) (unit : UnitDefinition) : Encoded := do
  let symbol ← encodeText unit.symbol
  let scale ← encodeRational unit.scale limits.maximumRationalDigits
  return encodeId unit.id ++ symbol ++ unit.dimensions.val.map Int8.toUInt8 ++ scale

def decodeDimensions : WireDecoder BaseDimensions := do
  let bytes ← decodeArray 7
  return ⟨bytes.val.map UInt8.toInt8, by rw [List.length_map, bytes.property]⟩

def decodeUnit [RationalParser] (limits : GraphLimits) : WireDecoder UnitDefinition := do
  let id ← decodeId .unit
  let symbol ← decodeText unitSymbolBytes "unit symbol"
  let dimensions ← decodeDimensions
  let scale ← decodeRational limits.maximumRationalDigits
  return ⟨id, symbol, dimensions, scale⟩

def encodeRecordField (field : RecordField) : Encoded := do
  let name ← encodeText field.name
  return encodeId field.id ++ name ++ encodeId field.valueType

def decodeRecordField : WireDecoder RecordField := do
  let id ← decodeId .recordField
  let name ← decodeText stableNameBytes "record field name"
  let valueType ← decodeId .graphType
  return ⟨id, name, valueType⟩

def encodeTypeKind (limits : GraphLimits) (kind : TypeKind) : Encoded :=
  match kind with
  | .boolean => return [0]
  | .exactRational unit => return 1 :: encodeId unit
  | .measurementInterval unit => return 2 :: encodeId unit
  | .canonicalI64 unit quantum => do
    let quantum ← encodeRational quantum limits.maximumRationalDigits
    return 3 :: encodeId unit ++ quantum
  | .canonicalU64 unit quantum => do
    let quantum ← encodeRational quantum limits.maximumRationalDigits
    return 4 :: encodeId unit ++ quantum
  | .text maximumBytes => return 5 :: encodeU32 maximumBytes
  | .bytes maximumBytes => return 6 :: encodeU32 maximumBytes
  | .array element maximumItems => return 7 :: encodeId element ++ encodeU32 maximumItems
  | .record fields => do
    let count ← encodeCount fields.length "record field count"
    let fields ← encodeAll encodeRecordField fields
    return 8 :: count ++ fields
  | .option value => return 9 :: encodeId value
  | .result ok error => return 10 :: encodeId ok ++ encodeId error
  | .event payload clock => return 11 :: encodeId payload ++ encodeId clock
  | .stream sample clock capacity =>
    return 12 :: encodeId sample ++ encodeId clock ++ encodeU32 capacity
  | .resourceHandle resourceClass => return 13 :: encodeId resourceClass
  | .jobHandle => return [14]

def decodeTypeKind [RationalParser] (limits : GraphLimits) : WireDecoder TypeKind := do
  match ← decodeU8 with
  | 0 => return .boolean
  | 1 => return .exactRational (← decodeId .unit)
  | 2 => return .measurementInterval (← decodeId .unit)
  | 3 => return .canonicalI64 (← decodeId .unit) (← decodeRational limits.maximumRationalDigits)
  | 4 => return .canonicalU64 (← decodeId .unit) (← decodeRational limits.maximumRationalDigits)
  | 5 => return .text (← decodeU32)
  | 6 => return .bytes (← decodeU32)
  | 7 => return .array (← decodeId .graphType) (← decodeU32)
  | 8 => do
    let count ← decodeCount limits.maximumRecordFields "record field count"
    return .record (← replicate count decodeRecordField)
  | 9 => return .option (← decodeId .graphType)
  | 10 => return .result (← decodeId .graphType) (← decodeId .graphType)
  | 11 => return .event (← decodeId .graphType) (← decodeId .graphClock)
  | 12 => return .stream (← decodeId .graphType) (← decodeId .graphClock) (← decodeU32)
  | 13 => return .resourceHandle (← decodeId .resourceClass)
  | 14 => return .jobHandle
  | tag => liftM (Except.error (GraphWireError.invalidTag "type" tag))

def encodeType (limits : GraphLimits) (definition : TypeDefinition) : Encoded := do
  let name ← encodeText definition.name
  let kind ← encodeTypeKind limits definition.kind
  return encodeId definition.id ++ name ++ kind

def decodeType [RationalParser] (limits : GraphLimits) : WireDecoder TypeDefinition := do
  let id ← decodeId .graphType
  let name ← decodeText stableNameBytes "type name"
  let kind ← decodeTypeKind limits
  return ⟨id, name, kind⟩

def encodeSchema (schema : SchemaTables) : Encoded := do
  let unitCount ← encodeCount schema.units.length "unit count"
  let units ← encodeAll (encodeUnit schema.limits) schema.units
  let typeCount ← encodeCount schema.types.length "type count"
  let types ← encodeAll (encodeType schema.limits) schema.types
  return unitCount ++ units ++ typeCount ++ types

def decodeSchema [RationalParser] (limits : GraphLimits) : WireDecoder GraphSchema := do
  let unitCount ← decodeCount limits.maximumUnits "unit count"
  let units ← replicate unitCount (decodeUnit limits)
  let typeCount ← decodeCount limits.maximumTypes "type count"
  let types ← replicate typeCount (decodeType limits)
  (GraphSchema.tryNew limits units types).mapError GraphWireError.schema

/-! ## Values -/

section Values

variable (schema : SchemaTables)

/-- The registered shape of a type, as the codec looks it up. -/
def wireKind (valueType : GraphTypeId) : Except GraphWireError TypeKind := do
  let definition ← (schema.requireType valueType).mapError .schema
  return definition.kind

/-- `encode_value` on literals with nothing below them. -/
def encodeLeaf (kind : TypeKind) (value : GraphValue) : Encoded :=
  match kind, value with
  | .boolean, .boolean value => return [value.toUInt8]
  | .exactRational _, .exactRational value =>
    encodeRational value schema.limits.maximumRationalDigits
  | .measurementInterval _, .measurementInterval lower upper => do
    let lower ← encodeRational lower schema.limits.maximumRationalDigits
    let upper ← encodeRational upper schema.limits.maximumRationalDigits
    return lower ++ upper
  | .canonicalI64 _ _, .canonicalI64 value => return encodeI64 value
  | .canonicalU64 _ _, .canonicalU64 value => return encodeU64 value
  | .text _, .text value => encodeText value
  | .bytes _, .bytes value => do
    let count ← encodeCount value.length "byte literal length"
    return count ++ value
  | .option _, .optionNone => return [0]
  | .resourceHandle _, .resourceHandle handle =>
    return handle.deviceId.val ++ handle.boardPackageDigest.val ++
      encodeId handle.resourceClass ++ encodeU32 handle.resourceSelector
  | .jobHandle, .jobHandle handle =>
    return handle.deviceId.val ++ handle.globalJobDigest.val ++ handle.partitionDigest.val
  | _, _ => .error .invalidValue

mutual

/-- Encode one literal under its registered type. -/
def encodeValue (valueType : GraphTypeId) (value : GraphValue) : Encoded :=
  match value with
  | .array items => do
    match ← wireKind schema valueType with
    | .array element _ => do
      let count ← encodeCount items.length "array literal count"
      let items ← encodeItems element items
      return count ++ items
    | _ => .error .invalidValue
  | .record values => do
    match ← wireKind schema valueType with
    | .record fields => do
      let count ← encodeCount values.length "record literal count"
      let values ← encodeFields fields values
      return count ++ values
    | _ => .error .invalidValue
  | .optionSome value => do
    match ← wireKind schema valueType with
    | .option inner => return 1 :: (← encodeValue inner value)
    | _ => .error .invalidValue
  | .resultOk value => do
    match ← wireKind schema valueType with
    | .result ok _ => return 0 :: (← encodeValue ok value)
    | _ => .error .invalidValue
  | .resultError value => do
    match ← wireKind schema valueType with
    | .result _ error => return 1 :: (← encodeValue error value)
    | _ => .error .invalidValue
  | value => do
    let kind ← wireKind schema valueType
    encodeLeaf schema kind value
termination_by structural value

def encodeItems (element : GraphTypeId) (items : List GraphValue) : Encoded :=
  match items with
  | [] => .ok []
  | item :: items => do
    let first ← encodeValue element item
    let rest ← encodeItems element items
    return first ++ rest
termination_by structural items

/-- Registered fields give the types, literal fields the identifiers. -/
def encodeFields (fields : List RecordField) (values : List (RecordFieldId × GraphValue)) :
    Encoded :=
  match values with
  | [] => .ok []
  | (id, value) :: values =>
    match fields with
    | [] => .ok []
    | field :: fields => do
      let first ← encodeValue field.valueType value
      let rest ← encodeFields fields values
      return encodeId id ++ first ++ rest
termination_by structural values

end

/-- The type-directed part of `decode_value`: read a literal of shape `kind`, with
`decodeChild` for the literals below it. -/
def decodeShape [RationalParser] (decodeChild : Nat → GraphTypeId → WireDecoder (GraphValue × Nat))
    (valueType : GraphTypeId) (nodes : Nat) (kind : TypeKind) : WireDecoder (GraphValue × Nat) :=
  match kind with
  | .boolean => do
    match ← decodeU8 with
    | 0 => return (.boolean false, nodes)
    | 1 => return (.boolean true, nodes)
    | tag => liftM (Except.error (GraphWireError.invalidTag "boolean" tag))
  | .exactRational _ => do
    let value ← decodeRational schema.limits.maximumRationalDigits
    return (.exactRational value, nodes)
  | .measurementInterval _ => do
    let lower ← decodeRational schema.limits.maximumRationalDigits
    let upper ← decodeRational schema.limits.maximumRationalDigits
    return (.measurementInterval lower upper, nodes)
  | .canonicalI64 _ _ => do
    let value ← decodeI64
    return (.canonicalI64 value, nodes)
  | .canonicalU64 _ _ => do
    let value ← decodeU64
    return (.canonicalU64 value, nodes)
  | .text maximumBytes => do
    let text ← decodeText (min maximumBytes.toNat schema.limits.maximumTextBytes) "text literal"
    return (.text text, nodes)
  | .bytes maximumBytes => do
    let bytes ← boundedBytes (min maximumBytes.toNat schema.limits.maximumBlobBytes)
      "byte literal length"
    return (.bytes bytes, nodes)
  | .array element maximumItems => do
    let count ← decodeCount (min maximumItems.toNat schema.limits.maximumArrayItems)
      "array literal count"
    let (items, nodes) ← traverse decodeChild nodes (List.replicate count element)
    return (.array items, nodes)
  | .record fields => do
    let count ← decodeCount schema.limits.maximumRecordFields "record literal count"
    failIf (count ≠ fields.length) (GraphWireError.schema .recordShape)
    let (values, nodes) ← traverse (fun nodes (field : RecordField) => do
      let id ← decodeId .recordField
      let (value, nodes) ← decodeChild nodes field.valueType
      return ((id, value), nodes)) nodes fields
    return (.record values, nodes)
  | .option inner => do
    match ← decodeU8 with
    | 0 => return (.optionNone, nodes)
    | 1 => do
      let (value, nodes) ← decodeChild nodes inner
      return (.optionSome value, nodes)
    | tag => liftM (Except.error (GraphWireError.invalidTag "option value" tag))
  | .result ok error => do
    match ← decodeU8 with
    | 0 => do
      let (value, nodes) ← decodeChild nodes ok
      return (.resultOk value, nodes)
    | 1 => do
      let (value, nodes) ← decodeChild nodes error
      return (.resultError value, nodes)
    | tag => liftM (Except.error (GraphWireError.invalidTag "result value" tag))
  | .resourceHandle _ => do
    let deviceId ← decodeArray 16
    let boardPackageDigest ← decodeArray 32
    let resourceClass ← decodeId .resourceClass
    let resourceSelector ← decodeU32
    return (.resourceHandle ⟨deviceId, boardPackageDigest, resourceClass, resourceSelector⟩, nodes)
  | .jobHandle => do
    let deviceId ← decodeArray 16
    let globalJobDigest ← decodeArray 32
    let partitionDigest ← decodeArray 32
    return (.jobHandle ⟨deviceId, globalJobDigest, partitionDigest⟩, nodes)
  | .event _ _ | .stream _ _ _ =>
    liftM (Except.error (GraphWireError.schema (.runtimeOnlyType valueType)))

/-- Decode one literal. The first argument counts the nesting levels that remain below
`maximumValueDepth`; `nodes` is the number of value nodes read before this one. -/
def decodeValue [RationalParser] : Nat → Nat → GraphTypeId → WireDecoder (GraphValue × Nat)
  | 0, _, _ => liftM (Except.error (GraphWireError.schema .valueDepthExceeded))
  | levels + 1, nodes, valueType => do
    failIf (nodes + 1 > schema.limits.maximumValueNodes)
      (GraphWireError.schema .valueNodeLimitExceeded)
    let kind ← wireKind schema valueType
    decodeShape schema (decodeValue levels) valueType (nodes + 1) kind

/-- Validate and encode one typed value (`encode_typed_value_bytes`). -/
def encodeTypedValue (typed : TypedGraphValue) : Encoded := do
  (schema.validateTypedValue typed).mapError .schema
  let value ← encodeValue schema typed.valueType typed.value
  return encodeId typed.valueType ++ value

end Values

def decodeTypedValue [RationalParser] (schema : GraphSchema) : WireDecoder TypedGraphValue := do
  let valueType ← decodeId .graphType
  let (value, _) ← decodeValue schema.toSchemaTables schema.limits.maximumValueDepth 0 valueType
  (TypedGraphValue.tryNew schema valueType value).mapError GraphWireError.schema

/-! ## Clocks, nodes and wires -/

def encodeClockKind (kind : ClockKind) : List UInt8 :=
  match kind with
  | .hostMonotonic ticksPerSecond => 0 :: encodeU64 ticksPerSecond
  | .deviceCycle deviceId ticksPerSecond => 1 :: deviceId.val ++ encodeU64 ticksPerSecond
  | .derived source numerator denominator =>
    2 :: encodeId source ++ encodeU32 numerator ++ encodeU32 denominator

def decodeClockKind : WireDecoder ClockKind := do
  match ← decodeU8 with
  | 0 => return .hostMonotonic (← decodeU64)
  | 1 => return .deviceCycle (← decodeArray 16) (← decodeU64)
  | 2 => return .derived (← decodeId .graphClock) (← decodeU32) (← decodeU32)
  | tag => liftM (Except.error (GraphWireError.invalidTag "clock" tag))

def encodeClock (clock : ClockDefinition) : Encoded := do
  let name ← encodeText clock.name
  return encodeId clock.id ++ name ++ encodeClockKind clock.kind

def decodeClock : WireDecoder ClockDefinition := do
  let id ← decodeId .graphClock
  let name ← decodeText stableNameBytes "clock name"
  let kind ← decodeClockKind
  return ⟨id, name, kind⟩

def encodePort (port : PortDefinition) : Encoded := do
  let name ← encodeText port.name
  return encodeId port.id ++ name ++ encodeId port.valueType

def decodePort : WireDecoder PortDefinition := do
  let id ← decodeId .graphPort
  let name ← decodeText stableNameBytes "port name"
  let valueType ← decodeId .graphType
  return ⟨id, name, valueType⟩

def encodePorts (ports : List PortDefinition) : Encoded := do
  let count ← encodeCount ports.length "port count"
  let ports ← encodeAll encodePort ports
  return count ++ ports

def decodePorts (maximum : Nat) : WireDecoder (List PortDefinition) := do
  let count ← decodeCount maximum "port count"
  replicate count decodePort

def encodeDomain (domain : ExecutionDomain) : List UInt8 :=
  match domain with
  | .hostExact => [0]
  | .service deviceId => 1 :: deviceId.val
  | .realtime deviceId => 2 :: deviceId.val

def decodeDomain : WireDecoder ExecutionDomain := do
  match ← decodeU8 with
  | 0 => return .hostExact
  | 1 => return .service (← decodeArray 16)
  | 2 => return .realtime (← decodeArray 16)
  | tag => liftM (Except.error (GraphWireError.invalidTag "execution domain" tag))

def encodeParameter (schema : SchemaTables) (parameter : NodeParameter) : Encoded := do
  let name ← encodeText parameter.name
  let value ← encodeTypedValue schema parameter.value
  return encodeU32 parameter.id ++ name ++ value

def decodeParameter [RationalParser] (schema : GraphSchema) : WireDecoder NodeParameter := do
  let id ← decodeU32
  let name ← decodeText stableNameBytes "parameter name"
  let value ← decodeTypedValue schema
  return ⟨id, name, value⟩

def encodeNode (schema : SchemaTables) (node : NodeDefinition) : Encoded := do
  let kindName ← encodeText node.kind.name
  let label ← encodeText node.label
  let inputs ← encodePorts node.inputs
  let outputs ← encodePorts node.outputs
  let parameterCount ← encodeCount node.parameters.length "parameter count"
  let parameters ← encodeAll (encodeParameter schema) node.parameters
  return encodeId node.id ++ kindName ++ encodeU16 node.kind.version ++ label ++
    encodeDomain node.domain ++ inputs ++ outputs ++ parameterCount ++ parameters

def decodeNode [RationalParser] (schema : GraphSchema) : WireDecoder NodeDefinition := do
  let limits := schema.limits
  let id ← decodeId .graphNode
  let kindName ← decodeText stableNameBytes "node kind"
  let kindVersion ← decodeU16
  let label ← decodeText limits.maximumLabelBytes "node label"
  let domain ← decodeDomain
  let inputs ← decodePorts limits.maximumPortsPerNode
  let outputs ← decodePorts limits.maximumPortsPerNode
  let parameterCount ← decodeCount limits.maximumParametersPerNode "node parameter count"
  let parameters ← replicate parameterCount (decodeParameter schema)
  return ⟨id, ⟨kindName, kindVersion⟩, label, domain, inputs, outputs, parameters⟩

def encodeEndpoint (endpoint : WireEndpoint) : List UInt8 :=
  encodeId endpoint.node ++ encodeId endpoint.port

def decodeEndpoint : WireDecoder WireEndpoint := do
  let node ← decodeId .graphNode
  let port ← decodeId .graphPort
  return ⟨node, port⟩

def encodeWire (wire : WireDefinition) : Encoded :=
  return encodeId wire.id ++ encodeEndpoint wire.source ++ encodeEndpoint wire.target

def decodeWire : WireDecoder WireDefinition := do
  let id ← decodeId .graphWire
  let source ← decodeEndpoint
  let target ← decodeEndpoint
  return ⟨id, source, target⟩

def encodeClocks (clocks : List ClockDefinition) : Encoded := do
  let count ← encodeCount clocks.length "clock count"
  let clocks ← encodeAll encodeClock clocks
  return count ++ clocks

def decodeClocks (limits : GraphLimits) : WireDecoder (List ClockDefinition) := do
  let count ← decodeCount limits.maximumClocks "clock count"
  replicate count decodeClock

def encodeNodes (schema : SchemaTables) (nodes : List NodeDefinition) : Encoded := do
  let count ← encodeCount nodes.length "node count"
  let nodes ← encodeAll (encodeNode schema) nodes
  return count ++ nodes

def decodeNodes [RationalParser] (schema : GraphSchema) : WireDecoder (List NodeDefinition) := do
  let count ← decodeCount schema.limits.maximumNodes "node count"
  replicate count (decodeNode schema)

def encodeWires (wires : List WireDefinition) : Encoded := do
  let count ← encodeCount wires.length "wire count"
  let wires ← encodeAll encodeWire wires
  return count ++ wires

def decodeWires (limits : GraphLimits) : WireDecoder (List WireDefinition) := do
  let count ← decodeCount limits.maximumWires "wire count"
  replicate count decodeWire

/-! ## Documents -/

/-- Canonical graph bytes paired with their SHA-256 content identity. -/
structure CanonicalGraphEncoding where
  bytes : List UInt8
  digest : Digest
  deriving DecidableEq

/-- Successfully replayed document and its verified canonical identity. -/
structure GraphReplay where
  document : GraphDocument
  encoding : CanonicalGraphEncoding

/-- Encode one already validated graph document and compute its content identity. -/
def encodeGraphDocument [Sha256] (document : GraphDocument) :
    Except GraphWireError CanonicalGraphEncoding := do
  let schema := document.schema.toSchemaTables
  let limits ← encodeLimits schema.limits
  let schemaBytes ← encodeSchema schema
  let clocks ← encodeClocks document.clocks
  let nodes ← encodeNodes schema document.nodes
  let wires ← encodeWires document.wires
  let bytes := graphDocumentMagic ++ encodeU16 graphDocumentVersion ++
    encodeU16 graphDocumentFlags ++ limits ++ encodeU64 document.revision ++ schemaBytes ++
    clocks ++ nodes ++ wires
  failIf (bytes.length > schema.limits.maximumDocumentBytes)
    (.limitExceeded "document byte length")
  return ⟨bytes, Sha256.sha256 bytes⟩

/-- Magic, version, flags and embedded limits, with the admission checks on them. -/
def decodeHeader (length : Nat) (admission : GraphLimits) : WireDecoder GraphLimits := do
  let magic ← take .truncated graphDocumentMagic.length
  failIf (magic ≠ graphDocumentMagic) GraphWireError.invalidMagic
  let version ← decodeU16
  failIf (version ≠ graphDocumentVersion) (GraphWireError.unsupportedVersion version)
  let flags ← decodeU16
  failIf (flags ≠ graphDocumentFlags) (GraphWireError.unsupportedFlags flags)
  let limits ← decodeLimits
  failIf (!limitsWithin limits admission)
    (GraphWireError.limitExceeded "embedded admission limit")
  limits.validate.mapError GraphWireError.schema
  failIf (length > limits.maximumDocumentBytes)
    (GraphWireError.limitExceeded "embedded document byte length")
  return limits

/-- The decoder of a complete document. -/
def decodeGraphDocument [RationalParser] (length : Nat) (admission : GraphLimits) :
    WireDecoder GraphDocument := do
  let limits ← decodeHeader length admission
  let revision ← decodeU64
  let schema ← decodeSchema limits
  let clocks ← decodeClocks limits
  let nodes ← decodeNodes schema
  let wires ← decodeWires limits
  failIf (!(← isEmpty)) GraphWireError.trailingBytes
  (GraphDocument.tryNew revision schema clocks nodes wires).mapError GraphWireError.document

/-- Decode, validate, canonically re-encode, and identify an untrusted graph. -/
def replayGraphDocument [RationalParser] [Sha256] (bytes : List UInt8)
    (admission : GraphLimits) : Except GraphWireError GraphReplay := do
  admission.validate.mapError .schema
  failIf (bytes.length > admission.maximumDocumentBytes)
    (.limitExceeded "admitted document byte length")
  let (document, _) ← decodeGraphDocument bytes.length admission bytes
  let encoding ← encodeGraphDocument document
  failIf (encoding.bytes ≠ bytes) .nonCanonical
  return ⟨document, encoding⟩

end Alumina.Graph
