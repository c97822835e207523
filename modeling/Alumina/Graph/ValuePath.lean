import Alumina.ForStd.BinarySearch
import Alumina.Graph.Schema

/-!
# Paths into a typed value

A path addresses one value inside a typed literal, by array positions, record fields and active
branches. Resolving a path and replacing the value that it addresses are two separate recursions.
-/

namespace Alumina.Graph

open Except (failIf)

/-- One step into a composite value. -/
inductive GraphValuePathSegment where
  | arrayIndex (index : UInt32)
  | recordField (field : RecordFieldId)
  | optionSome | resultOk | resultError
  deriving DecidableEq, Repr

/-- Rejection while resolving or replacing a value. -/
inductive GraphValuePathError where
  | pathDepthExceeded (segments maximum : Nat)
  | schema (error : GraphSchemaError)
  | invalidSegment (depth : Nat) (segment : GraphValuePathSegment) (valueType : GraphTypeId)
      (received : GraphValueKind)
  | arrayIndexOutOfBounds (depth : Nat) (index : UInt32) (items : Nat)
  | unknownRecordField (depth : Nat) (field : RecordFieldId)
  | inactiveBranch (depth : Nat) (segment : GraphValuePathSegment)
  deriving DecidableEq

def validateGraphValuePathDepth (tables : SchemaTables) (path : List GraphValuePathSegment) :
    Except GraphValuePathError Unit :=
  let maximum := tables.limits.maximumValueDepth - 1
  failIf (maximum < path.length) (.pathDepthExceeded path.length maximum)

/-- Where a field is registered, with its registration. -/
def fieldAt (fields : List RecordField) (field : RecordFieldId) : Option (Nat × RecordField) := do
  let index ← Table.binarySearch RecordField.id field fields
  let registered ← fields[index]?
  pure (index, registered)

def resolveGraphValuePath (tables : SchemaTables) (valueType : GraphTypeId) (value : GraphValue)
    (path : List GraphValuePathSegment) (depth : Nat) :
    Except GraphValuePathError (GraphTypeId × GraphValue) :=
  match path with
  | [] => .ok (valueType, value)
  | segment :: remaining => do
    let definition ← (tables.valueType valueType).okOr (.schema (.unknownType valueType))
    match definition.kind, value, segment with
    | .array element _, .array items, .arrayIndex index => do
      let item ← (items[index.toNat]?).okOr (.arrayIndexOutOfBounds depth index items.length)
      resolveGraphValuePath tables element item remaining (depth + 1)
    | .record fields, .record values, .recordField field => do
      let (index, registered) ← (fieldAt fields field).okOr (.unknownRecordField depth field)
      let (_, retained) ← ((values[index]?).filter (·.1 = field)).okOr (.schema .recordShape)
      resolveGraphValuePath tables registered.valueType retained remaining (depth + 1)
    | .option inner, .optionSome value, .optionSome =>
      resolveGraphValuePath tables inner value remaining (depth + 1)
    | .option _, .optionNone, .optionSome | .result _ _, .resultError _, .resultOk
    | .result _ _, .resultOk _, .resultError => .error (.inactiveBranch depth segment)
    | .result ok _, .resultOk value, .resultOk =>
      resolveGraphValuePath tables ok value remaining (depth + 1)
    | .result _ error, .resultError value, .resultError =>
      resolveGraphValuePath tables error value remaining (depth + 1)
    | _, _, _ => .error (.invalidSegment depth segment valueType value.kind)

/-- The value with the one at the path replaced (`replace_graph_value_at_path`). -/
def replaceGraphValueAtPath (tables : SchemaTables) (valueType : GraphTypeId) (value : GraphValue)
    (path : List GraphValuePathSegment) (depth : Nat) (replacement : GraphValue) :
    Except GraphValuePathError GraphValue :=
  match path with
  | [] => .ok replacement
  | segment :: remaining => do
    let definition ← (tables.valueType valueType).okOr (.schema (.unknownType valueType))
    let invalid := GraphValuePathError.invalidSegment depth segment valueType value.kind
    match definition.kind, segment with
    | .array element _, .arrayIndex index =>
      match value with
      | .array items => do
        let item ← (items[index.toNat]?).okOr (.arrayIndexOutOfBounds depth index items.length)
        let item ← replaceGraphValueAtPath tables element item remaining (depth + 1) replacement
        pure (.array (items.set index.toNat item))
      | _ => .error invalid
    | .record fields, .recordField field =>
      match value with
      | .record values => do
        let (index, registered) ← (fieldAt fields field).okOr (.unknownRecordField depth field)
        let (_, retained) ← ((values[index]?).filter (·.1 = field)).okOr (.schema .recordShape)
        let retained ← replaceGraphValueAtPath tables registered.valueType retained remaining
          (depth + 1) replacement
        pure (.record (values.set index (field, retained)))
      | _ => .error invalid
    | .option inner, .optionSome =>
      match value with
      | .optionSome value => do
        let value ← replaceGraphValueAtPath tables inner value remaining (depth + 1) replacement
        pure (.optionSome value)
      | .optionNone => .error (.inactiveBranch depth segment)
      | _ => .error invalid
    | .result ok _, .resultOk =>
      match value with
      | .resultOk value => do
        let value ← replaceGraphValueAtPath tables ok value remaining (depth + 1) replacement
        pure (.resultOk value)
      | .resultError _ => .error (.inactiveBranch depth segment)
      | _ => .error invalid
    | .result _ error, .resultError =>
      match value with
      | .resultError value => do
        let value ← replaceGraphValueAtPath tables error value remaining (depth + 1) replacement
        pure (.resultError value)
      | .resultOk _ => .error (.inactiveBranch depth segment)
      | _ => .error invalid
    | _, _ => .error invalid

namespace TypedGraphValue

/-- Resolve one exact leaf through a bounded value path. -/
def valueAtPath (typed : TypedGraphValue) (schema : GraphSchema)
    (path : List GraphValuePathSegment) : Except GraphValuePathError (GraphTypeId × GraphValue) := do
  (schema.validateTypedValue typed).mapError .schema
  validateGraphValuePathDepth schema.toSchemaTables path
  resolveGraphValuePath schema.toSchemaTables typed.valueType typed.value path 0

/-- A complete typed value with one exact leaf replaced. -/
def replacingValueAtPath (typed : TypedGraphValue) (schema : GraphSchema)
    (path : List GraphValuePathSegment) (replacement : GraphValue) :
    Except GraphValuePathError TypedGraphValue := do
  let (targetType, _) ← typed.valueAtPath schema path
  (validateValue schema.toSchemaTables targetType replacement).mapError .schema
  let candidate ← replaceGraphValueAtPath schema.toSchemaTables typed.valueType typed.value path 0
    replacement
  (TypedGraphValue.tryNew schema typed.valueType candidate).mapError .schema

end TypedGraphValue

end Alumina.Graph
