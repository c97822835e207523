import Alumina.Graph.Document

/-!
# Canonical storage ceilings

`analyzeTypeStorage` computes, for every registered type, the largest number of bytes the
canonical value encoding can need. The recursion over type references keeps the shapes it
has finished in a memo table and the types on its current path in a visiting set. Byte
counts are `u64`: they are natural numbers here, and every addition and multiplication
checks the width.
-/

namespace Alumina.Graph

open Except (failIf)

def typeIdBytes : Nat := 4

def lengthBytes : Nat := 4

def variantTagBytes : Nat := 1

/-- Exact canonical storage class and maximum byte count for one registered type. -/
inductive GraphTypeStorageKind where
  | literal (maximumCanonicalBytes : Nat)
  | eventPayload (clock : GraphClockId) (maximumPayloadBytes : Nat)
  | streamSample (clock : GraphClockId) (maximumSampleBytes : Nat) (capacity : UInt32)
  deriving DecidableEq, Repr

/-- Checked storage ceiling for one stable graph type identity. -/
structure GraphTypeStorageBound where
  valueType : GraphTypeId
  kind : GraphTypeStorageKind
  deriving DecidableEq, Repr

/-- Complete typed-literal bytes, or `none` for runtime-only types. -/
def GraphTypeStorageBound.maximumLiteralBytes (bound : GraphTypeStorageBound) : Option Nat :=
  match bound.kind with
  | .literal maximumCanonicalBytes => some maximumCanonicalBytes
  | .eventPayload _ _ | .streamSample _ _ _ => none

/-- Failure while proving canonical type-storage ceilings. -/
inductive GraphStorageError where
  | unknownType (valueType : GraphTypeId)
  | recursiveType (valueType : GraphTypeId)
  | runtimeTypeNested (container runtimeType : GraphTypeId)
  | sizeOverflow (valueType : GraphTypeId)
  deriving DecidableEq, Repr

/-- The storage of a type without its root type identifier. -/
inductive StorageShape where
  | literalBody (bytes : Nat)
  | eventPayload (clock : GraphClockId) (payloadBody : Nat)
  | streamSample (clock : GraphClockId) (sampleBody : Nat) (capacity : UInt32)
  deriving DecidableEq, Repr

/-! ## Checked arithmetic -/

def checkedAdd (owner : GraphTypeId) (left right : Nat) : Except GraphStorageError Nat := do
  failIf (left + right ≥ 2 ^ 64) (.sizeOverflow owner)
  return left + right

def checkedMul (owner : GraphTypeId) (left right : Nat) : Except GraphStorageError Nat := do
  failIf (left * right ≥ 2 ^ 64) (.sizeOverflow owner)
  return left * right

theorem checkedAdd_eq_ok {owner : GraphTypeId} {left right sum : Nat}
    (h : checkedAdd owner left right = .ok sum) : sum = left + right := by
  simp only [checkedAdd, Except.bind_eq_ok, Except.exists_unit, Except.pure_eq_ok] at h
  exact h.2.symm

theorem checkedMul_eq_ok {owner : GraphTypeId} {left right product : Nat}
    (h : checkedMul owner left right = .ok product) : product = left * right := by
  simp only [checkedMul, Except.bind_eq_ok, Except.exists_unit, Except.pure_eq_ok] at h
  exact h.2.symm

/-! ## The recursion over type references -/

/-- Finished shapes, and the types on the current path. -/
structure StorageState where
  memo : GraphTypeId → Option StorageShape
  visiting : GraphTypeId → Bool

section Shapes

variable (schema : SchemaTables)

/-- A sign byte and two length-prefixed magnitudes. -/
def rationalBody (valueType : GraphTypeId) : Except GraphStorageError Nat := do
  failIf (schema.limits.maximumRationalDigits ≥ 2 ^ 64) (.sizeOverflow valueType)
  let oneMagnitude ← checkedAdd valueType lengthBytes schema.limits.maximumRationalDigits
  let magnitudes ← checkedMul valueType oneMagnitude 2
  checkedAdd valueType variantTagBytes magnitudes

/-- The storage of a referenced type, which must be a literal. -/
def requireLiteralBody
    (shape : GraphTypeId → StorageState → Except GraphStorageError (StorageShape × StorageState))
    (container referenced : GraphTypeId) (state : StorageState) :
    Except GraphStorageError (Nat × StorageState) := do
  let (found, state) ← shape referenced state
  match found with
  | .literalBody bytes => return (bytes, state)
  | .eventPayload _ _ | .streamSample _ _ _ => .error (.runtimeTypeNested container referenced)

/-- Field identifiers and bodies, added up in field order. -/
def recordBody
    (shape : GraphTypeId → StorageState → Except GraphStorageError (StorageShape × StorageState))
    (container : GraphTypeId) :
    List RecordField → Nat → StorageState → Except GraphStorageError (Nat × StorageState)
  | [], bytes, state => .ok (bytes, state)
  | field :: fields, bytes, state => do
    let (fieldBody, state) ← requireLiteralBody shape container field.valueType state
    let fieldBytes ← checkedAdd container 4 fieldBody
    let bytes ← checkedAdd container bytes fieldBytes
    recordBody shape container fields bytes state

/-- The shape of one type, with `shape` for the types it refers to. -/
def kindShape
    (shape : GraphTypeId → StorageState → Except GraphStorageError (StorageShape × StorageState))
    (valueType : GraphTypeId) (kind : TypeKind) (state : StorageState) :
    Except GraphStorageError (StorageShape × StorageState) :=
  match kind with
  | .boolean => return (.literalBody 1, state)
  | .exactRational _ => do
    let body ← rationalBody schema valueType
    return (.literalBody body, state)
  | .measurementInterval _ => do
    let body ← rationalBody schema valueType
    let both ← checkedMul valueType body 2
    return (.literalBody both, state)
  | .canonicalI64 _ _ | .canonicalU64 _ _ => return (.literalBody 8, state)
  | .text maximumBytes | .bytes maximumBytes => do
    let body ← checkedAdd valueType lengthBytes maximumBytes.toNat
    return (.literalBody body, state)
  | .array element maximumItems => do
    let (item, state) ← requireLiteralBody shape valueType element state
    let items ← checkedMul valueType item maximumItems.toNat
    let body ← checkedAdd valueType lengthBytes items
    return (.literalBody body, state)
  | .record fields => do
    let (bytes, state) ← recordBody shape valueType fields lengthBytes state
    return (.literalBody bytes, state)
  | .option value => do
    let (inner, state) ← requireLiteralBody shape valueType value state
    let body ← checkedAdd valueType variantTagBytes inner
    return (.literalBody body, state)
  | .result ok error => do
    let (okBody, state) ← requireLiteralBody shape valueType ok state
    let (errorBody, state) ← requireLiteralBody shape valueType error state
    let body ← checkedAdd valueType variantTagBytes (max okBody errorBody)
    return (.literalBody body, state)
  | .event payload clock => do
    let (body, state) ← requireLiteralBody shape valueType payload state
    return (.eventPayload clock body, state)
  | .stream sample clock capacity => do
    let (body, state) ← requireLiteralBody shape valueType sample state
    return (.streamSample clock body capacity, state)
  | .resourceHandle _ => return (.literalBody (16 + 32 + 4 + 4), state)
  | .jobHandle => return (.literalBody (16 + 32 + 32), state)

/-- `storage_shape`. The path of types being visited never repeats a registered type, so
the recursion is at most one level deeper than the type table; the first argument counts
the levels that remain. -/
def storageShape : Nat → GraphTypeId → StorageState →
    Except GraphStorageError (StorageShape × StorageState)
  | 0, valueType, _ => .error (.recursiveType valueType)
  | levels + 1, valueType, state =>
    match state.memo valueType with
    | some shape => .ok (shape, state)
    | none => do
      failIf (state.visiting valueType) (.recursiveType valueType)
      let state := { state with visiting := Function.update state.visiting valueType true }
      let definition ← (schema.valueType valueType).okOr (.unknownType valueType)
      let (shape, state) ← kindShape schema (storageShape levels) valueType definition.kind state
      return (shape, {
        memo := Function.update state.memo valueType (some shape)
        visiting := Function.update state.visiting valueType false })

/-- Add the root type identifier to a shape. -/
def storageKind (valueType : GraphTypeId) (shape : StorageShape) :
    Except GraphStorageError GraphTypeStorageKind :=
  match shape with
  | .literalBody body => do
    let bytes ← checkedAdd valueType typeIdBytes body
    return .literal bytes
  | .eventPayload clock payloadBody => do
    let bytes ← checkedAdd valueType typeIdBytes payloadBody
    return .eventPayload clock bytes
  | .streamSample clock sampleBody capacity => do
    let bytes ← checkedAdd valueType typeIdBytes sampleBody
    return .streamSample clock bytes capacity

/-- One bound for each type of a list, in order. -/
def storageBounds : List TypeDefinition → StorageState →
    Except GraphStorageError (List GraphTypeStorageBound)
  | [], _ => .ok []
  | definition :: definitions, state => do
    let (shape, state) ← storageShape schema (schema.types.length + 1) definition.id state
    let kind ← storageKind definition.id shape
    let bounds ← storageBounds definitions state
    return ⟨definition.id, kind⟩ :: bounds

/-- Storage ceilings of every registered type, in table order. -/
def analyzeTypeStorage : Except GraphStorageError (List GraphTypeStorageBound) :=
  storageBounds schema schema.types ⟨fun _ => none, fun _ => false⟩

end Shapes

/-- The bound reported for a type. -/
def storageBound (bounds : List GraphTypeStorageBound) (valueType : GraphTypeId) :
    Option GraphTypeStorageBound :=
  Table.lookup GraphTypeStorageBound.valueType valueType bounds

def literalStorageBytes (bounds : List GraphTypeStorageBound) (valueType : GraphTypeId) :
    Except GraphStorageError Nat := do
  let bound ← (storageBound bounds valueType).okOr (.unknownType valueType)
  bound.maximumLiteralBytes.okOr (.runtimeTypeNested valueType valueType)

end Alumina.Graph
