import Mathlib
import Alumina.ForStd.Except

/-!
# Graph identifiers, limits, types and literals

The data the graph layers share: stable identifiers, exact units, registered type
shapes, allocation limits and typed literals. Fixed-width integers of the source keep
their width here; a `usize` length or limit is a `Nat`.

Exact rationals are `ℚ`. Their decimal text is computed here, and the parser that
reads it back lives in a library outside this code, so it is the parameter
`RationalParser`, with the one property the wire format relies on.
-/

namespace Alumina.Graph

/-! ## Identifiers -/

/-- What a stable identifier names. -/
inductive IdKind where
  | unit | graphType | graphClock | recordField | resourceClass
  | graphNode | graphPort | graphWire
  | graphComponentInput | graphComponentOutput | graphFrontPanelItem
  deriving DecidableEq, Repr

/-- A stable 32-bit identifier. The kind keeps identifiers of two registries apart. -/
structure StableId (κ : IdKind) where
  get : UInt32
  deriving DecidableEq, Repr

namespace StableId

variable {κ : IdKind}

theorem toNat_get_injective : Function.Injective fun id : StableId κ => id.get.toNat := by
  intro a b h
  cases a
  cases b
  simpa [UInt32.toNat_inj] using h

instance : LawfulBEq (StableId κ) := inferInstance

/-- Identifiers are ordered by their integer. -/
instance : LinearOrder (StableId κ) := LinearOrder.lift' _ toNat_get_injective

/-- The identifier every registry rejects. -/
instance : Zero (StableId κ) := ⟨⟨0⟩⟩

end StableId

abbrev UnitId := StableId .unit
abbrev GraphTypeId := StableId .graphType
abbrev GraphClockId := StableId .graphClock
abbrev RecordFieldId := StableId .recordField
abbrev ResourceClassId := StableId .resourceClass
abbrev GraphNodeId := StableId .graphNode
abbrev GraphPortId := StableId .graphPort
abbrev GraphWireId := StableId .graphWire

/-- A `[T; n]` of the source. -/
abbrev FixedArray (α : Type) (n : Nat) := { items : List α // items.length = n }

/-- `[item; n]` -/
def FixedArray.replicate {α : Type} (n : Nat) (item : α) : FixedArray α n :=
  ⟨List.replicate n item, List.length_replicate⟩

abbrev DeviceId := FixedArray UInt8 16
abbrev Digest := FixedArray UInt8 32

/-- Whether every byte of an identity is zero (`device_id_is_zero`, `Digest::is_zero`). -/
def FixedArray.isZero {n : Nat} (bytes : FixedArray UInt8 n) : Bool :=
  bytes.val.all (· == 0)

/-! ## Units and types -/

/-- SI base-dimension exponents in metre, kilogram, second, ampere, kelvin, mole, and
candela order. -/
abbrev BaseDimensions := FixedArray Int8 7

def BaseDimensions.dimensionless : BaseDimensions := ⟨[0, 0, 0, 0, 0, 0, 0], rfl⟩

structure UnitDefinition where
  id : UnitId
  symbol : String
  dimensions : BaseDimensions
  scale : ℚ
  deriving DecidableEq

structure RecordField where
  id : RecordFieldId
  name : String
  valueType : GraphTypeId
  deriving DecidableEq

/-- Registered value shape. References are by stable type identifier. -/
inductive TypeKind where
  | boolean
  | exactRational (unit : UnitId)
  | measurementInterval (unit : UnitId)
  | canonicalI64 (unit : UnitId) (quantum : ℚ)
  | canonicalU64 (unit : UnitId) (quantum : ℚ)
  | text (maximumBytes : UInt32)
  | bytes (maximumBytes : UInt32)
  | array (element : GraphTypeId) (maximumItems : UInt32)
  | record (fields : List RecordField)
  | option (value : GraphTypeId)
  | result (ok error : GraphTypeId)
  | event (payload : GraphTypeId) (clock : GraphClockId)
  | stream (sample : GraphTypeId) (clock : GraphClockId) (capacity : UInt32)
  | resourceHandle (resourceClass : ResourceClassId)
  | jobHandle
  deriving DecidableEq

structure TypeDefinition where
  id : GraphTypeId
  name : String
  kind : TypeKind
  deriving DecidableEq

/-! ## Limits -/

/-- Explicit schema, value and document allocation limits. -/
structure GraphLimits where
  maximumDocumentBytes : Nat
  maximumRationalDigits : Nat
  maximumUnits : Nat
  maximumTypes : Nat
  maximumRecordFields : Nat
  maximumValueDepth : Nat
  maximumValueNodes : Nat
  maximumArrayItems : Nat
  maximumTextBytes : Nat
  maximumBlobBytes : Nat
  maximumStreamCapacity : Nat
  maximumClocks : Nat
  maximumNodes : Nat
  maximumWires : Nat
  maximumPortsPerNode : Nat
  maximumParametersPerNode : Nat
  maximumLabelBytes : Nat
  deriving DecidableEq, Repr

/-- Bounded first-release browser/editor policy. -/
def GraphLimits.interactive : GraphLimits where
  maximumDocumentBytes := 16 * 1024 * 1024
  maximumRationalDigits := 4096
  maximumUnits := 64
  maximumTypes := 256
  maximumRecordFields := 64
  maximumValueDepth := 32
  maximumValueNodes := 4096
  maximumArrayItems := 1024
  maximumTextBytes := 64 * 1024
  maximumBlobBytes := 1024 * 1024
  maximumStreamCapacity := 4096
  maximumClocks := 64
  maximumNodes := 4096
  maximumWires := 8192
  maximumPortsPerNode := 64
  maximumParametersPerNode := 64
  maximumLabelBytes := 256

/-! ## Literals -/

structure ResourceGraphHandle where
  deviceId : DeviceId
  boardPackageDigest : Digest
  resourceClass : ResourceClassId
  resourceSelector : UInt32
  deriving DecidableEq

structure JobGraphHandle where
  deviceId : DeviceId
  globalJobDigest : Digest
  partitionDigest : Digest
  deriving DecidableEq

/-- Exact typed graph literal. A record holds its field identifiers beside the values;
runtime events and streams have no literal. -/
inductive GraphValue where
  | boolean (value : Bool)
  | exactRational (value : ℚ)
  | measurementInterval (lower upper : ℚ)
  | canonicalI64 (value : Int64)
  | canonicalU64 (value : UInt64)
  | text (value : String)
  | bytes (value : List UInt8)
  | array (items : List GraphValue)
  | record (fields : List (RecordFieldId × GraphValue))
  | optionNone
  | optionSome (value : GraphValue)
  | resultOk (value : GraphValue)
  | resultError (value : GraphValue)
  | resourceHandle (handle : ResourceGraphHandle)
  | jobHandle (handle : JobGraphHandle)

/-- Structural literal variant used by typed mismatch diagnostics. -/
inductive GraphValueKind where
  | boolean | exactRational | measurementInterval | canonicalI64 | canonicalU64
  | text | bytes | array | record | option | result | resourceHandle | jobHandle
  deriving DecidableEq, Repr

def GraphValue.kind : GraphValue → GraphValueKind
  | .boolean _ => .boolean
  | .exactRational _ => .exactRational
  | .measurementInterval _ _ => .measurementInterval
  | .canonicalI64 _ => .canonicalI64
  | .canonicalU64 _ => .canonicalU64
  | .text _ => .text
  | .bytes _ => .bytes
  | .array _ => .array
  | .record _ => .record
  | .optionNone | .optionSome _ => .option
  | .resultOk _ | .resultError _ => .result
  | .resourceHandle _ => .resourceHandle
  | .jobHandle _ => .jobHandle

/-! ## Exact rational text -/

/-- Decimal digits of the reduced numerator's magnitude. -/
def numeratorText (q : ℚ) : String := Nat.repr q.num.natAbs

/-- Decimal digits of the reduced denominator. -/
def denominatorText (q : ℚ) : String := Nat.repr q.den

/-- The text `[-]numerator/denominator` the wire decoder hands to the parser. -/
def rationalText (q : ℚ) : String :=
  (if q < 0 then "-" else "") ++ numeratorText q ++ "/" ++ denominatorText q

/-- The external rational parser: it reads back the reduced decimal text of a value.
What it does on any other text is left open. -/
class RationalParser where
  parse : String → Option ℚ
  parse_rationalText : ∀ q, parse (rationalText q) = some q

end Alumina.Graph
