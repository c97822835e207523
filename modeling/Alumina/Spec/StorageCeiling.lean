import Alumina.Spec.AnalysisFacts
import Alumina.Spec.WireRoundTrip

/-!
# Storage ceilings are sound

The byte-counting recursion of `Graph.Storage` and the value encoder walk the same type
structure. `BodyBound` says that a number bounds every encoded literal of a type; the
recursion only ever stores such numbers in its memo table.

Key results:
- `kindShape_sound`: one step of the recursion, one case per type shape
- `storageShape_sound`: the whole recursion, by induction on its levels
- `storageCeilings_sound`: every reported ceiling covers the encoder, and every admitted
  state allocation holds whatever value the state takes
-/

namespace Alumina.Graph

open Codec

/-! ## Lengths of encoded primitives -/

theorem length_encodeId {κ : IdKind} (id : StableId κ) : (encodeId id).length = 4 :=
  length_leBytes 4 _

theorem length_encodeU32 (value : UInt32) : (encodeU32 value).length = 4 := length_leBytes 4 _

theorem length_encodeU64 (value : UInt64) : (encodeU64 value).length = 8 := length_leBytes 8 _

theorem length_encodeCount {value : Nat} {name : String} {bytes : List UInt8}
    (h : encodeCount value name = .ok bytes) : bytes.length = 4 := by
  rw [(encodeCount_eq_ok h).2, length_leBytes]

theorem length_encodeText {s : String} {bytes : List UInt8} (h : encodeText s = .ok bytes) :
    bytes.length = 4 + s.utf8ByteSize := by
  obtain ⟨count, hcount, rfl⟩ := encodeText_eq_ok h
  rw [List.length_append, length_encodeCount hcount, length_utf8Bytes]

/-- A rational takes a sign byte and two magnitudes within the digit limit. -/
theorem length_encodeRational {q : ℚ} {maximumDigits : Nat} {bytes : List UInt8}
    (h : encodeRational q maximumDigits = .ok bytes) :
    bytes.length ≤ 1 + (4 + maximumDigits) * 2 := by
  simp only [encodeRational, Except.bind_eq_ok, Except.exists_unit, Except.failIf_eq_ok,
    Except.pure_eq_ok, not_or, not_lt] at h
  obtain ⟨⟨hnum, hden⟩, numerator, hnumerator, denominator, hdenominator, rfl⟩ := h
  have hn := length_encodeText hnumerator
  have hd := length_encodeText hdenominator
  simp only [List.cons_append, List.length_cons, List.length_append]
  omega

/-! ## Bounds on the literals of a type -/

/-- Events and streams are runtime shapes: no literal has their type. -/
def TypeKind.isRuntime : TypeKind → Bool
  | .event _ _ | .stream _ _ _ => true
  | _ => false

section Bounds

variable (schema : GraphSchema)

/-- `n` bounds the encoded body of every literal of `valueType`. -/
def BodyBound (valueType : GraphTypeId) (n : Nat) : Prop :=
  ∀ depth nodes value final bytes, HasType schema.toSchemaTables depth nodes valueType value final →
    encodeValue schema.toSchemaTables valueType value = .ok bytes → bytes.length ≤ n

/-- A storage shape describes its type: a literal body bounds the type itself, a runtime
shape names the payload and bounds that. -/
def ShapeSound (valueType : GraphTypeId) : StorageShape → Prop
  | .literalBody body => (∃ definition, schema.valueType valueType = some definition ∧
      definition.kind.isRuntime = false) ∧ BodyBound schema valueType body
  | .eventPayload clock body => ∃ definition payload, schema.valueType valueType = some definition ∧
      definition.kind = .event payload clock ∧ BodyBound schema payload body
  | .streamSample clock body capacity => ∃ definition sample,
      schema.valueType valueType = some definition ∧
      definition.kind = .stream sample clock capacity ∧ BodyBound schema sample body

/-- Every finished shape in the memo table is sound. -/
def MemoSound (state : StorageState) : Prop :=
  ∀ valueType shape, state.memo valueType = some shape → ShapeSound schema valueType shape

variable {schema}

/-- A bound on the shapes of a registered literal type bounds its literals. -/
private theorem shapeSound_of_shape {valueType : GraphTypeId} {definition : TypeDefinition}
    {kind : TypeKind} {n : Nat} (hdefinition : schema.valueType valueType = some definition)
    (hkind : definition.kind = kind) (hliteral : kind.isRuntime = false)
    (h : ∀ depth nodes value final bytes, HasShape schema.toSchemaTables depth nodes kind value final →
      encodeValue schema.toSchemaTables valueType value = .ok bytes → bytes.length ≤ n) :
    ShapeSound schema valueType (.literalBody n) := by
  refine ⟨⟨definition, hdefinition, hkind ▸ hliteral⟩, ?_⟩
  intro depth nodes value final bytes htype hbytes
  cases htype with
  | intro _ _ hfound hshape =>
    rw [hdefinition, Option.some.injEq] at hfound
    subst hfound
    rw [hkind] at hshape
    exact h _ _ _ _ _ hshape hbytes

/-- Leaf types have no composite literals, so their leaves bound them. -/
private theorem shapeSound_of_leaf {valueType : GraphTypeId} {definition : TypeDefinition}
    {kind : TypeKind} {n : Nat} (hdefinition : schema.valueType valueType = some definition)
    (hkind : definition.kind = kind) (hliteral : kind.isRuntime = false)
    (hscalar : referencedTypes kind = []) (hrecord : ∀ fields, kind ≠ .record fields)
    (h : ∀ value bytes, LeafShape schema.toSchemaTables kind value →
      encodeLeaf schema.toSchemaTables kind value = .ok bytes → bytes.length ≤ n) :
    ShapeSound schema valueType (.literalBody n) := by
  refine shapeSound_of_shape hdefinition hkind hliteral
    fun depth nodes value final bytes hshape hbytes => ?_
  cases hshape with
  | leaf hleaf =>
    refine h value bytes hleaf (encodeLeaf_of_encodeValue ?_ hleaf hbytes)
    exact hkind ▸ wireKind_of_valueType hdefinition
  | array => cases hscalar
  | record => exact absurd rfl (hrecord _)
  | optionSome => cases hscalar
  | resultOk => cases hscalar
  | resultError => cases hscalar

/-- Encoded items of a bounded element type. -/
private theorem length_encodeItems {element : GraphTypeId} {n : Nat}
    (hbound : BodyBound schema element n) {depth nodes final : Nat} {items : List GraphValue}
    {bytes : List UInt8} (hbytes : encodeItems schema.toSchemaTables element items = .ok bytes)
    (hitems : ItemsHaveType schema.toSchemaTables depth nodes element items final) :
    bytes.length ≤ n * items.length := by
  induction items generalizing nodes bytes with
  | nil =>
    simp only [encodeItems, Except.ok.injEq] at hbytes
    simp [← hbytes]
  | cons item items ih =>
    cases hitems with
    | cons hitem hitems =>
      simp only [encodeItems, Except.bind_eq_ok, Except.pure_eq_ok] at hbytes
      obtain ⟨first, hfirst, rest, hrest, rfl⟩ := hbytes
      have hhead := hbound _ _ _ _ _ hitem hfirst
      have htail := ih hrest hitems
      rw [List.length_append, List.length_cons, Nat.mul_succ]
      omega

/-! ## One step of the recursion -/

/-- A storage computation is sound when it preserves the memo table and returns shapes
that describe their types. -/
def ShapeRule (schema : GraphSchema)
    (shape : GraphTypeId → StorageState → Except GraphStorageError (StorageShape × StorageState)) :
    Prop :=
  ∀ valueType state found state', MemoSound schema state →
    shape valueType state = .ok (found, state') →
    ShapeSound schema valueType found ∧ MemoSound schema state'

variable {shape : GraphTypeId → StorageState → Except GraphStorageError (StorageShape × StorageState)}

private theorem requireLiteralBody_sound (hrule : ShapeRule schema shape)
    {container referenced : GraphTypeId} {state state' : StorageState} {n : Nat}
    (hmemo : MemoSound schema state)
    (h : requireLiteralBody shape container referenced state = .ok (n, state')) :
    BodyBound schema referenced n ∧ MemoSound schema state' := by
  simp only [requireLiteralBody, Except.bind_eq_ok] at h
  obtain ⟨⟨found, middle⟩, hshape, h⟩ := h
  obtain ⟨hfound, hmiddle⟩ := hrule referenced state found middle hmemo hshape
  cases found with
  | literalBody bytes =>
    simp only [Except.pure_eq_ok, Prod.mk.injEq] at h
    obtain ⟨rfl, rfl⟩ := h
    exact ⟨hfound.2, hmiddle⟩
  | eventPayload clock body => cases h
  | streamSample clock body capacity => cases h

/-- Induction on the fields: the running total covers the fields encoded so far. -/
private theorem recordBody_sound (hrule : ShapeRule schema shape) {container : GraphTypeId}
    {fields : List RecordField} {start total : Nat} {state state' : StorageState}
    (hmemo : MemoSound schema state)
    (h : recordBody shape container fields start state = .ok (total, state')) :
    MemoSound schema state' ∧
      ∀ depth nodes values final bytes,
        FieldsHaveType schema.toSchemaTables depth nodes fields values final →
        encodeFields schema.toSchemaTables fields values = .ok bytes →
        start + bytes.length ≤ total := by
  induction fields generalizing start state with
  | nil =>
    simp only [recordBody, Except.ok.injEq, Prod.mk.injEq] at h
    obtain ⟨rfl, rfl⟩ := h
    refine ⟨hmemo, fun depth nodes values final bytes htype hbytes => ?_⟩
    cases htype
    simp only [encodeFields, Except.ok.injEq] at hbytes
    simp [← hbytes]
  | cons field fields ih =>
    simp only [recordBody, Except.bind_eq_ok] at h
    obtain ⟨⟨fieldBody, middle⟩, hfield, fieldBytes, hfieldBytes, sum, hsum, hrest⟩ := h
    obtain ⟨hbound, hmiddle⟩ := requireLiteralBody_sound hrule hmemo hfield
    obtain ⟨hstate', hrestBound⟩ := ih hmiddle hrest
    refine ⟨hstate', fun depth nodes values final bytes htype hbytes => ?_⟩
    cases htype with
    | cons hvalue hvalues =>
      simp only [encodeFields, Except.bind_eq_ok, Except.pure_eq_ok] at hbytes
      obtain ⟨first, hfirst, rest, hrestBytes, rfl⟩ := hbytes
      have hfirstLength := hbound _ _ _ _ _ hvalue hfirst
      have hrestLength := hrestBound _ _ _ _ _ hvalues hrestBytes
      rw [checkedAdd_eq_ok hsum, checkedAdd_eq_ok hfieldBytes] at hrestLength
      rw [List.length_append, List.length_append, length_encodeId]
      omega

/-- The rational ceiling is the one `length_encodeRational` states. -/
private theorem rationalBody_eq {valueType : GraphTypeId} {n : Nat}
    (h : rationalBody schema.toSchemaTables valueType = .ok n) :
    n = 1 + (4 + schema.limits.maximumRationalDigits) * 2 := by
  simp only [rationalBody, Except.bind_eq_ok, Except.exists_unit] at h
  obtain ⟨_, one, hone, both, hboth, h⟩ := h
  rw [checkedAdd_eq_ok h, checkedMul_eq_ok hboth, checkedAdd_eq_ok hone]
  rfl

/-- One step keeps the memo table sound and returns a sound shape: a case for each type
shape, with the encoder's tags and length prefixes counted out. -/
theorem kindShape_sound (hrule : ShapeRule schema shape) {valueType : GraphTypeId}
    {definition : TypeDefinition} {kind : TypeKind} {state state' : StorageState}
    {found : StorageShape} (hdefinition : schema.valueType valueType = some definition)
    (hkind : definition.kind = kind) (hmemo : MemoSound schema state)
    (h : kindShape schema.toSchemaTables shape valueType kind state = .ok (found, state')) :
    ShapeSound schema valueType found ∧ MemoSound schema state' := by
  cases kind with
  | boolean =>
    simp only [kindShape, Except.pure_eq_ok, Prod.mk.injEq] at h
    obtain ⟨rfl, rfl⟩ := h
    refine ⟨shapeSound_of_leaf hdefinition hkind rfl rfl (by simp) ?_, hmemo⟩
    rintro value bytes ⟨⟩ hbytes
    simp only [encodeLeaf, Except.pure_eq_ok] at hbytes
    simp [← hbytes]
  | exactRational unit =>
    simp only [kindShape, Except.bind_eq_ok, Except.pure_eq_ok, Prod.mk.injEq] at h
    obtain ⟨body, hbody, rfl, rfl⟩ := h
    refine ⟨shapeSound_of_leaf hdefinition hkind rfl rfl (by simp) ?_, hmemo⟩
    rintro value bytes ⟨⟩ hbytes
    rw [rationalBody_eq hbody]
    exact length_encodeRational hbytes
  | measurementInterval unit =>
    simp only [kindShape, Except.bind_eq_ok, Except.pure_eq_ok, Prod.mk.injEq] at h
    obtain ⟨body, hbody, both, hboth, rfl, rfl⟩ := h
    refine ⟨shapeSound_of_leaf hdefinition hkind rfl rfl (by simp) ?_, hmemo⟩
    rintro value bytes ⟨⟩ hbytes
    simp only [encodeLeaf, Except.bind_eq_ok, Except.pure_eq_ok] at hbytes
    obtain ⟨lower, hlower, upper, hupper, rfl⟩ := hbytes
    have hl := length_encodeRational hlower
    have hu := length_encodeRational hupper
    rw [checkedMul_eq_ok hboth, rationalBody_eq hbody, List.length_append]
    omega
  | canonicalI64 unit quantum | canonicalU64 unit quantum =>
    simp only [kindShape, Except.pure_eq_ok, Prod.mk.injEq] at h
    obtain ⟨rfl, rfl⟩ := h
    refine ⟨shapeSound_of_leaf hdefinition hkind rfl rfl (by simp) ?_, hmemo⟩
    rintro value bytes ⟨⟩ hbytes
    simp only [encodeLeaf, Except.pure_eq_ok] at hbytes
    rw [← hbytes]
    exact (length_leBytes 8 _).le
  | text maximumBytes =>
    simp only [kindShape, Except.bind_eq_ok, Except.pure_eq_ok, Prod.mk.injEq] at h
    obtain ⟨body, hbody, rfl, rfl⟩ := h
    refine ⟨shapeSound_of_leaf hdefinition hkind rfl rfl (by simp) ?_, hmemo⟩
    rintro value bytes ⟨hbound, _⟩ hbytes
    have hlength := length_encodeText hbytes
    rw [checkedAdd_eq_ok hbody, lengthBytes]
    omega
  | bytes maximumBytes =>
    simp only [kindShape, Except.bind_eq_ok, Except.pure_eq_ok, Prod.mk.injEq] at h
    obtain ⟨body, hbody, rfl, rfl⟩ := h
    refine ⟨shapeSound_of_leaf hdefinition hkind rfl rfl (by simp) ?_, hmemo⟩
    rintro value bytes ⟨hbound, _⟩ hbytes
    simp only [encodeLeaf, Except.bind_eq_ok, Except.pure_eq_ok] at hbytes
    obtain ⟨count, hcount, rfl⟩ := hbytes
    rw [checkedAdd_eq_ok hbody, lengthBytes, List.length_append, length_encodeCount hcount]
    omega
  | array element maximumItems =>
    simp only [kindShape, Except.bind_eq_ok, Except.pure_eq_ok, Prod.mk.injEq] at h
    obtain ⟨⟨item, middle⟩, hitem, items, hitems, body, hbody, rfl, rfl⟩ := h
    obtain ⟨hbound, hmiddle⟩ := requireLiteralBody_sound hrule hmemo hitem
    refine ⟨shapeSound_of_shape hdefinition hkind rfl ?_, hmiddle⟩
    intro depth nodes value final bytes hshape hbytes
    cases hshape with
    | leaf hleaf => cases hleaf
    | array hcapacity _ hvalues =>
      rw [encodeValue, Except.bind_of_ok (hkind ▸ wireKind_of_valueType hdefinition)] at hbytes
      simp only [Except.bind_eq_ok, Except.pure_eq_ok] at hbytes
      obtain ⟨count, hcount, itemBytes, hitemBytes, rfl⟩ := hbytes
      have hlength := length_encodeItems hbound hitemBytes hvalues
      have hscaled := Nat.mul_le_mul_left item hcapacity
      have hproduct : items = item * maximumItems.toNat := checkedMul_eq_ok hitems
      rw [checkedAdd_eq_ok hbody, lengthBytes, List.length_append, length_encodeCount hcount]
      omega
  | record fields =>
    simp only [kindShape, Except.bind_eq_ok, Except.pure_eq_ok, Prod.mk.injEq] at h
    obtain ⟨⟨total, middle⟩, htotal, rfl, rfl⟩ := h
    obtain ⟨hmiddle, hbound⟩ := recordBody_sound hrule hmemo htotal
    refine ⟨shapeSound_of_shape hdefinition hkind rfl ?_, hmiddle⟩
    intro depth nodes value final bytes hshape hbytes
    cases hshape with
    | leaf hleaf => cases hleaf
    | record hvalues =>
      rw [encodeValue, Except.bind_of_ok (hkind ▸ wireKind_of_valueType hdefinition)] at hbytes
      simp only [Except.bind_eq_ok, Except.pure_eq_ok] at hbytes
      obtain ⟨count, hcount, body, hbody, rfl⟩ := hbytes
      have hlength := hbound _ _ _ _ _ hvalues hbody
      rw [List.length_append, length_encodeCount hcount]
      exact hlength
  | option value =>
    simp only [kindShape, Except.bind_eq_ok, Except.pure_eq_ok, Prod.mk.injEq] at h
    obtain ⟨⟨inner, middle⟩, hinner, body, hbody, rfl, rfl⟩ := h
    obtain ⟨hbound, hmiddle⟩ := requireLiteralBody_sound hrule hmemo hinner
    refine ⟨shapeSound_of_shape hdefinition hkind rfl ?_, hmiddle⟩
    intro depth nodes value final bytes hshape hbytes
    rw [checkedAdd_eq_ok hbody, variantTagBytes]
    cases hshape with
    | leaf hleaf =>
      have hencode := encodeLeaf_of_encodeValue (hkind ▸ wireKind_of_valueType hdefinition)
        hleaf hbytes
      cases hleaf
      simp only [encodeLeaf, Except.pure_eq_ok] at hencode
      simp [← hencode]
    | optionSome hvalue =>
      rw [encodeValue, Except.bind_of_ok (hkind ▸ wireKind_of_valueType hdefinition)] at hbytes
      simp only [Except.bind_eq_ok, Except.pure_eq_ok] at hbytes
      obtain ⟨valueBytes, hvalueBytes, rfl⟩ := hbytes
      have hlength := hbound _ _ _ _ _ hvalue hvalueBytes
      rw [List.length_cons]
      omega
  | result ok error =>
    simp only [kindShape, Except.bind_eq_ok, Except.pure_eq_ok, Prod.mk.injEq] at h
    obtain ⟨⟨okBody, first⟩, hok, ⟨errorBody, second⟩, herror, body, hbody, rfl, rfl⟩ := h
    obtain ⟨hokBound, hfirst⟩ := requireLiteralBody_sound hrule hmemo hok
    obtain ⟨herrorBound, hsecond⟩ := requireLiteralBody_sound hrule hfirst herror
    refine ⟨shapeSound_of_shape hdefinition hkind rfl ?_, hsecond⟩
    intro depth nodes value final bytes hshape hbytes
    rw [checkedAdd_eq_ok hbody, variantTagBytes]
    cases hshape with
    | leaf hleaf => cases hleaf
    | resultOk hvalue =>
      rw [encodeValue, Except.bind_of_ok (hkind ▸ wireKind_of_valueType hdefinition)] at hbytes
      simp only [Except.bind_eq_ok, Except.pure_eq_ok] at hbytes
      obtain ⟨valueBytes, hvalueBytes, rfl⟩ := hbytes
      have hlength := hokBound _ _ _ _ _ hvalue hvalueBytes
      have hmax := le_max_left okBody errorBody
      rw [List.length_cons]
      omega
    | resultError hvalue =>
      rw [encodeValue, Except.bind_of_ok (hkind ▸ wireKind_of_valueType hdefinition)] at hbytes
      simp only [Except.bind_eq_ok, Except.pure_eq_ok] at hbytes
      obtain ⟨valueBytes, hvalueBytes, rfl⟩ := hbytes
      have hlength := herrorBound _ _ _ _ _ hvalue hvalueBytes
      have hmax := le_max_right okBody errorBody
      rw [List.length_cons]
      omega
  | event payload clock =>
    simp only [kindShape, Except.bind_eq_ok, Except.pure_eq_ok, Prod.mk.injEq] at h
    obtain ⟨⟨body, middle⟩, hbody, rfl, rfl⟩ := h
    obtain ⟨hbound, hmiddle⟩ := requireLiteralBody_sound hrule hmemo hbody
    exact ⟨⟨definition, payload, hdefinition, hkind, hbound⟩, hmiddle⟩
  | stream sample clock capacity =>
    simp only [kindShape, Except.bind_eq_ok, Except.pure_eq_ok, Prod.mk.injEq] at h
    obtain ⟨⟨body, middle⟩, hbody, rfl, rfl⟩ := h
    obtain ⟨hbound, hmiddle⟩ := requireLiteralBody_sound hrule hmemo hbody
    exact ⟨⟨definition, sample, hdefinition, hkind, hbound⟩, hmiddle⟩
  | resourceHandle resourceClass =>
    simp only [kindShape, Except.pure_eq_ok, Prod.mk.injEq] at h
    obtain ⟨rfl, rfl⟩ := h
    refine ⟨shapeSound_of_leaf hdefinition hkind rfl rfl (by simp) ?_, hmemo⟩
    rintro value bytes ⟨⟩ hbytes
    rename_i handle
    simp only [encodeLeaf, Except.pure_eq_ok] at hbytes
    rw [← hbytes]
    simp only [List.length_append, handle.deviceId.property, handle.boardPackageDigest.property,
      length_encodeId, length_encodeU32]
    exact le_rfl
  | jobHandle =>
    simp only [kindShape, Except.pure_eq_ok, Prod.mk.injEq] at h
    obtain ⟨rfl, rfl⟩ := h
    refine ⟨shapeSound_of_leaf hdefinition hkind rfl rfl (by simp) ?_, hmemo⟩
    rintro value bytes ⟨⟩ hbytes
    rename_i handle
    simp only [encodeLeaf, Except.pure_eq_ok] at hbytes
    rw [← hbytes]
    simp only [List.length_append, handle.deviceId.property, handle.globalJobDigest.property,
      handle.partitionDigest.property]
    exact le_rfl

/-- The recursion is sound at every depth: a memo hit returns what the table promised, a
miss takes one step with the levels below. -/
theorem storageShape_sound (levels : Nat) :
    ShapeRule schema (storageShape schema.toSchemaTables levels) := by
  induction levels with
  | zero =>
    intro valueType state found state' _ h
    cases h
  | succ levels ih =>
    intro valueType state found state' hmemo h
    rw [storageShape] at h
    split at h
    case h_1 shape hhit =>
      simp only [Except.ok.injEq, Prod.mk.injEq] at h
      obtain ⟨rfl, rfl⟩ := h
      exact ⟨hmemo valueType _ hhit, hmemo⟩
    case h_2 =>
      simp only [Except.bind_eq_ok, Except.exists_unit, Except.failIf_eq_ok, Option.okOr_eq_ok,
        Except.pure_eq_ok, Prod.mk.injEq] at h
      obtain ⟨_, definition, hdefinition, ⟨shape, middle⟩, hshape, rfl, rfl⟩ := h
      have hentered : MemoSound schema
          { state with visiting := Function.update state.visiting valueType true } := hmemo
      obtain ⟨hsound, hmiddle⟩ := kindShape_sound ih hdefinition rfl hentered hshape
      refine ⟨hsound, fun other otherShape hother => ?_⟩
      dsimp only at hother
      by_cases heq : other = valueType
      · subst heq
        rw [Function.update_self, Option.some.injEq] at hother
        exact hother ▸ hsound
      · rw [Function.update_of_ne heq] at hother
        exact hmiddle other otherShape hother

/-! ## Reported bounds -/

/-- `n` bounds the complete encoding of every typed value of `valueType`. -/
def EncodingBound (schema : GraphSchema) (valueType : GraphTypeId) (n : Nat) : Prop :=
  ∀ typed : TypedGraphValue, typed.valueType = valueType →
    ∀ bytes, encodeTypedValue schema.toSchemaTables typed = .ok bytes → bytes.length ≤ n

/-- A reported ceiling covers its type: a literal ceiling every value of the type itself, a
runtime ceiling every value of the type's payload or sample. -/
def GraphTypeStorageKind.Covers (schema : GraphSchema) (definition : TypeDefinition) :
    GraphTypeStorageKind → Prop
  | .literal maximum => definition.kind.isRuntime = false ∧
      EncodingBound schema definition.id maximum
  | .eventPayload clock maximum => ∃ payload, definition.kind = .event payload clock ∧
      EncodingBound schema payload maximum
  | .streamSample clock maximum capacity => ∃ sample,
      definition.kind = .stream sample clock capacity ∧ EncodingBound schema sample maximum

/-- The root type identifier takes four bytes more than the body. -/
private theorem encodingBound_of_bodyBound {owner valueType : GraphTypeId} {body bytes : Nat}
    (h : BodyBound schema valueType body) (hbytes : checkedAdd owner typeIdBytes body = .ok bytes) :
    EncodingBound schema valueType bytes := by
  intro typed htyped encoded hencoded
  simp only [encodeTypedValue, Except.bind_eq_ok, Except.exists_unit, Except.mapError_eq_ok,
    Except.pure_eq_ok] at hencoded
  obtain ⟨hvalid, value, hvalue, rfl⟩ := hencoded
  obtain ⟨final, htype⟩ := hasType_of_validateValue hvalid
  subst htyped
  have hlength := h _ _ _ _ _ htype hvalue
  rw [checkedAdd_eq_ok hbytes, typeIdBytes, List.length_append, length_encodeId]
  omega

private theorem storageKind_covers {definition : TypeDefinition} {found : StorageShape}
    {kind : GraphTypeStorageKind} (hdefinition : definition ∈ schema.types)
    (hfound : ShapeSound schema definition.id found)
    (h : storageKind definition.id found = .ok kind) : kind.Covers schema definition := by
  have hlookup := schema.valueType_of_mem hdefinition
  cases found with
  | literalBody body =>
    simp only [storageKind, Except.bind_eq_ok, Except.pure_eq_ok] at h
    obtain ⟨bytes, hbytes, rfl⟩ := h
    obtain ⟨⟨registered, hregistered, hliteral⟩, hbody⟩ := hfound
    obtain rfl : definition = registered := by simpa [hlookup] using hregistered
    exact ⟨hliteral, encodingBound_of_bodyBound hbody hbytes⟩
  | eventPayload clock body =>
    simp only [storageKind, Except.bind_eq_ok, Except.pure_eq_ok] at h
    obtain ⟨bytes, hbytes, rfl⟩ := h
    obtain ⟨registered, payload, hregistered, hkind, hbody⟩ := hfound
    obtain rfl : definition = registered := by simpa [hlookup] using hregistered
    exact ⟨payload, hkind, encodingBound_of_bodyBound hbody hbytes⟩
  | streamSample clock body capacity =>
    simp only [storageKind, Except.bind_eq_ok, Except.pure_eq_ok] at h
    obtain ⟨bytes, hbytes, rfl⟩ := h
    obtain ⟨registered, sample, hregistered, hkind, hbody⟩ := hfound
    obtain rfl : definition = registered := by simpa [hlookup] using hregistered
    exact ⟨sample, hkind, encodingBound_of_bodyBound hbody hbytes⟩

/-- The report has one bound for each definition, in order, and each covers its type. -/
private theorem storageBounds_covers {definitions : List TypeDefinition} {state : StorageState}
    {bounds : List GraphTypeStorageBound} (hmem : ∀ definition ∈ definitions,
      definition ∈ schema.types) (hmemo : MemoSound schema state)
    (h : storageBounds schema.toSchemaTables definitions state = .ok bounds) :
    List.Forall₂ (fun definition bound =>
      bound.valueType = definition.id ∧ bound.kind.Covers schema definition) definitions bounds := by
  induction definitions generalizing state bounds with
  | nil =>
    obtain rfl : [] = bounds := by simpa [storageBounds] using h
    exact .nil
  | cons definition definitions ih =>
    simp only [storageBounds, Except.bind_eq_ok, Except.pure_eq_ok] at h
    obtain ⟨⟨found, middle⟩, hshape, kind, hkind, rest, hrest, rfl⟩ := h
    obtain ⟨hfound, hmiddle⟩ := storageShape_sound _ _ _ _ _ hmemo hshape
    have hhead := storageKind_covers (hmem definition (by simp)) hfound hkind
    exact .cons ⟨rfl, hhead⟩ (ih (fun d hd => hmem d (by simp [hd])) hmiddle hrest)

/-- Every registered type has a bound in the report, and it covers the type. -/
theorem storageBound_covers {bounds : List GraphTypeStorageBound}
    (h : analyzeTypeStorage schema.toSchemaTables = .ok bounds) {definition : TypeDefinition}
    (hdefinition : definition ∈ schema.types) :
    ∃ bound, storageBound bounds definition.id = some bound ∧
      bound.kind.Covers schema definition := by
  have hcovers := storageBounds_covers (fun _ hd => hd) (fun _ _ hhit => by simp at hhit) h
  -- the report repeats no identifier, since the type table does not
  have hids : bounds.map GraphTypeStorageBound.valueType = schema.types.map TypeDefinition.id := by
    generalize schema.types = definitions at hcovers
    clear h hdefinition
    induction hcovers with
    | nil => rfl
    | cons hhead _ ih => simp [hhead.1, ih]
  obtain ⟨bound, hbound, hid, hkind⟩ : ∃ bound ∈ bounds, bound.valueType = definition.id ∧
      bound.kind.Covers schema definition := by
    generalize schema.types = definitions at hcovers hdefinition
    clear h hids
    induction hcovers with
    | nil => cases hdefinition
    | cons hhead _ ih =>
      rcases List.mem_cons.mp hdefinition with rfl | hrest
      · exact ⟨_, List.mem_cons_self, hhead⟩
      · obtain ⟨bound, hmem, hbound⟩ := ih hrest
        exact ⟨bound, List.mem_cons_of_mem _ hmem, hbound⟩
  refine ⟨bound, ?_, hkind⟩
  rw [storageBound, ← hid]
  exact Table.lookup_of_mem (by rw [hids]; exact schema.types_nodup) hbound

/-- Conversely a reported bound belongs to a registered type. -/
theorem covers_of_storageBound {bounds : List GraphTypeStorageBound}
    (h : analyzeTypeStorage schema.toSchemaTables = .ok bounds) {valueType : GraphTypeId}
    {bound : GraphTypeStorageBound} (hbound : storageBound bounds valueType = some bound) :
    ∃ definition ∈ schema.types, definition.id = valueType ∧
      bound.kind.Covers schema definition := by
  have hcovers := storageBounds_covers (fun _ hd => hd) (fun _ _ hhit => by simp at hhit) h
  have hmem := Table.mem_of_lookup hbound
  have hkey := Table.key_of_lookup hbound
  generalize schema.types = definitions at hcovers
  clear h hbound
  induction hcovers with
  | nil => cases hmem
  | cons hhead _ ih =>
    rcases List.mem_cons.mp hmem with rfl | hrest
    · exact ⟨_, List.mem_cons_self, hhead.1 ▸ hkey, hhead.2⟩
    · obtain ⟨definition, hdefinition, hid⟩ := ih hrest
      exact ⟨definition, List.mem_cons_of_mem _ hdefinition, hid⟩

end Bounds

/-! ## Admitted state -/

/-- The bytes an admitted allocation declares hold every value of the state's type. -/
theorem encodingBound_of_allocation {document : GraphDocument} {registry : GraphNodeRegistry}
    {analysis : GraphAnalysis} (facts : AnalysisFacts document registry analysis)
    {allocation : NodeStateAllocation} (hmem : allocation ∈ analysis.stateAllocations) :
    EncodingBound document.schema allocation.valueType allocation.declaredStorageBytes.toNat := by
  obtain ⟨required, hrequired, hle⟩ := facts.allocation allocation hmem
  simp only [literalStorageBytes, Except.bind_eq_ok, Option.okOr_eq_ok] at hrequired
  obtain ⟨bound, hbound, hliteral⟩ := hrequired
  obtain ⟨definition, -, hid, hcovers⟩ := covers_of_storageBound facts.bounds_ok hbound
  rw [GraphTypeStorageBound.maximumLiteralBytes] at hliteral
  cases hkind : bound.kind with
  | literal maximum =>
    obtain rfl : maximum = required := by simpa [hkind] using hliteral
    rw [hkind, GraphTypeStorageKind.Covers, hid] at hcovers
    exact fun typed htyped bytes hbytes => (hcovers.2 typed htyped bytes hbytes).trans hle
  | eventPayload clock maximum => simp [hkind] at hliteral
  | streamSample clock maximum capacity => simp [hkind] at hliteral

/-- An exact length, and streams of it on a root clock and on one of half its rate. -/
def relayTables : SchemaTables where
  limits := .interactive
  units := [⟨⟨1⟩, "1", .dimensionless, 1⟩]
  types := [⟨⟨1⟩, "ratio", .exactRational ⟨1⟩⟩, ⟨⟨2⟩, "fast", .stream ⟨1⟩ ⟨1⟩ 4⟩,
    ⟨⟨3⟩, "slow", .stream ⟨1⟩ ⟨2⟩ 4⟩]

def relaySchema : GraphSchema where
  toSchemaTables := relayTables
  sorted := by decide
  valid := by decide +kernel

/-- A source is resampled to half its rate and summed up: the sum is delayed by one tick and
fed back. -/
def relayDocument : GraphDocument where
  revision := 1
  schema := relaySchema
  clocks := [⟨⟨1⟩, "root", .hostMonotonic 1000⟩, ⟨⟨2⟩, "half", .derived ⟨1⟩ 1 2⟩]
  nodes := [
    ⟨⟨1⟩, ⟨"relay.source", 1⟩, "source", .hostExact, [], [⟨⟨1⟩, "out", ⟨2⟩⟩], []⟩,
    ⟨⟨2⟩, ⟨"relay.rate", 1⟩, "rate", .hostExact, [⟨⟨1⟩, "in", ⟨2⟩⟩], [⟨⟨2⟩, "out", ⟨3⟩⟩], []⟩,
    ⟨⟨3⟩, ⟨"relay.sum", 1⟩, "sum", .hostExact, [⟨⟨1⟩, "left", ⟨3⟩⟩, ⟨⟨2⟩, "right", ⟨3⟩⟩],
      [⟨⟨3⟩, "out", ⟨3⟩⟩], []⟩,
    ⟨⟨4⟩, ⟨"relay.hold", 1⟩, "hold", .hostExact, [⟨⟨1⟩, "in", ⟨3⟩⟩], [⟨⟨2⟩, "out", ⟨3⟩⟩],
      [⟨1, "initial", ⟨⟨1⟩, .exactRational 0⟩⟩]⟩]
  wires := [⟨⟨1⟩, ⟨⟨1⟩, ⟨1⟩⟩, ⟨⟨2⟩, ⟨1⟩⟩⟩, ⟨⟨2⟩, ⟨⟨2⟩, ⟨2⟩⟩, ⟨⟨3⟩, ⟨1⟩⟩⟩,
    ⟨⟨3⟩, ⟨⟨4⟩, ⟨2⟩⟩, ⟨⟨3⟩, ⟨2⟩⟩⟩, ⟨⟨4⟩, ⟨⟨3⟩, ⟨3⟩⟩, ⟨⟨4⟩, ⟨1⟩⟩⟩]
  sorted := by decide
  valid := by decide +kernel

/-- Audited schemas of the four relay kinds. -/
def relayNodeRegistry : GraphNodeRegistry where
  limits := .interactive
  contextSchema := relaySchema
  contextClocks := relayDocument.clocks
  schemas := [
    ⟨⟨"relay.hold", 1⟩, .hostExact, [⟨⟨1⟩, "in", ⟨3⟩⟩],
      [⟨⟨1⟩, .required, .streamQueue 4 .fault⟩], [⟨⟨2⟩, "out", ⟨3⟩⟩], [⟨1, "initial", ⟨1⟩⟩],
      [⟨⟨2⟩, []⟩], [], some ⟨⟨2⟩, ⟨1⟩, 1, ⟨1⟩, ⟨2⟩, 16384⟩⟩,
    ⟨⟨"relay.rate", 1⟩, .hostExact, [⟨⟨1⟩, "in", ⟨2⟩⟩],
      [⟨⟨1⟩, .required, .streamQueue 4 .fault⟩], [⟨⟨2⟩, "out", ⟨3⟩⟩], [], [⟨⟨2⟩, [⟨1⟩]⟩],
      [⟨⟨1⟩, ⟨2⟩, .latestAtOrBeforeSourceFirst⟩], none⟩,
    ⟨⟨"relay.source", 1⟩, .hostExact, [], [], [⟨⟨1⟩, "out", ⟨2⟩⟩], [], [⟨⟨1⟩, []⟩], [], none⟩,
    ⟨⟨"relay.sum", 1⟩, .hostExact, [⟨⟨1⟩, "left", ⟨3⟩⟩, ⟨⟨2⟩, "right", ⟨3⟩⟩],
      [⟨⟨1⟩, .required, .streamQueue 4 .fault⟩, ⟨⟨2⟩, .required, .streamQueue 4 .fault⟩],
      [⟨⟨3⟩, "out", ⟨3⟩⟩], [], [⟨⟨3⟩, [⟨1⟩, ⟨2⟩]⟩], [], none⟩]
  valid := by decide +kernel

/-- **Storage ceilings are sound.** Each registered type has a reported ceiling; a literal
type's covers the complete encoding of each of its values, an event's or stream's that of
each value of its payload or sample type. So an admitted state allocation holds every value
of the state's type. -/
theorem storageCeilings_sound :
    (∀ (schema : GraphSchema) (bounds : List GraphTypeStorageBound),
      analyzeTypeStorage schema.toSchemaTables = .ok bounds →
      ∀ definition ∈ schema.types, ∃ bound, storageBound bounds definition.id = some bound ∧
        bound.kind.Covers schema definition) ∧
    ∀ (document : GraphDocument) (registry : GraphNodeRegistry) (analysis : GraphAnalysis),
      analyzeGraph document registry = .ok analysis →
      ∀ allocation ∈ analysis.stateAllocations,
        EncodingBound document.schema allocation.valueType
          allocation.declaredStorageBytes.toNat := by
  constructor
  · intro schema bounds h definition hdefinition
    exact storageBound_covers h hdefinition
  · intro document registry analysis h allocation hmem
    exact encodingBound_of_allocation (analysisFacts_of_analyzeGraph h) hmem

theorem storageCeilings_sound_relay :
    ∃ analysis, analyzeGraph relayDocument relayNodeRegistry = .ok analysis ∧
      (∀ definition ∈ relaySchema.types, ∃ bound,
        storageBound analysis.typeStorageBounds definition.id = some bound ∧
          bound.kind.Covers relaySchema definition) ∧
      ∀ allocation ∈ analysis.stateAllocations,
        EncodingBound relaySchema allocation.valueType
          allocation.declaredStorageBytes.toNat := by
  obtain ⟨analysis, hanalysis⟩ : ∃ analysis,
      analyzeGraph relayDocument relayNodeRegistry = .ok analysis :=
    Except.isOk_iff_exists.1 (by decide +kernel)
  have hbounds := (analysisFacts_of_analyzeGraph hanalysis).bounds_ok
  exact ⟨analysis, hanalysis, storageCeilings_sound.1 relaySchema _ hbounds,
    storageCeilings_sound.2 _ _ _ hanalysis⟩

end Alumina.Graph
