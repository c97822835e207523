import Alumina.Graph.Schema

/-!
# Typing of graph literals

`validateValueInner` is a checker that counts depth and nodes as it goes. This file
states what it decides as a typing judgement, one rule per matching pair of type shape
and literal, so that the codec and the storage proofs can follow the shape of a valid
literal instead of unfolding the checker.

Key result:
- `hasType_of_validateValue`: a validated literal has a typing derivation
-/

namespace Alumina.Graph

/-- A literal with nothing below it matches a type shape. -/
inductive LeafShape (tables : SchemaTables) : TypeKind → GraphValue → Prop
  | boolean {b : Bool} : LeafShape tables .boolean (.boolean b)
  | canonicalI64 {unit : UnitId} {quantum : ℚ} {v : Int64} :
      LeafShape tables (.canonicalI64 unit quantum) (.canonicalI64 v)
  | canonicalU64 {unit : UnitId} {quantum : ℚ} {v : UInt64} :
      LeafShape tables (.canonicalU64 unit quantum) (.canonicalU64 v)
  | exactRational {unit : UnitId} {q : ℚ}
      (hq : validateRationalMagnitude q tables.limits.maximumRationalDigits = .ok ()) :
      LeafShape tables (.exactRational unit) (.exactRational q)
  | measurementInterval {unit : UnitId} {lower upper : ℚ} (hordered : lower ≤ upper)
      (hlower : validateRationalMagnitude lower tables.limits.maximumRationalDigits = .ok ())
      (hupper : validateRationalMagnitude upper tables.limits.maximumRationalDigits = .ok ()) :
      LeafShape tables (.measurementInterval unit) (.measurementInterval lower upper)
  | text {maximumBytes : UInt32} {s : String} (hbound : s.utf8ByteSize ≤ maximumBytes.toNat)
      (hlimit : s.utf8ByteSize ≤ tables.limits.maximumTextBytes) :
      LeafShape tables (.text maximumBytes) (.text s)
  | bytes {maximumBytes : UInt32} {bs : List UInt8} (hbound : bs.length ≤ maximumBytes.toNat)
      (hlimit : bs.length ≤ tables.limits.maximumBlobBytes) :
      LeafShape tables (.bytes maximumBytes) (.bytes bs)
  | optionNone {inner : GraphTypeId} : LeafShape tables (.option inner) .optionNone
  | resourceHandle {handle : ResourceGraphHandle} :
      LeafShape tables (.resourceHandle handle.resourceClass) (.resourceHandle handle)
  | jobHandle {handle : JobGraphHandle} : LeafShape tables .jobHandle (.jobHandle handle)

mutual

/-- `HasType tables depth nodes valueType value final`: at nesting level `depth`, with
`nodes` nodes counted before it, `value` is a literal of the registered `valueType`, and
`final` nodes are counted after it. -/
inductive HasType (tables : SchemaTables) : Nat → Nat → GraphTypeId → GraphValue → Nat → Prop
  | intro {depth nodes final : Nat} {valueType : GraphTypeId} {value : GraphValue}
      {definition : TypeDefinition}
      (hdepth : depth ≤ tables.limits.maximumValueDepth)
      (hnodes : nodes + 1 ≤ tables.limits.maximumValueNodes)
      (hdefinition : tables.valueType valueType = some definition)
      (hshape : HasShape tables depth (nodes + 1) definition.kind value final) :
      HasType tables depth nodes valueType value final

/-- The literal matches one type shape. -/
inductive HasShape (tables : SchemaTables) : Nat → Nat → TypeKind → GraphValue → Nat → Prop
  | leaf {depth nodes : Nat} {kind : TypeKind} {value : GraphValue}
      (hleaf : LeafShape tables kind value) : HasShape tables depth nodes kind value nodes
  | array {depth nodes final : Nat} {element : GraphTypeId} {maximumItems : UInt32}
      {items : List GraphValue}
      (hbound : items.length ≤ maximumItems.toNat)
      (hlimit : items.length ≤ tables.limits.maximumArrayItems)
      (hitems : ItemsHaveType tables (depth + 1) nodes element items final) :
      HasShape tables depth nodes (.array element maximumItems) (.array items) final
  | record {depth nodes final : Nat} {fields : List RecordField}
      {values : List (RecordFieldId × GraphValue)}
      (hfields : FieldsHaveType tables (depth + 1) nodes fields values final) :
      HasShape tables depth nodes (.record fields) (.record values) final
  | optionSome {depth nodes final : Nat} {inner : GraphTypeId} {value : GraphValue}
      (hvalue : HasType tables (depth + 1) nodes inner value final) :
      HasShape tables depth nodes (.option inner) (.optionSome value) final
  | resultOk {depth nodes final : Nat} {ok error : GraphTypeId} {value : GraphValue}
      (hvalue : HasType tables (depth + 1) nodes ok value final) :
      HasShape tables depth nodes (.result ok error) (.resultOk value) final
  | resultError {depth nodes final : Nat} {ok error : GraphTypeId} {value : GraphValue}
      (hvalue : HasType tables (depth + 1) nodes error value final) :
      HasShape tables depth nodes (.result ok error) (.resultError value) final

/-- Every item of an array has the element type; nodes are counted in order. -/
inductive ItemsHaveType (tables : SchemaTables) :
    Nat → Nat → GraphTypeId → List GraphValue → Nat → Prop
  | nil {depth nodes : Nat} {element : GraphTypeId} :
      ItemsHaveType tables depth nodes element [] nodes
  | cons {depth nodes middle final : Nat} {element : GraphTypeId} {item : GraphValue}
      {items : List GraphValue}
      (hitem : HasType tables depth nodes element item middle)
      (hitems : ItemsHaveType tables depth middle element items final) :
      ItemsHaveType tables depth nodes element (item :: items) final

/-- The literal supplies every registered field, in order. -/
inductive FieldsHaveType (tables : SchemaTables) :
    Nat → Nat → List RecordField → List (RecordFieldId × GraphValue) → Nat → Prop
  | nil {depth nodes : Nat} : FieldsHaveType tables depth nodes [] [] nodes
  | cons {depth nodes middle final : Nat} {field : RecordField} {value : GraphValue}
      {fields : List RecordField} {values : List (RecordFieldId × GraphValue)}
      (hvalue : HasType tables depth nodes field.valueType value middle)
      (hvalues : FieldsHaveType tables depth middle fields values final) :
      FieldsHaveType tables depth nodes (field :: fields) ((field.id, value) :: values) final

end

/-- A typed record supplies as many fields as its type registers. -/
theorem fieldsHaveType_length {tables : SchemaTables} {depth nodes final : Nat}
    {fields : List RecordField} {values : List (RecordFieldId × GraphValue)} :
    FieldsHaveType tables depth nodes fields values final → fields.length = values.length
  | .nil => rfl
  | .cons _ hvalues => congrArg (· + 1) (fieldsHaveType_length hvalues)

/-! ## The checker decides the judgement -/

section Checker

variable {tables : SchemaTables} {valueType : GraphTypeId} {depth nodes : Nat}

theorem enterValue_eq_ok {kind : TypeKind}
    (h : enterValue tables valueType depth nodes = .ok kind) :
    depth ≤ tables.limits.maximumValueDepth ∧ nodes + 1 ≤ tables.limits.maximumValueNodes ∧
      ∃ definition, tables.valueType valueType = some definition ∧ definition.kind = kind := by
  simpa only [enterValue, Except.bind_eq_ok, Except.exists_unit, Except.failIf_eq_ok,
    Except.pure_eq_ok, not_lt, SchemaTables.requireType, Option.okOr_eq_ok] using h

/-- Entering a node and matching its shape is the one rule of the judgement. -/
private theorem hasType_of_enterValue {kind : TypeKind} {value : GraphValue} {final : Nat}
    (henter : enterValue tables valueType depth nodes = .ok kind)
    (hshape : HasShape tables depth (nodes + 1) kind value final) :
    HasType tables depth nodes valueType value final := by
  obtain ⟨hdepth, hnodes, definition, hdefinition, rfl⟩ := enterValue_eq_ok henter
  exact .intro hdepth hnodes hdefinition hshape

theorem leafShape_of_validateLeaf {kind : TypeKind} {value : GraphValue}
    (h : validateLeaf tables valueType kind value = .ok ()) : LeafShape tables kind value := by
  unfold validateLeaf at h
  split at h
  case h_1 => exact .boolean
  case h_2 => exact .canonicalI64
  case h_3 => exact .canonicalU64
  case h_4 => exact .exactRational h
  case h_5 =>
    simp only [Except.bind_eq_ok, Except.exists_unit, Except.failIf_eq_ok, not_lt] at h
    exact .measurementInterval h.1 h.2.1 h.2.2
  case h_6 =>
    simp only [Except.failIf_eq_ok, not_or, not_lt] at h
    exact .text h.1 h.2
  case h_7 =>
    simp only [Except.failIf_eq_ok, not_or, not_lt] at h
    exact .bytes h.1 h.2
  case h_8 => exact .optionNone
  case h_9 =>
    simp only [Except.failIf_eq_ok, not_or, not_not] at h
    obtain ⟨rfl, _⟩ := h
    exact .resourceHandle
  case h_10 => exact .jobHandle
  case h_11 => cases h

private theorem hasType_of_leaf {value : GraphValue} {final : Nat}
    (h : (do
      let kind ← enterValue tables valueType depth nodes
      validateLeaf tables valueType kind value
      return nodes + 1) = Except.ok final) :
    HasType tables depth nodes valueType value final := by
  simp only [Except.bind_eq_ok, Except.exists_unit, Except.pure_eq_ok] at h
  obtain ⟨kind, henter, hleaf, rfl⟩ := h
  exact hasType_of_enterValue henter (.leaf (leafShape_of_validateLeaf hleaf))

mutual

/-- Induction on the literal, following the checker's own recursion. -/
theorem hasType_of_validateValueInner {valueType : GraphTypeId} {depth nodes final : Nat} :
    (value : GraphValue) →
    validateValueInner tables valueType value depth nodes = .ok final →
    HasType tables depth nodes valueType value final
  | .array items, h => by
    rw [validateValueInner, Except.bind_eq_ok] at h
    obtain ⟨kind, henter, h⟩ := h
    split at h
    · simp only [Except.bind_eq_ok, Except.exists_unit, Except.failIf_eq_ok, not_or,
        not_lt] at h
      obtain ⟨⟨hbound, hlimit⟩, hitems⟩ := h
      exact hasType_of_enterValue henter
        (.array hbound hlimit (itemsHaveType_of_validateItems items hitems))
    · cases h
  | .record values, h => by
    rw [validateValueInner, Except.bind_eq_ok] at h
    obtain ⟨kind, henter, h⟩ := h
    split at h
    · simp only [Except.bind_eq_ok, Except.exists_unit, Except.failIf_eq_ok, not_not] at h
      obtain ⟨hlength, hfields⟩ := h
      exact hasType_of_enterValue henter
        (.record (fieldsHaveType_of_validateFields values hlength hfields))
    · cases h
  | .optionSome value, h => by
    rw [validateValueInner, Except.bind_eq_ok] at h
    obtain ⟨kind, henter, h⟩ := h
    split at h
    · exact hasType_of_enterValue henter (.optionSome (hasType_of_validateValueInner value h))
    · cases h
  | .resultOk value, h => by
    rw [validateValueInner, Except.bind_eq_ok] at h
    obtain ⟨kind, henter, h⟩ := h
    split at h
    · exact hasType_of_enterValue henter (.resultOk (hasType_of_validateValueInner value h))
    · cases h
  | .resultError value, h => by
    rw [validateValueInner, Except.bind_eq_ok] at h
    obtain ⟨kind, henter, h⟩ := h
    split at h
    · exact hasType_of_enterValue henter (.resultError (hasType_of_validateValueInner value h))
    · cases h
  | .boolean b, h => hasType_of_leaf (by simpa only [validateValueInner] using h)
  | .exactRational q, h => hasType_of_leaf (by simpa only [validateValueInner] using h)
  | .measurementInterval lower upper, h => hasType_of_leaf (by simpa only [validateValueInner] using h)
  | .canonicalI64 v, h => hasType_of_leaf (by simpa only [validateValueInner] using h)
  | .canonicalU64 v, h => hasType_of_leaf (by simpa only [validateValueInner] using h)
  | .text s, h => hasType_of_leaf (by simpa only [validateValueInner] using h)
  | .bytes bs, h => hasType_of_leaf (by simpa only [validateValueInner] using h)
  | .optionNone, h => hasType_of_leaf (by simpa only [validateValueInner] using h)
  | .resourceHandle handle, h => hasType_of_leaf (by simpa only [validateValueInner] using h)
  | .jobHandle handle, h => hasType_of_leaf (by simpa only [validateValueInner] using h)

theorem itemsHaveType_of_validateItems {element : GraphTypeId} {depth nodes final : Nat} :
    (items : List GraphValue) →
    validateItems tables element items depth nodes = .ok final →
    ItemsHaveType tables depth nodes element items final
  | [], h => by
    simp only [validateItems, Except.ok.injEq] at h
    subst h
    exact .nil
  | item :: items, h => by
    rw [validateItems, Except.bind_eq_ok] at h
    obtain ⟨middle, hitem, hitems⟩ := h
    exact .cons (hasType_of_validateValueInner item hitem)
      (itemsHaveType_of_validateItems items hitems)

theorem fieldsHaveType_of_validateFields {fields : List RecordField} {depth nodes final : Nat} :
    (values : List (RecordFieldId × GraphValue)) → fields.length = values.length →
    validateFields tables fields values depth nodes = .ok final →
    FieldsHaveType tables depth nodes fields values final
  | [], hlength, h => by
    obtain rfl := List.length_eq_zero_iff.1 hlength
    simp only [validateFields, Except.ok.injEq] at h
    subst h
    exact .nil
  | (id, value) :: values, hlength, h => by
    cases fields with
    | nil => simp at hlength
    | cons field fields =>
      simp only [validateFields, Except.bind_eq_ok, Except.exists_unit, Except.failIf_eq_ok,
        not_not] at h
      obtain ⟨rfl, middle, hvalue, hvalues⟩ := h
      exact .cons (hasType_of_validateValueInner value hvalue)
        (fieldsHaveType_of_validateFields values (by simpa using hlength) hvalues)

end

/-- A validated literal has a typing derivation from the root. -/
theorem hasType_of_validateValue {value : GraphValue}
    (h : validateValue tables valueType value = .ok ()) :
    ∃ final, HasType tables 1 0 valueType value final := by
  simp only [validateValue, Except.bind_eq_ok] at h
  obtain ⟨final, hinner, _⟩ := h
  exact ⟨final, hasType_of_validateValueInner value hinner⟩

end Checker

end Alumina.Graph
