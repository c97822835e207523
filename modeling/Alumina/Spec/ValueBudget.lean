import Alumina.Spec.ValueTyping

/-!
# What the literal checker decides

`validateValueInner` interleaves three questions: whether a literal has the shape of its type, how
deep it nests and how many nodes it has. This file answers them one by one: a shape judgement
without counters, the nesting and the node count of a literal, and the equivalence of the checker
with the three together.

Key results:
- `validateValueInner_eq_ok_iff`: the checker, its shape and its two budgets
- `validateValue_iff`: the same from the root
-/

namespace Alumina.Graph

open Except (failIf)

/-! ## The two measures of a literal -/

mutual

/-- Value nodes of a literal, the root included. -/
def GraphValue.nodeCount : GraphValue → Nat
  | .array items => 1 + itemsNodeCount items
  | .record fields => 1 + fieldsNodeCount fields
  | .optionSome value | .resultOk value | .resultError value => 1 + value.nodeCount
  | _ => 1

def itemsNodeCount : List GraphValue → Nat
  | [] => 0
  | item :: items => item.nodeCount + itemsNodeCount items

def fieldsNodeCount : List (RecordFieldId × GraphValue) → Nat
  | [] => 0
  | (_, value) :: fields => value.nodeCount + fieldsNodeCount fields

end

mutual

/-- Nesting levels of a literal, the root's own level included. -/
def GraphValue.nesting : GraphValue → Nat
  | .array items => 1 + itemsNesting items
  | .record fields => 1 + fieldsNesting fields
  | .optionSome value | .resultOk value | .resultError value => 1 + value.nesting
  | _ => 1

def itemsNesting : List GraphValue → Nat
  | [] => 0
  | item :: items => max item.nesting (itemsNesting items)

def fieldsNesting : List (RecordFieldId × GraphValue) → Nat
  | [] => 0
  | (_, value) :: fields => max value.nesting (fieldsNesting fields)

end

theorem nodeCount_le_of_mem {item : GraphValue} {items : List GraphValue} (h : item ∈ items) :
    item.nodeCount ≤ itemsNodeCount items := by
  induction items with
  | nil => cases h
  | cons first items ih =>
    rw [itemsNodeCount]
    cases h with
    | head => omega
    | tail _ h => have := ih h; omega

theorem nesting_le_of_mem {item : GraphValue} {items : List GraphValue} (h : item ∈ items) :
    item.nesting ≤ itemsNesting items := by
  induction items with
  | nil => cases h
  | cons first items ih =>
    rw [itemsNesting]
    cases h with
    | head => omega
    | tail _ h => have := ih h; omega

theorem nodeCount_le_of_mem_fields {pair : RecordFieldId × GraphValue}
    {fields : List (RecordFieldId × GraphValue)} (h : pair ∈ fields) :
    pair.2.nodeCount ≤ fieldsNodeCount fields := by
  induction fields with
  | nil => cases h
  | cons first fields ih =>
    rw [fieldsNodeCount]
    cases h with
    | head => omega
    | tail _ h => have := ih h; omega

theorem nesting_le_of_mem_fields {pair : RecordFieldId × GraphValue}
    {fields : List (RecordFieldId × GraphValue)} (h : pair ∈ fields) :
    pair.2.nesting ≤ fieldsNesting fields := by
  induction fields with
  | nil => cases h
  | cons first fields ih =>
    rw [fieldsNesting]
    cases h with
    | head => omega
    | tail _ h => have := ih h; omega

/-! ## The shape of a literal -/

/-- `Shaped tables valueType value`: the literal has the shape of the registered type, whatever
its depth and its size. -/
inductive Shaped (tables : SchemaTables) : GraphTypeId → GraphValue → Prop
  | leaf {valueType : GraphTypeId} {definition : TypeDefinition} {value : GraphValue}
      (hdefinition : tables.valueType valueType = some definition)
      (hleaf : validateLeaf tables valueType definition.kind value = .ok ()) :
      Shaped tables valueType value
  | array {valueType element : GraphTypeId} {definition : TypeDefinition} {maximumItems : UInt32}
      {items : List GraphValue}
      (hdefinition : tables.valueType valueType = some definition)
      (hkind : definition.kind = .array element maximumItems)
      (hbound : items.length ≤ maximumItems.toNat)
      (hlimit : items.length ≤ tables.limits.maximumArrayItems)
      (hitems : ∀ item ∈ items, Shaped tables element item) :
      Shaped tables valueType (.array items)
  | record {valueType : GraphTypeId} {definition : TypeDefinition} {fields : List RecordField}
      {values : List (RecordFieldId × GraphValue)}
      (hdefinition : tables.valueType valueType = some definition)
      (hkind : definition.kind = .record fields)
      (hids : fields.map RecordField.id = values.map Prod.fst)
      (hvalues : ∀ (i : Nat) (field : RecordField) (pair : RecordFieldId × GraphValue),
        fields[i]? = some field → values[i]? = some pair →
          Shaped tables field.valueType pair.2) :
      Shaped tables valueType (.record values)
  | optionSome {valueType inner : GraphTypeId} {definition : TypeDefinition} {value : GraphValue}
      (hdefinition : tables.valueType valueType = some definition)
      (hkind : definition.kind = .option inner) (hvalue : Shaped tables inner value) :
      Shaped tables valueType (.optionSome value)
  | resultOk {valueType ok error : GraphTypeId} {definition : TypeDefinition} {value : GraphValue}
      (hdefinition : tables.valueType valueType = some definition)
      (hkind : definition.kind = .result ok error) (hvalue : Shaped tables ok value) :
      Shaped tables valueType (.resultOk value)
  | resultError {valueType ok error : GraphTypeId} {definition : TypeDefinition}
      {value : GraphValue}
      (hdefinition : tables.valueType valueType = some definition)
      (hkind : definition.kind = .result ok error) (hvalue : Shaped tables error value) :
      Shaped tables valueType (.resultError value)

/-- A literal with nothing below it. -/
def GraphValue.IsLeaf : GraphValue → Prop
  | .array _ | .record _ | .optionSome _ | .resultOk _ | .resultError _ => False
  | _ => True

section Shape

variable {tables : SchemaTables} {valueType : GraphTypeId}

/-- The leaf checks refuse every literal with something below it. -/
theorem isLeaf_of_validateLeaf {kind : TypeKind} {value : GraphValue}
    (h : validateLeaf tables valueType kind value = .ok ()) : value.IsLeaf := by
  unfold validateLeaf at h
  split at h
  case h_11 => cases h
  all_goals trivial

theorem shaped_leaf_iff {value : GraphValue} (hleaf : value.IsLeaf) :
    Shaped tables valueType value ↔ ∃ definition, tables.valueType valueType = some definition ∧
      validateLeaf tables valueType definition.kind value = .ok () := by
  constructor
  · intro h
    cases h with
    | leaf hdefinition hchecked => exact ⟨_, hdefinition, hchecked⟩
    | _ => exact hleaf.elim
  · intro h
    obtain ⟨definition, hdefinition, hchecked⟩ := h
    exact .leaf hdefinition hchecked

theorem shaped_array_iff {items : List GraphValue} :
    Shaped tables valueType (.array items) ↔ ∃ definition element maximumItems,
      tables.valueType valueType = some definition ∧
      definition.kind = .array element maximumItems ∧ items.length ≤ maximumItems.toNat ∧
      items.length ≤ tables.limits.maximumArrayItems ∧
      ∀ item ∈ items, Shaped tables element item := by
  constructor
  · intro h
    cases h with
    | leaf _ hchecked => exact (isLeaf_of_validateLeaf hchecked).elim
    | array hdefinition hkind hbound hlimit hitems =>
      exact ⟨_, _, _, hdefinition, hkind, hbound, hlimit, hitems⟩
  · intro h
    obtain ⟨definition, element, maximumItems, hdefinition, hkind, hbound, hlimit, hitems⟩ := h
    exact .array hdefinition hkind hbound hlimit hitems

theorem shaped_record_iff {values : List (RecordFieldId × GraphValue)} :
    Shaped tables valueType (.record values) ↔ ∃ definition fields,
      tables.valueType valueType = some definition ∧ definition.kind = .record fields ∧
      fields.map RecordField.id = values.map Prod.fst ∧
      ∀ (i : Nat) (field : RecordField) (pair : RecordFieldId × GraphValue),
        fields[i]? = some field → values[i]? = some pair →
          Shaped tables field.valueType pair.2 := by
  constructor
  · intro h
    cases h with
    | leaf _ hchecked => exact (isLeaf_of_validateLeaf hchecked).elim
    | record hdefinition hkind hids hvalues => exact ⟨_, _, hdefinition, hkind, hids, hvalues⟩
  · intro h
    obtain ⟨definition, fields, hdefinition, hkind, hids, hvalues⟩ := h
    exact .record hdefinition hkind hids hvalues

theorem shaped_optionSome_iff {value : GraphValue} :
    Shaped tables valueType (.optionSome value) ↔ ∃ definition inner,
      tables.valueType valueType = some definition ∧ definition.kind = .option inner ∧
      Shaped tables inner value := by
  constructor
  · intro h
    cases h with
    | leaf _ hchecked => exact (isLeaf_of_validateLeaf hchecked).elim
    | optionSome hdefinition hkind hvalue => exact ⟨_, _, hdefinition, hkind, hvalue⟩
  · intro h
    obtain ⟨definition, inner, hdefinition, hkind, hvalue⟩ := h
    exact .optionSome hdefinition hkind hvalue

theorem shaped_resultOk_iff {value : GraphValue} :
    Shaped tables valueType (.resultOk value) ↔ ∃ definition ok error,
      tables.valueType valueType = some definition ∧ definition.kind = .result ok error ∧
      Shaped tables ok value := by
  constructor
  · intro h
    cases h with
    | leaf _ hchecked => exact (isLeaf_of_validateLeaf hchecked).elim
    | resultOk hdefinition hkind hvalue => exact ⟨_, _, _, hdefinition, hkind, hvalue⟩
  · intro h
    obtain ⟨definition, ok, error, hdefinition, hkind, hvalue⟩ := h
    exact .resultOk hdefinition hkind hvalue

theorem shaped_resultError_iff {value : GraphValue} :
    Shaped tables valueType (.resultError value) ↔ ∃ definition ok error,
      tables.valueType valueType = some definition ∧ definition.kind = .result ok error ∧
      Shaped tables error value := by
  constructor
  · intro h
    cases h with
    | leaf _ hchecked => exact (isLeaf_of_validateLeaf hchecked).elim
    | resultError hdefinition hkind hvalue => exact ⟨_, _, _, hdefinition, hkind, hvalue⟩
  · intro h
    obtain ⟨definition, ok, error, hdefinition, hkind, hvalue⟩ := h
    exact .resultError hdefinition hkind hvalue

end Shape

/-! ## The checker decides shape and budgets -/

section Checker

variable {tables : SchemaTables} {valueType : GraphTypeId} {depth nodes final : Nat}

/-- Counting the node is one half of every case of the checker. -/
theorem enterValue_bind_iff {next : TypeKind → Except GraphSchemaError Nat} :
    (enterValue tables valueType depth nodes >>= next) = .ok final ↔
      depth ≤ tables.limits.maximumValueDepth ∧ nodes + 1 ≤ tables.limits.maximumValueNodes ∧
        ∃ definition, tables.valueType valueType = some definition ∧
          next definition.kind = .ok final := by
  rw [Except.bind_eq_ok]
  constructor
  · intro h
    obtain ⟨kind, henter, hnext⟩ := h
    obtain ⟨hdepth, hnodes, definition, hdefinition, rfl⟩ := enterValue_eq_ok henter
    exact ⟨hdepth, hnodes, definition, hdefinition, hnext⟩
  · intro h
    obtain ⟨hdepth, hnodes, definition, hdefinition, hnext⟩ := h
    have henter : enterValue tables valueType depth nodes = .ok definition.kind := by
      simpa only [enterValue, Except.bind_eq_ok, Except.exists_unit, Except.failIf_eq_ok,
        Except.pure_eq_ok, not_lt, SchemaTables.requireType, Option.okOr_eq_ok] using
        ⟨hdepth, hnodes, definition, hdefinition, rfl⟩
    exact ⟨definition.kind, henter, hnext⟩

/-- What the checker decides about one literal. -/
def Checked (tables : SchemaTables) (valueType : GraphTypeId) (value : GraphValue)
    (depth nodes final : Nat) : Prop :=
  Shaped tables valueType value ∧ depth + value.nesting ≤ tables.limits.maximumValueDepth + 1 ∧
    nodes + value.nodeCount = final ∧ final ≤ tables.limits.maximumValueNodes

private theorem checked_leaf {value : GraphValue} (hleaf : value.IsLeaf) :
    validateValueInner tables valueType value depth nodes = .ok final ↔
      Checked tables valueType value depth nodes final := by
  have hunfold : validateValueInner tables valueType value depth nodes = (do
      let kind ← enterValue tables valueType depth nodes
      validateLeaf tables valueType kind value
      return nodes + 1) := by
    cases value <;> first | rfl | exact hleaf.elim
  have hcount : value.nodeCount = 1 := by
    cases value <;> first | rfl | exact hleaf.elim
  have hnesting : value.nesting = 1 := by
    cases value <;> first | rfl | exact hleaf.elim
  rw [hunfold, enterValue_bind_iff, Checked, shaped_leaf_iff hleaf, hcount, hnesting]
  simp only [Except.bind_eq_ok, Except.exists_unit, Except.pure_eq_ok]
  constructor
  · intro h
    obtain ⟨hdepth, hnodes, definition, hdefinition, hchecked, rfl⟩ := h
    exact ⟨⟨definition, hdefinition, hchecked⟩, by omega, rfl, hnodes⟩
  · intro h
    obtain ⟨⟨definition, hdefinition, hchecked⟩, hdepth, rfl, hnodes⟩ := h
    exact ⟨by omega, hnodes, definition, hdefinition, hchecked, rfl⟩

mutual

/-- Induction on the literal, following the checker's own recursion. -/
theorem validateValueInner_eq_ok_iff {valueType : GraphTypeId} {depth nodes final : Nat} :
    (value : GraphValue) →
    (validateValueInner tables valueType value depth nodes = .ok final ↔
      Checked tables valueType value depth nodes final)
  | .array items => by
    rw [validateValueInner, enterValue_bind_iff, Checked, shaped_array_iff, GraphValue.nesting,
      GraphValue.nodeCount]
    constructor
    · intro h
      obtain ⟨hdepth, hnodes, definition, hdefinition, h⟩ := h
      split at h
      case h_1 element maximumItems hkind =>
        simp only [Except.bind_eq_ok, Except.exists_unit, Except.failIf_eq_ok, not_or,
          not_lt] at h
        obtain ⟨⟨hbound, hlimit⟩, hitems⟩ := h
        rw [validateItems_eq_ok_iff items (by omega) hnodes] at hitems
        obtain ⟨hshaped, hnesting, hcount, hfinal⟩ := hitems
        exact ⟨⟨definition, element, maximumItems, hdefinition, hkind, hbound, hlimit, hshaped⟩,
          by omega, by omega, hfinal⟩
      case h_2 => cases h
    · intro h
      obtain ⟨⟨definition, element, maximumItems, hdefinition, hkind, hbound, hlimit, hshaped⟩,
        hnesting, hcount, hfinal⟩ := h
      refine ⟨by omega, by omega, definition, hdefinition, ?_⟩
      rw [hkind]
      simp only [Except.bind_eq_ok, Except.exists_unit, Except.failIf_eq_ok, not_or, not_lt]
      refine ⟨⟨hbound, hlimit⟩, ?_⟩
      rw [validateItems_eq_ok_iff items (by omega) (by omega)]
      exact ⟨hshaped, by omega, by omega, hfinal⟩
  | .record values => by
    rw [validateValueInner, enterValue_bind_iff, Checked, shaped_record_iff, GraphValue.nesting,
      GraphValue.nodeCount]
    constructor
    · intro h
      obtain ⟨hdepth, hnodes, definition, hdefinition, h⟩ := h
      split at h
      case h_1 fields hkind =>
        simp only [Except.bind_eq_ok, Except.exists_unit, Except.failIf_eq_ok, not_not] at h
        obtain ⟨hlength, hfields⟩ := h
        rw [validateFields_eq_ok_iff values hlength (by omega) hnodes] at hfields
        obtain ⟨hids, hshaped, hnesting, hcount, hfinal⟩ := hfields
        exact ⟨⟨definition, fields, hdefinition, hkind, hids, hshaped⟩, by omega, by omega,
          hfinal⟩
      case h_2 => cases h
    · intro h
      obtain ⟨⟨definition, fields, hdefinition, hkind, hids, hshaped⟩, hnesting, hcount,
        hfinal⟩ := h
      have hlength : fields.length = values.length := by
        simpa only [List.length_map] using congrArg List.length hids
      refine ⟨by omega, by omega, definition, hdefinition, ?_⟩
      rw [hkind]
      simp only [Except.bind_eq_ok, Except.exists_unit, Except.failIf_eq_ok, not_not]
      refine ⟨hlength, ?_⟩
      rw [validateFields_eq_ok_iff values hlength (by omega) (by omega)]
      exact ⟨hids, hshaped, by omega, by omega, hfinal⟩
  | .optionSome value => by
    rw [validateValueInner, enterValue_bind_iff, Checked, shaped_optionSome_iff,
      GraphValue.nesting, GraphValue.nodeCount]
    constructor
    · intro h
      obtain ⟨hdepth, hnodes, definition, hdefinition, h⟩ := h
      split at h
      case h_1 inner hkind =>
        obtain ⟨hshaped, hnesting, hcount, hfinal⟩ := (validateValueInner_eq_ok_iff value).1 h
        exact ⟨⟨definition, inner, hdefinition, hkind, hshaped⟩, by omega, by omega, hfinal⟩
      case h_2 => cases h
    · intro h
      obtain ⟨⟨definition, inner, hdefinition, hkind, hshaped⟩, hnesting, hcount, hfinal⟩ := h
      refine ⟨by omega, by omega, definition, hdefinition, ?_⟩
      rw [hkind]
      exact (validateValueInner_eq_ok_iff value).2 ⟨hshaped, by omega, by omega, hfinal⟩
  | .resultOk value => by
    rw [validateValueInner, enterValue_bind_iff, Checked, shaped_resultOk_iff,
      GraphValue.nesting, GraphValue.nodeCount]
    constructor
    · intro h
      obtain ⟨hdepth, hnodes, definition, hdefinition, h⟩ := h
      split at h
      case h_1 ok error hkind =>
        obtain ⟨hshaped, hnesting, hcount, hfinal⟩ := (validateValueInner_eq_ok_iff value).1 h
        exact ⟨⟨definition, ok, error, hdefinition, hkind, hshaped⟩, by omega, by omega, hfinal⟩
      case h_2 => cases h
    · intro h
      obtain ⟨⟨definition, ok, error, hdefinition, hkind, hshaped⟩, hnesting, hcount,
        hfinal⟩ := h
      refine ⟨by omega, by omega, definition, hdefinition, ?_⟩
      rw [hkind]
      exact (validateValueInner_eq_ok_iff value).2 ⟨hshaped, by omega, by omega, hfinal⟩
  | .resultError value => by
    rw [validateValueInner, enterValue_bind_iff, Checked, shaped_resultError_iff,
      GraphValue.nesting, GraphValue.nodeCount]
    constructor
    · intro h
      obtain ⟨hdepth, hnodes, definition, hdefinition, h⟩ := h
      split at h
      case h_1 ok error hkind =>
        obtain ⟨hshaped, hnesting, hcount, hfinal⟩ := (validateValueInner_eq_ok_iff value).1 h
        exact ⟨⟨definition, ok, error, hdefinition, hkind, hshaped⟩, by omega, by omega, hfinal⟩
      case h_2 => cases h
    · intro h
      obtain ⟨⟨definition, ok, error, hdefinition, hkind, hshaped⟩, hnesting, hcount,
        hfinal⟩ := h
      refine ⟨by omega, by omega, definition, hdefinition, ?_⟩
      rw [hkind]
      exact (validateValueInner_eq_ok_iff value).2 ⟨hshaped, by omega, by omega, hfinal⟩
  | .boolean b => checked_leaf (by trivial)
  | .exactRational q => checked_leaf (by trivial)
  | .measurementInterval lower upper => checked_leaf (by trivial)
  | .canonicalI64 v => checked_leaf (by trivial)
  | .canonicalU64 v => checked_leaf (by trivial)
  | .text s => checked_leaf (by trivial)
  | .bytes bs => checked_leaf (by trivial)
  | .optionNone => checked_leaf (by trivial)
  | .resourceHandle handle => checked_leaf (by trivial)
  | .jobHandle handle => checked_leaf (by trivial)

theorem validateItems_eq_ok_iff {element : GraphTypeId} {depth nodes final : Nat} :
    (items : List GraphValue) → depth ≤ tables.limits.maximumValueDepth + 1 →
    nodes ≤ tables.limits.maximumValueNodes →
    (validateItems tables element items depth nodes = .ok final ↔
      (∀ item ∈ items, Shaped tables element item) ∧
        depth + itemsNesting items ≤ tables.limits.maximumValueDepth + 1 ∧
        nodes + itemsNodeCount items = final ∧ final ≤ tables.limits.maximumValueNodes)
  | [], hdepth, hnodes => by
    simp only [validateItems, itemsNesting, itemsNodeCount, Except.ok.injEq, List.not_mem_nil,
      false_implies, implies_true, true_and]
    omega
  | item :: items, hdepth, hnodes => by
    rw [validateItems, Except.bind_eq_ok, itemsNesting, itemsNodeCount, List.forall_mem_cons]
    constructor
    · intro h
      obtain ⟨middle, hitem, hitems⟩ := h
      obtain ⟨hshaped, hnesting, hcount, hmiddle⟩ := (validateValueInner_eq_ok_iff item).1 hitem
      obtain ⟨hrest, hdeep, htotal, hfinal⟩ :=
        (validateItems_eq_ok_iff items hdepth hmiddle).1 hitems
      exact ⟨⟨hshaped, hrest⟩, by omega, by omega, hfinal⟩
    · intro h
      obtain ⟨⟨hshaped, hrest⟩, hdeep, htotal, hfinal⟩ := h
      have hmiddle : nodes + item.nodeCount ≤ tables.limits.maximumValueNodes := by omega
      exact ⟨nodes + item.nodeCount,
        (validateValueInner_eq_ok_iff item).2 ⟨hshaped, by omega, rfl, hmiddle⟩,
        (validateItems_eq_ok_iff items hdepth hmiddle).2 ⟨hrest, by omega, by omega, hfinal⟩⟩

theorem validateFields_eq_ok_iff {fields : List RecordField} {depth nodes final : Nat} :
    (values : List (RecordFieldId × GraphValue)) → fields.length = values.length →
    depth ≤ tables.limits.maximumValueDepth + 1 → nodes ≤ tables.limits.maximumValueNodes →
    (validateFields tables fields values depth nodes = .ok final ↔
      fields.map RecordField.id = values.map Prod.fst ∧
        (∀ (i : Nat) (field : RecordField) (pair : RecordFieldId × GraphValue),
          fields[i]? = some field → values[i]? = some pair →
            Shaped tables field.valueType pair.2) ∧
        depth + fieldsNesting values ≤ tables.limits.maximumValueDepth + 1 ∧
        nodes + fieldsNodeCount values = final ∧ final ≤ tables.limits.maximumValueNodes)
  | [], hlength, hdepth, hnodes => by
    obtain rfl := List.length_eq_zero_iff.1 hlength
    simp only [validateFields, fieldsNesting, fieldsNodeCount, Except.ok.injEq, List.map_nil,
      List.getElem?_nil, reduceCtorEq, false_implies, implies_true, true_and]
    omega
  | (id, value) :: values, hlength, hdepth, hnodes => by
    cases fields with
    | nil => simp at hlength
    | cons field fields =>
      have hrestLength : fields.length = values.length := by simpa using hlength
      rw [validateFields, fieldsNesting, fieldsNodeCount]
      simp only [Except.bind_eq_ok, Except.exists_unit, Except.failIf_eq_ok, not_not,
        List.map_cons, List.cons.injEq]
      constructor
      · intro h
        obtain ⟨hid, middle, hvalue, hvalues⟩ := h
        obtain ⟨hshaped, hnesting, hcount, hmiddle⟩ :=
          (validateValueInner_eq_ok_iff value).1 hvalue
        obtain ⟨hids, hrest, hdeep, htotal, hfinal⟩ :=
          (validateFields_eq_ok_iff values hrestLength hdepth hmiddle).1 hvalues
        refine ⟨⟨hid, hids⟩, ?_, by omega, by omega, hfinal⟩
        intro i other pair hother hpair
        cases i with
        | zero =>
          cases hother
          cases hpair
          exact hshaped
        | succ i => exact hrest i other pair hother hpair
      · intro h
        obtain ⟨⟨hid, hids⟩, hshaped, hdeep, htotal, hfinal⟩ := h
        have hmiddle : nodes + value.nodeCount ≤ tables.limits.maximumValueNodes := by omega
        have hfirst : Shaped tables field.valueType value := hshaped 0 field (id, value) rfl rfl
        refine ⟨hid, nodes + value.nodeCount,
          (validateValueInner_eq_ok_iff value).2 ⟨hfirst, by omega, rfl, hmiddle⟩,
          (validateFields_eq_ok_iff values hrestLength hdepth hmiddle).2 ⟨hids, ?_, by omega,
            by omega, hfinal⟩⟩
        intro i other pair hother hpair
        exact hshaped (i + 1) other pair hother hpair

end

/-- A literal stays within the nesting and node budgets of a schema. -/
def WithinBudgets (tables : SchemaTables) (value : GraphValue) : Prop :=
  value.nesting ≤ tables.limits.maximumValueDepth ∧
    value.nodeCount ≤ tables.limits.maximumValueNodes

instance (tables : SchemaTables) (value : GraphValue) : Decidable (WithinBudgets tables value) :=
  inferInstanceAs (Decidable (_ ∧ _))

/-- A literal validates when it has the shape of its type and stays within both budgets. -/
theorem validateValue_iff {value : GraphValue} :
    validateValue tables valueType value = .ok () ↔
      Shaped tables valueType value ∧ WithinBudgets tables value := by
  have hinner : validateValue tables valueType value = .ok () ↔
      ∃ final, Checked tables valueType value 1 0 final := by
    simp only [validateValue, Except.bind_eq_ok, validateValueInner_eq_ok_iff, Except.pure_eq_ok,
      and_true]
  rw [hinner]
  constructor
  · intro h
    obtain ⟨final, hshaped, hnesting, hcount, hfinal⟩ := h
    exact ⟨hshaped, by omega, by omega⟩
  · intro h
    obtain ⟨hshaped, hnesting, hcount⟩ := h
    exact ⟨value.nodeCount, hshaped, by omega, by omega, hcount⟩

end Checker

end Alumina.Graph
