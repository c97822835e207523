import Alumina.Graph.ValuePath
import Alumina.Spec.ValueBudget

/-!
# Reading and replacing along a value path

Resolving a path and replacing the value it addresses are written as two recursions. Both descend
by the same step: a segment either focuses on one child of a composite, with the way to put another
child in its place, or fails. This file states that step once, shows that both recursions are its
iteration, and derives the laws of a lens from the laws of one step.

Key results:
- `resolveGraphValuePath_cons`, `replaceGraphValueAtPath_cons`: both recursions by the one step
- `resolve_replaced`, `resolve_other`, `replace_self`: the laws of a path
- `valuePathLens`: the laws of the validated operations, and when a replacement succeeds
-/

namespace Alumina.Graph

open Except (failIf)

/-! ## One step -/

/-- One child of a composite, and the composite with another child in its place. -/
structure GraphValueFocus where
  valueType : GraphTypeId
  value : GraphValue
  rebuild : GraphValue → GraphValue

/-- The item of an array at an index. -/
def focusItem (element : GraphTypeId) (items : List GraphValue) (index : UInt32) (depth : Nat) :
    Except GraphValuePathError GraphValueFocus := do
  let item ← (items[index.toNat]?).okOr (.arrayIndexOutOfBounds depth index items.length)
  pure ⟨element, item, fun other => .array (items.set index.toNat other)⟩

/-- The value of a record under a field. -/
def focusField (fields : List RecordField) (values : List (RecordFieldId × GraphValue))
    (field : RecordFieldId) (depth : Nat) : Except GraphValuePathError GraphValueFocus := do
  let (index, registered) ← (fieldAt fields field).okOr (.unknownRecordField depth field)
  let (_, retained) ← ((values[index]?).filter (·.1 = field)).okOr (.schema .recordShape)
  pure ⟨registered.valueType, retained, fun other => .record (values.set index (field, other))⟩

/-- The child that one segment addresses in a value of a type shape. -/
def focusKind (kind : TypeKind) (valueType : GraphTypeId) (value : GraphValue)
    (segment : GraphValuePathSegment) (depth : Nat) :
    Except GraphValuePathError GraphValueFocus :=
  match value, kind, segment with
  | .array items, .array element _, .arrayIndex index => focusItem element items index depth
  | .record values, .record fields, .recordField field => focusField fields values field depth
  | .optionSome value, .option inner, .optionSome => .ok ⟨inner, value, .optionSome⟩
  | .optionNone, .option _, .optionSome | .resultError _, .result _ _, .resultOk
  | .resultOk _, .result _ _, .resultError => .error (.inactiveBranch depth segment)
  | .resultOk value, .result ok _, .resultOk => .ok ⟨ok, value, .resultOk⟩
  | .resultError value, .result _ error, .resultError => .ok ⟨error, value, .resultError⟩
  | _, _, _ => .error (.invalidSegment depth segment valueType value.kind)

/-- The child that one segment addresses. -/
def focus (tables : SchemaTables) (valueType : GraphTypeId) (value : GraphValue)
    (segment : GraphValuePathSegment) (depth : Nat) :
    Except GraphValuePathError GraphValueFocus := do
  let definition ← (tables.valueType valueType).okOr (.schema (.unknownType valueType))
  focusKind definition.kind valueType value segment depth

section Step

variable {tables : SchemaTables} {valueType : GraphTypeId} {value : GraphValue}
  {segment : GraphValuePathSegment} {remaining : List GraphValuePathSegment} {depth : Nat}

theorem focusItem_bind {α : Type} {element : GraphTypeId} {items : List GraphValue}
    {index : UInt32} {next : GraphValueFocus → Except GraphValuePathError α} :
    (focusItem element items index depth >>= next) = (do
      let item ← (items[index.toNat]?).okOr (.arrayIndexOutOfBounds depth index items.length)
      next ⟨element, item, fun other => .array (items.set index.toNat other)⟩) := by
  unfold focusItem
  cases items[index.toNat]? <;> rfl

theorem focusField_bind {α : Type} {fields : List RecordField}
    {values : List (RecordFieldId × GraphValue)} {field : RecordFieldId}
    {next : GraphValueFocus → Except GraphValuePathError α} :
    (focusField fields values field depth >>= next) = (do
      let (index, registered) ← (fieldAt fields field).okOr (.unknownRecordField depth field)
      let (_, retained) ← ((values[index]?).filter (·.1 = field)).okOr (.schema .recordShape)
      next ⟨registered.valueType, retained,
        fun other => .record (values.set index (field, other))⟩) := by
  unfold focusField
  cases fieldAt fields field with
  | none => rfl
  | some found =>
    change _ = ((values[found.1]?).filter (·.1 = field)).okOr _ >>= _
    change (((values[found.1]?).filter (·.1 = field)).okOr _ >>= _) >>= _ = _
    cases (values[found.1]?).filter (·.1 = field) <;> rfl

/-- Resolving a path is resolving its first segment and then the rest. -/
theorem resolveGraphValuePath_cons :
    resolveGraphValuePath tables valueType value (segment :: remaining) depth = (do
      let child ← focus tables valueType value segment depth
      resolveGraphValuePath tables child.valueType child.value remaining (depth + 1)) := by
  rw [resolveGraphValuePath, focus, bind_assoc]
  congr 1
  funext definition
  generalize definition.kind = kind
  unfold focusKind
  split
  case h_1 => simp only [focusItem_bind]
  case h_2 => simp only [focusField_bind]
  case h_9 =>
    split
    case h_9 => rfl
    all_goals grind
  all_goals rfl

/-- Replacing along a path is replacing below its first segment. -/
theorem replaceGraphValueAtPath_cons {replacement : GraphValue} :
    replaceGraphValueAtPath tables valueType value (segment :: remaining) depth replacement = (do
      let child ← focus tables valueType value segment depth
      let changed ← replaceGraphValueAtPath tables child.valueType child.value remaining (depth + 1)
        replacement
      pure (child.rebuild changed)) := by
  rw [replaceGraphValueAtPath, focus, bind_assoc]
  congr 1
  funext definition
  generalize definition.kind = kind
  unfold focusKind
  dsimp only
  split
  case h_1 =>
    split
    case h_1 => simp only [focusItem_bind]
    case h_2 => cases value <;> first | rfl | grind
  case h_2 =>
    split
    case h_1 => simp only [focusField_bind]
    case h_2 => cases value <;> first | rfl | grind
  case h_3 => cases value <;> rfl
  case h_4 => cases value <;> rfl
  case h_5 => cases value <;> rfl
  case h_6 =>
    split
    case h_9 => rfl
    all_goals grind

end Step

/-! ## The laws of one step -/

/-- Where a segment finds a child, by the shape of the type. -/
inductive Focuses (tables : SchemaTables) :
    GraphTypeId → GraphValue → GraphValuePathSegment → GraphValueFocus → Prop
  | array {valueType element : GraphTypeId} {definition : TypeDefinition} {maximumItems : UInt32}
      {items : List GraphValue} {index : UInt32} {item : GraphValue}
      (hdefinition : tables.valueType valueType = some definition)
      (hkind : definition.kind = .array element maximumItems)
      (hitem : items[index.toNat]? = some item) :
      Focuses tables valueType (.array items) (.arrayIndex index)
        ⟨element, item, fun other => .array (items.set index.toNat other)⟩
  | record {valueType : GraphTypeId} {definition : TypeDefinition} {fields : List RecordField}
      {values : List (RecordFieldId × GraphValue)} {field : RecordFieldId} {index : Nat}
      {registered : RecordField} {retained : GraphValue}
      (hdefinition : tables.valueType valueType = some definition)
      (hkind : definition.kind = .record fields)
      (hfield : fieldAt fields field = some (index, registered))
      (hvalue : values[index]? = some (field, retained)) :
      Focuses tables valueType (.record values) (.recordField field)
        ⟨registered.valueType, retained, fun other => .record (values.set index (field, other))⟩
  | optionSome {valueType inner : GraphTypeId} {definition : TypeDefinition} {value : GraphValue}
      (hdefinition : tables.valueType valueType = some definition)
      (hkind : definition.kind = .option inner) :
      Focuses tables valueType (.optionSome value) .optionSome ⟨inner, value, .optionSome⟩
  | resultOk {valueType ok error : GraphTypeId} {definition : TypeDefinition} {value : GraphValue}
      (hdefinition : tables.valueType valueType = some definition)
      (hkind : definition.kind = .result ok error) :
      Focuses tables valueType (.resultOk value) .resultOk ⟨ok, value, .resultOk⟩
  | resultError {valueType ok error : GraphTypeId} {definition : TypeDefinition}
      {value : GraphValue}
      (hdefinition : tables.valueType valueType = some definition)
      (hkind : definition.kind = .result ok error) :
      Focuses tables valueType (.resultError value) .resultError ⟨error, value, .resultError⟩

section Laws

variable {tables : SchemaTables} {valueType : GraphTypeId} {value : GraphValue}
  {segment : GraphValuePathSegment} {depth : Nat} {child : GraphValueFocus}

theorem fieldAt_eq_some {fields : List RecordField} {field : RecordFieldId} {index : Nat}
    {registered : RecordField} (h : fieldAt fields field = some (index, registered)) :
    fields[index]? = some registered ∧ registered.id = field := by
  simp only [fieldAt, Option.bind_eq_bind, Option.bind_eq_some_iff, Option.pure_def,
    Option.some.injEq, Prod.mk.injEq] at h
  obtain ⟨position, hsearch, other, hother, rfl, rfl⟩ := h
  have hkey := Table.binarySearch_eq_some hsearch
  rw [hother, Option.map_some, Option.some.injEq] at hkey
  exact ⟨hother, hkey⟩

theorem focusItem_of_getElem {element : GraphTypeId} {items : List GraphValue} {index : UInt32}
    {item : GraphValue} (h : items[index.toNat]? = some item) :
    focusItem element items index depth =
      .ok ⟨element, item, fun other => .array (items.set index.toNat other)⟩ := by
  rw [focusItem, h]
  rfl

theorem focusField_of_getElem {fields : List RecordField}
    {values : List (RecordFieldId × GraphValue)} {field : RecordFieldId} {index : Nat}
    {registered : RecordField} {retained : GraphValue}
    (hfield : fieldAt fields field = some (index, registered))
    (hvalue : values[index]? = some (field, retained)) :
    focusField fields values field depth =
      .ok ⟨registered.valueType, retained,
        fun other => .record (values.set index (field, other))⟩ := by
  have hfilter : (values[index]?).filter (·.1 = field) = some (field, retained) := by
    simp only [hvalue, Option.filter_some, decide_true, if_true]
  rw [focusField, hfield]
  change (((values[index]?).filter (·.1 = field)).okOr _ >>= _) = _
  rw [hfilter]
  rfl

/-- A segment that finds a child finds it by one of the five rules. -/
theorem focuses_of_focus (h : focus tables valueType value segment depth = .ok child) :
    Focuses tables valueType value segment child := by
  rw [focus, Except.bind_eq_ok] at h
  obtain ⟨definition, hdefinition, h⟩ := h
  rw [Option.okOr_eq_ok] at hdefinition
  unfold focusKind at h
  split at h
  case h_1 items element maximumItems index hkind =>
    simp only [focusItem, Except.bind_eq_ok, Option.okOr_eq_ok, Except.pure_eq_ok] at h
    obtain ⟨item, hitem, rfl⟩ := h
    exact .array hdefinition hkind hitem
  case h_2 values fields field hkind =>
    simp only [focusField, Except.bind_eq_ok, Option.okOr_eq_ok, Except.pure_eq_ok,
      Option.filter_eq_some_iff, decide_eq_true_eq] at h
    obtain ⟨found, hfield, retained, ⟨hvalue, rfl⟩, rfl⟩ := h
    exact .record hdefinition hkind hfield hvalue
  case h_3 hkind =>
    cases h
    exact .optionSome hdefinition hkind
  case h_7 hkind =>
    cases h
    exact .resultOk hdefinition hkind
  case h_8 hkind =>
    cases h
    exact .resultError hdefinition hkind
  all_goals cases h

theorem focus_of_definition {definition : TypeDefinition}
    (h : tables.valueType valueType = some definition) :
    focus tables valueType value segment depth =
      focusKind definition.kind valueType value segment depth := by
  rw [focus, h]
  rfl

theorem Focuses.focus_eq (h : Focuses tables valueType value segment child) :
    focus tables valueType value segment depth = .ok child := by
  cases h with
  | array hdefinition hkind hitem =>
    rw [focus_of_definition hdefinition, hkind]
    exact focusItem_of_getElem hitem
  | record hdefinition hkind hfield hvalue =>
    rw [focus_of_definition hdefinition, hkind]
    exact focusField_of_getElem hfield hvalue
  | optionSome hdefinition hkind =>
    rw [focus_of_definition hdefinition, hkind]
    rfl
  | resultOk hdefinition hkind =>
    rw [focus_of_definition hdefinition, hkind]
    rfl
  | resultError hdefinition hkind =>
    rw [focus_of_definition hdefinition, hkind]
    rfl

/-- Putting the child back changes nothing. -/
theorem Focuses.rebuild_self (h : Focuses tables valueType value segment child) :
    child.rebuild child.value = value := by
  cases h with
  | array _ _ hitem =>
    obtain ⟨hlt, rfl⟩ := List.getElem?_eq_some_iff.1 hitem
    simp only [List.set_getElem_self]
  | record _ _ _ hvalue =>
    obtain ⟨hlt, hget⟩ := List.getElem?_eq_some_iff.1 hvalue
    simp only [← hget, List.set_getElem_self]
  | optionSome _ _ => rfl
  | resultOk _ _ => rfl
  | resultError _ _ => rfl

/-- The child that was put is the child found, in the same place. -/
theorem Focuses.rebuild (h : Focuses tables valueType value segment child) (other : GraphValue) :
    Focuses tables valueType (child.rebuild other) segment
      ⟨child.valueType, other, child.rebuild⟩ := by
  cases h with
  | @array element _ _ items index _ hdefinition hkind hitem =>
    have hlt := (List.getElem?_eq_some_iff.1 hitem).1
    have hplaced : Focuses tables valueType (.array (items.set index.toNat other))
        (.arrayIndex index) ⟨element, other,
          fun next => .array ((items.set index.toNat other).set index.toNat next)⟩ :=
      .array hdefinition hkind (List.getElem?_set_self hlt)
    simpa only [List.set_set] using hplaced
  | @record _ _ values field index registered _ hdefinition hkind hfield hvalue =>
    have hlt := (List.getElem?_eq_some_iff.1 hvalue).1
    have hplaced : Focuses tables valueType (.record (values.set index (field, other)))
        (.recordField field) ⟨registered.valueType, other,
          fun next => .record ((values.set index (field, other)).set index (field, next))⟩ :=
      .record hdefinition hkind hfield (List.getElem?_set_self hlt)
    simpa only [List.set_set] using hplaced
  | optionSome hdefinition hkind => exact .optionSome hdefinition hkind
  | resultOk hdefinition hkind => exact .resultOk hdefinition hkind
  | resultError hdefinition hkind => exact .resultError hdefinition hkind

/-- The part of a focus that reading depends on. -/
def GraphValueFocus.target (child : GraphValueFocus) : GraphTypeId × GraphValue :=
  (child.valueType, child.value)

/-- Every other segment finds what it found before, or fails as it failed before. -/
theorem Focuses.focus_other (h : Focuses tables valueType value segment child)
    {other : GraphValuePathSegment} (hne : segment ≠ other) (changed : GraphValue) :
    (focus tables valueType (child.rebuild changed) other depth).map GraphValueFocus.target =
      (focus tables valueType value other depth).map GraphValueFocus.target := by
  cases h with
  | @array element _ _ items index _ hdefinition hkind _ =>
    rw [focus_of_definition hdefinition, focus_of_definition hdefinition, hkind]
    cases other with
    | arrayIndex position =>
      have hposition : index.toNat ≠ position.toNat := by
        intro heq
        exact hne (congrArg _ (UInt32.toNat_inj.1 heq))
      change (focusItem element (items.set index.toNat changed) position depth).map _ =
        (focusItem element items position depth).map _
      rw [focusItem, focusItem, List.getElem?_set_ne hposition, List.length_set]
      cases items[position.toNat]? <;> rfl
    | _ => rfl
  | @record _ fields values field index registered _ hdefinition hkind hfield _ =>
    rw [focus_of_definition hdefinition, focus_of_definition hdefinition, hkind]
    cases other with
    | recordField another =>
      change (focusField fields (values.set index (field, changed)) another depth).map _ =
        (focusField fields values another depth).map _
      rw [focusField, focusField]
      cases hother : fieldAt fields another with
      | none => rfl
      | some found =>
        -- two fields registered at one position are one field
        have hposition : index ≠ found.1 := by
          intro heq
          obtain ⟨hregistered, hid⟩ := fieldAt_eq_some hfield
          obtain ⟨hfound, hother⟩ := fieldAt_eq_some hother
          rw [← heq, hregistered, Option.some.injEq] at hfound
          exact hne (by rw [← hid, ← hother, hfound])
        change ((((values.set index (field, changed))[found.1]?).filter (·.1 = another)).okOr _ >>=
          _).map _ = (((values[found.1]?).filter (·.1 = another)).okOr _ >>= _).map _
        rw [List.getElem?_set_ne hposition]
        cases (values[found.1]?).filter (·.1 = another) <;> rfl
    | _ => rfl
  | optionSome hdefinition hkind =>
    rw [focus_of_definition hdefinition, focus_of_definition hdefinition, hkind]
    cases other <;> first | rfl | exact absurd rfl hne
  | resultOk hdefinition hkind =>
    rw [focus_of_definition hdefinition, focus_of_definition hdefinition, hkind]
    cases other <;> first | rfl | exact absurd rfl hne
  | resultError hdefinition hkind =>
    rw [focus_of_definition hdefinition, focus_of_definition hdefinition, hkind]
    cases other <;> first | rfl | exact absurd rfl hne

/-- The child of a well-shaped value is well shaped. -/
theorem Focuses.shaped (h : Focuses tables valueType value segment child)
    (hshaped : Shaped tables valueType value) : Shaped tables child.valueType child.value := by
  cases h with
  | array hdefinition hkind hitem =>
    obtain ⟨definition, element, maximumItems, hfound, hother, _, _, hitems⟩ :=
      shaped_array_iff.1 hshaped
    rw [hdefinition] at hfound
    cases hfound
    rw [hkind] at hother
    cases hother
    exact hitems _ (List.mem_of_getElem? hitem)
  | record hdefinition hkind hfield hvalue =>
    obtain ⟨definition, fields, hfound, hother, _, hvalues⟩ := shaped_record_iff.1 hshaped
    rw [hdefinition] at hfound
    cases hfound
    rw [hkind] at hother
    cases hother
    exact hvalues _ _ _ (fieldAt_eq_some hfield).1 hvalue
  | optionSome hdefinition hkind =>
    obtain ⟨definition, inner, hfound, hother, hvalue⟩ := shaped_optionSome_iff.1 hshaped
    rw [hdefinition] at hfound
    cases hfound
    rw [hkind] at hother
    cases hother
    exact hvalue
  | resultOk hdefinition hkind =>
    obtain ⟨definition, ok, error, hfound, hother, hvalue⟩ := shaped_resultOk_iff.1 hshaped
    rw [hdefinition] at hfound
    cases hfound
    rw [hkind] at hother
    cases hother
    exact hvalue
  | resultError hdefinition hkind =>
    obtain ⟨definition, ok, error, hfound, hother, hvalue⟩ := shaped_resultError_iff.1 hshaped
    rw [hdefinition] at hfound
    cases hfound
    rw [hkind] at hother
    cases hother
    exact hvalue

/-- A well-shaped child put in place leaves a well-shaped value. -/
theorem Focuses.shaped_rebuild (h : Focuses tables valueType value segment child)
    (hshaped : Shaped tables valueType value) {changed : GraphValue}
    (hchanged : Shaped tables child.valueType changed) :
    Shaped tables valueType (child.rebuild changed) := by
  cases h with
  | @array _ _ _ items index _ hdefinition hkind _ =>
    obtain ⟨definition, element, maximumItems, hfound, hother, hbound, hlimit, hitems⟩ :=
      shaped_array_iff.1 hshaped
    rw [hdefinition] at hfound
    cases hfound
    rw [hkind] at hother
    cases hother
    refine .array hdefinition hkind (by rwa [List.length_set]) (by rwa [List.length_set]) ?_
    intro item hmem
    rcases List.mem_or_eq_of_mem_set hmem with hmem | rfl
    · exact hitems item hmem
    · exact hchanged
  | @record _ _ values field index registered _ hdefinition hkind hfield hvalue =>
    obtain ⟨definition, fields, hfound, hother, hids, hvalues⟩ := shaped_record_iff.1 hshaped
    rw [hdefinition] at hfound
    cases hfound
    rw [hkind] at hother
    cases hother
    obtain ⟨hlt, hget⟩ := List.getElem?_eq_some_iff.1 hvalue
    refine .record hdefinition hkind ?_ ?_
    · have hfirst : (values.map Prod.fst)[index]? = some field := by
        rw [List.getElem?_map, hvalue]
        rfl
      obtain ⟨hplace, hsame⟩ := List.getElem?_eq_some_iff.1 hfirst
      rw [hids, List.map_set, ← hsame, List.set_getElem_self]
    · intro i other pair hother hpair
      by_cases hindex : index = i
      · subst hindex
        rw [List.getElem?_set_self hlt, Option.some.injEq] at hpair
        rw [(fieldAt_eq_some hfield).1, Option.some.injEq] at hother
        subst hpair hother
        exact hchanged
      · rw [List.getElem?_set_ne hindex] at hpair
        exact hvalues i other pair hother hpair
  | optionSome hdefinition hkind => exact .optionSome hdefinition hkind hchanged
  | resultOk hdefinition hkind => exact .resultOk hdefinition hkind hchanged
  | resultError hdefinition hkind => exact .resultError hdefinition hkind hchanged

/-- The child nests less deep than the value. -/
theorem Focuses.nesting_le (h : Focuses tables valueType value segment child) :
    child.value.nesting ≤ value.nesting := by
  cases h with
  | array _ _ hitem =>
    have hle := nesting_le_of_mem (List.mem_of_getElem? hitem)
    simp only [GraphValue.nesting]
    omega
  | record _ _ _ hvalue =>
    have hle := nesting_le_of_mem_fields (List.mem_of_getElem? hvalue)
    simp only [GraphValue.nesting] at hle ⊢
    omega
  | optionSome _ _ => simp only [GraphValue.nesting]; omega
  | resultOk _ _ => simp only [GraphValue.nesting]; omega
  | resultError _ _ => simp only [GraphValue.nesting]; omega

/-- The child has no more nodes than the value. -/
theorem Focuses.nodeCount_le (h : Focuses tables valueType value segment child) :
    child.value.nodeCount ≤ value.nodeCount := by
  cases h with
  | array _ _ hitem =>
    have hle := nodeCount_le_of_mem (List.mem_of_getElem? hitem)
    simp only [GraphValue.nodeCount]
    omega
  | record _ _ _ hvalue =>
    have hle := nodeCount_le_of_mem_fields (List.mem_of_getElem? hvalue)
    simp only [GraphValue.nodeCount] at hle ⊢
    omega
  | optionSome _ _ => simp only [GraphValue.nodeCount]; omega
  | resultOk _ _ => simp only [GraphValue.nodeCount]; omega
  | resultError _ _ => simp only [GraphValue.nodeCount]; omega

end Laws

/-! ## The laws of a path -/

section Paths

variable {tables : SchemaTables} {path : List GraphValuePathSegment} {valueType : GraphTypeId}
  {value : GraphValue} {depth : Nat} {target : GraphTypeId} {current replacement : GraphValue}
  {candidate : GraphValue}

/-- Wherever reading succeeds, so does the replacing recursion. -/
theorem exists_replaced
    (hread : resolveGraphValuePath tables valueType value path depth = .ok (target, current)) :
    ∃ candidate,
      replaceGraphValueAtPath tables valueType value path depth replacement = .ok candidate := by
  induction path generalizing valueType value depth with
  | nil => exact ⟨replacement, rfl⟩
  | cons segment remaining ih =>
    rw [resolveGraphValuePath_cons, Except.bind_eq_ok] at hread
    obtain ⟨child, hfocus, hread⟩ := hread
    obtain ⟨changed, hchanged⟩ := ih hread
    refine ⟨child.rebuild changed, ?_⟩
    rw [replaceGraphValueAtPath_cons, hfocus]
    exact Except.bind_of_ok hchanged

/-- The first segment and the rest of a replacement that went through. -/
theorem replaced_cons {segment : GraphValuePathSegment} {remaining : List GraphValuePathSegment}
    (hreplace : replaceGraphValueAtPath tables valueType value (segment :: remaining) depth
      replacement = .ok candidate) :
    ∃ child changed, Focuses tables valueType value segment child ∧
      replaceGraphValueAtPath tables child.valueType child.value remaining (depth + 1)
        replacement = .ok changed ∧ candidate = child.rebuild changed := by
  simp only [replaceGraphValueAtPath_cons, Except.bind_eq_ok, Except.pure_eq_ok] at hreplace
  obtain ⟨child, hfocus, changed, hchanged, rfl⟩ := hreplace
  exact ⟨child, changed, focuses_of_focus hfocus, hchanged, rfl⟩

/-- Reading below the first segment that a path finds. -/
theorem Focuses.resolve_cons {segment : GraphValuePathSegment}
    {remaining : List GraphValuePathSegment} {child : GraphValueFocus}
    (h : Focuses tables valueType value segment child) :
    resolveGraphValuePath tables valueType value (segment :: remaining) depth =
      resolveGraphValuePath tables child.valueType child.value remaining (depth + 1) := by
  rw [resolveGraphValuePath_cons, h.focus_eq]
  rfl

/-- Reading the replaced path finds the replacement, at the type that was read before. -/
theorem resolve_replaced
    (hread : resolveGraphValuePath tables valueType value path depth = .ok (target, current))
    (hreplace : replaceGraphValueAtPath tables valueType value path depth replacement =
      .ok candidate) :
    resolveGraphValuePath tables valueType candidate path depth = .ok (target, replacement) := by
  induction path generalizing valueType value depth candidate with
  | nil =>
    cases hread
    cases hreplace
    rfl
  | cons segment remaining ih =>
    obtain ⟨child, changed, hfocus, hchanged, rfl⟩ := replaced_cons hreplace
    rw [hfocus.resolve_cons] at hread
    rw [(hfocus.rebuild changed).resolve_cons]
    exact ih hread hchanged

/-- Reading a path that leaves the replaced one somewhere is unchanged, failures included. -/
theorem resolve_other {other : List GraphValuePathSegment} (hshorter : ¬ other <+: path)
    (hlonger : ¬ path <+: other)
    (hreplace : replaceGraphValueAtPath tables valueType value path depth replacement =
      .ok candidate) :
    resolveGraphValuePath tables valueType candidate other depth =
      resolveGraphValuePath tables valueType value other depth := by
  induction path generalizing valueType value depth candidate other with
  | nil => exact absurd List.nil_prefix hlonger
  | cons segment remaining ih =>
    cases other with
    | nil => exact absurd List.nil_prefix hshorter
    | cons another rest =>
      obtain ⟨child, changed, hfocus, hchanged, rfl⟩ := replaced_cons hreplace
      by_cases hsame : segment = another
      · subst hsame
        rw [List.cons_prefix_cons, not_and] at hshorter hlonger
        rw [hfocus.resolve_cons, (hfocus.rebuild changed).resolve_cons]
        exact ih (hshorter rfl) (hlonger rfl) hchanged
      · have hbind : ∀ found : Except GraphValuePathError GraphValueFocus, (do
            let child ← found
            resolveGraphValuePath tables child.valueType child.value rest (depth + 1)) = (do
              let target ← found.map GraphValueFocus.target
              resolveGraphValuePath tables target.1 target.2 rest (depth + 1)) := by
          intro found
          cases found <;> rfl
        rw [resolveGraphValuePath_cons, resolveGraphValuePath_cons, hbind, hbind,
          hfocus.focus_other hsame changed]

/-- Replacing by the value already there changes nothing. -/
theorem replace_self
    (hread : resolveGraphValuePath tables valueType value path depth = .ok (target, current)) :
    replaceGraphValueAtPath tables valueType value path depth current = .ok value := by
  induction path generalizing valueType value depth with
  | nil =>
    cases hread
    rfl
  | cons segment remaining ih =>
    rw [resolveGraphValuePath_cons, Except.bind_eq_ok] at hread
    obtain ⟨child, hfocus, hread⟩ := hread
    rw [replaceGraphValueAtPath_cons, hfocus]
    exact (Except.bind_of_ok (ih hread)).trans
      (congrArg Except.ok (focuses_of_focus hfocus).rebuild_self)

/-- What a path reads from a well-shaped value is well shaped and no larger. -/
theorem shaped_of_resolve (hshaped : Shaped tables valueType value)
    (hread : resolveGraphValuePath tables valueType value path depth = .ok (target, current)) :
    Shaped tables target current ∧ current.nesting ≤ value.nesting ∧
      current.nodeCount ≤ value.nodeCount := by
  induction path generalizing valueType value depth with
  | nil =>
    cases hread
    exact ⟨hshaped, le_refl _, le_refl _⟩
  | cons segment remaining ih =>
    rw [resolveGraphValuePath_cons, Except.bind_eq_ok] at hread
    obtain ⟨child, hfocus, hread⟩ := hread
    have hchild := focuses_of_focus hfocus
    obtain ⟨hcurrent, hnesting, hcount⟩ := ih (hchild.shaped hshaped) hread
    exact ⟨hcurrent, hnesting.trans hchild.nesting_le, hcount.trans hchild.nodeCount_le⟩

/-- Replacing by a well-shaped value keeps the shape of the whole. -/
theorem shaped_of_replace (hshaped : Shaped tables valueType value)
    (hread : resolveGraphValuePath tables valueType value path depth = .ok (target, current))
    (hreplace : replaceGraphValueAtPath tables valueType value path depth replacement =
      .ok candidate)
    (hreplacement : Shaped tables target replacement) : Shaped tables valueType candidate := by
  induction path generalizing valueType value depth candidate with
  | nil =>
    cases hread
    cases hreplace
    exact hreplacement
  | cons segment remaining ih =>
    obtain ⟨child, changed, hfocus, hchanged, rfl⟩ := replaced_cons hreplace
    rw [hfocus.resolve_cons] at hread
    exact hfocus.shaped_rebuild hshaped (ih (hfocus.shaped hshaped) hread hchanged)

end Paths

/-! ## The validated operations -/

namespace TypedGraphValue

section Operations

variable {schema : GraphSchema} {typed : TypedGraphValue} {path : List GraphValuePathSegment}
  {target : GraphTypeId} {current replacement : GraphValue}

theorem valueAtPath_eq_ok {read : GraphTypeId × GraphValue} :
    typed.valueAtPath schema path = .ok read ↔
      validateValue schema.toSchemaTables typed.valueType typed.value = .ok () ∧
      validateGraphValuePathDepth schema.toSchemaTables path = .ok () ∧
      resolveGraphValuePath schema.toSchemaTables typed.valueType typed.value path 0 =
        .ok read := by
  simp only [valueAtPath, SchemaTables.validateTypedValue, Except.bind_eq_ok, Except.exists_unit,
    Except.mapError_eq_ok]

/-- A replacement after a read goes through by its two checks. -/
theorem replacingValueAtPath_eq_ok {result : TypedGraphValue} {candidate : GraphValue}
    (hread : typed.valueAtPath schema path = .ok (target, current))
    (hreplace : replaceGraphValueAtPath schema.toSchemaTables typed.valueType typed.value path 0
      replacement = .ok candidate) :
    typed.replacingValueAtPath schema path replacement = .ok result ↔
      validateValue schema.toSchemaTables target replacement = .ok () ∧
      validateValue schema.toSchemaTables typed.valueType candidate = .ok () ∧
      ⟨typed.valueType, candidate⟩ = result := by
  have hunfold : typed.replacingValueAtPath schema path replacement = (do
      (validateValue schema.toSchemaTables target replacement).mapError GraphValuePathError.schema
      (TypedGraphValue.tryNew schema typed.valueType candidate).mapError
        GraphValuePathError.schema) := by
    rw [replacingValueAtPath, hread, hreplace]
    rfl
  simp only [hunfold, tryNew, Except.bind_eq_ok, Except.exists_unit, Except.mapError_eq_ok,
    Except.pure_eq_ok]

/-- **Value paths obey the laws of a lens.** Wherever a path reads, replacing along it succeeds
exactly when the replacement validates at the addressed type and the whole result stays within
both budgets of the schema. Then the path reads the replacement at the same type, every path that
leaves it somewhere reads what it read before, and putting the value already there gives the
original. -/
theorem valuePathLens (schema : GraphSchema) (typed : TypedGraphValue)
    (path : List GraphValuePathSegment) (target : GraphTypeId) (current replacement : GraphValue)
    (hread : typed.valueAtPath schema path = .ok (target, current)) :
    (∃ whole, replaceGraphValueAtPath schema.toSchemaTables typed.valueType typed.value path 0
        replacement = .ok whole ∧
      ((∃ result, typed.replacingValueAtPath schema path replacement = .ok result) ↔
        validateValue schema.toSchemaTables target replacement = .ok () ∧
          WithinBudgets schema.toSchemaTables whole)) ∧
    (∀ result, typed.replacingValueAtPath schema path replacement = .ok result →
      result.valueAtPath schema path = .ok (target, replacement) ∧
      ∀ other, ¬ other <+: path → ¬ path <+: other →
        result.valueAtPath schema other = typed.valueAtPath schema other) ∧
    typed.replacingValueAtPath schema path current = .ok typed := by
  obtain ⟨hvalid, hdepth, hresolve⟩ := valueAtPath_eq_ok.1 hread
  obtain ⟨hshaped, hbudgets⟩ := validateValue_iff.1 hvalid
  obtain ⟨hcurrent, hnesting, hcount⟩ := shaped_of_resolve hshaped hresolve
  obtain ⟨whole, hwhole⟩ : ∃ whole, replaceGraphValueAtPath schema.toSchemaTables typed.valueType
      typed.value path 0 replacement = .ok whole := exists_replaced hresolve
  refine ⟨⟨whole, hwhole, ?_⟩, ?_, ?_⟩
  · constructor
    · intro h
      obtain ⟨result, hresult⟩ := h
      obtain ⟨hreplacement, hcandidate, _⟩ :=
        (replacingValueAtPath_eq_ok hread hwhole).1 hresult
      exact ⟨hreplacement, (validateValue_iff.1 hcandidate).2⟩
    · intro h
      obtain ⟨hreplacement, hwithin⟩ := h
      have hshape := shaped_of_replace hshaped hresolve hwhole (validateValue_iff.1 hreplacement).1
      exact ⟨_, (replacingValueAtPath_eq_ok hread hwhole).2
        ⟨hreplacement, validateValue_iff.2 ⟨hshape, hwithin⟩, rfl⟩⟩
  · intro result hresult
    obtain ⟨_, hcandidate, rfl⟩ := (replacingValueAtPath_eq_ok hread hwhole).1 hresult
    refine ⟨valueAtPath_eq_ok.2 ⟨hcandidate, hdepth, resolve_replaced hresolve hwhole⟩, ?_⟩
    intro other hshorter hlonger
    simp only [valueAtPath, SchemaTables.validateTypedValue, hcandidate, hvalid,
      resolve_other hshorter hlonger hwhole]
  · have hself : validateValue schema.toSchemaTables target current = .ok () :=
      validateValue_iff.2 ⟨hcurrent, hnesting.trans hbudgets.1, hcount.trans hbudgets.2⟩
    exact (replacingValueAtPath_eq_ok hread (replace_self hresolve)).2 ⟨hself, hvalid, rfl⟩

end Operations

end TypedGraphValue

/-! ## A record of switches -/

def panelTables : SchemaTables where
  limits := .interactive
  units := []
  types := [⟨⟨1⟩, "switch", .boolean⟩, ⟨⟨2⟩, "bank", .array ⟨1⟩ 4⟩, ⟨⟨3⟩, "spare", .option ⟨1⟩⟩,
    ⟨⟨4⟩, "panel", .record [⟨⟨1⟩, "bank", ⟨2⟩⟩, ⟨⟨2⟩, "spare", ⟨3⟩⟩]⟩]

def panelSchema : GraphSchema where
  toSchemaTables := panelTables
  sorted := by decide
  valid := by decide +kernel

def panel : TypedGraphValue where
  valueType := ⟨4⟩
  value := .record [(⟨1⟩, .array [.boolean true, .boolean false]),
    (⟨2⟩, .optionSome (.boolean true))]

/-- The second switch of the bank is turned on. -/
theorem TypedGraphValue.valuePathLens_panel :
    (∃ whole, replaceGraphValueAtPath panelTables panel.valueType panel.value
        [.recordField ⟨1⟩, .arrayIndex 1] 0 (.boolean true) = .ok whole ∧
      ((∃ result, panel.replacingValueAtPath panelSchema [.recordField ⟨1⟩, .arrayIndex 1]
          (.boolean true) = .ok result) ↔
        validateValue panelTables ⟨1⟩ (.boolean true) = .ok () ∧
          WithinBudgets panelTables whole)) ∧
    (∀ result, panel.replacingValueAtPath panelSchema [.recordField ⟨1⟩, .arrayIndex 1]
        (.boolean true) = .ok result →
      result.valueAtPath panelSchema [.recordField ⟨1⟩, .arrayIndex 1] =
        .ok (⟨1⟩, .boolean true) ∧
      ∀ other, ¬ other <+: [.recordField ⟨1⟩, .arrayIndex 1] →
        ¬ [.recordField ⟨1⟩, .arrayIndex 1] <+: other →
        result.valueAtPath panelSchema other = panel.valueAtPath panelSchema other) ∧
    panel.replacingValueAtPath panelSchema [.recordField ⟨1⟩, .arrayIndex 1] (.boolean false) =
      .ok panel :=
  TypedGraphValue.valuePathLens panelSchema panel [.recordField ⟨1⟩, .arrayIndex 1] ⟨1⟩
    (.boolean false) (.boolean true) rfl

end Alumina.Graph
