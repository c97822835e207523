import Alumina.Graph.HostLibrary
import Alumina.Spec.DocumentFacts
import Alumina.Spec.LiteralTokens
import Alumina.Spec.ValueBudget

/-!
# The text of a literal reads back

`Parses reader text value` says that a reader takes exactly a text and returns a value, whatever
comes after it, as long as that ends a value. One induction over the shape of a literal shows that
the text that the formatter appends parses to the literal that it formatted. The other direction is
an induction over the nesting levels of the parser: what it returns has a text, which the formatter
writes under every ceiling that admits it.

## Key results

- `readsBack_of_shaped`: a formatted literal parses back
- `writable_of_parseValue`: a parsed literal can be formatted
- `literalTextRoundTrip`: both operations, for whole texts
-/

namespace Alumina.Graph

namespace LiteralParser

/-! ## What the formatter appends -/

section Append

variable {maximum : Nat} {output output' : String}

theorem pushStr_eq_ok {text : String} :
    pushStr maximum text output = .ok output' ↔
      output.utf8ByteSize + text.utf8ByteSize ≤ maximum ∧ output' = output ++ text := by
  simp only [pushStr, Except.bind_eq_ok, Except.failIf_eq_ok, Except.exists_unit,
    Except.pure_eq_ok, not_lt]
  exact and_congr_right fun _ => eq_comm

theorem toList_of_pushStr {text : String} (h : pushStr maximum text output = .ok output') :
    output'.toList = output.toList ++ text.toList := by
  rw [(pushStr_eq_ok.1 h).2, String.toList_append]

theorem toList_of_pushChar {c : Char} (h : pushChar maximum c output = .ok output') :
    output'.toList = output.toList ++ [c] := by
  rw [toList_of_pushStr h, String.toList_singleton]

theorem toList_of_pushSeparator {index : Nat}
    (h : pushSeparator maximum index output = .ok output') :
    output'.toList = output.toList ++ (if index ≠ 0 then [','] else []) := by
  unfold pushSeparator at h
  split_ifs at h ⊢
  · exact toList_of_pushChar h
  · rw [← Except.ok.inj h, List.append_nil]

theorem toList_of_foldlM {α : Type} {step : String → α → Except GraphLiteralTextError String}
    {text : α → List Char}
    (hstep : ∀ {a : α} {before after : String}, step before a = .ok after →
      after.toList = before.toList ++ text a) {items : List α}
    (h : items.foldlM step output = .ok output') :
    output'.toList = output.toList ++ items.flatMap text := by
  induction items generalizing output with
  | nil =>
    obtain rfl : output = output' := by simpa using h
    simp
  | cons item items ih =>
    rw [List.foldlM_cons, Except.bind_eq_ok] at h
    obtain ⟨middle, hmiddle, hrest⟩ := h
    rw [ih hrest, hstep hmiddle, List.flatMap_cons, List.append_assoc]

theorem toList_of_formatText {value : String} (h : formatText maximum value output = .ok output') :
    output'.toList = output.toList ++ quoted value := by
  simp only [formatText, Except.bind_eq_ok] at h
  obtain ⟨opened, hopened, body, hbody, hclosed⟩ := h
  have hescaped : body.toList =
      opened.toList ++ value.toList.flatMap fun c => (escape c).toList :=
    toList_of_foldlM (fun hstep => toList_of_pushStr hstep) hbody
  rw [toList_of_pushChar hclosed, hescaped, toList_of_pushChar hopened]
  simp [quoted]

theorem toList_of_formatBytes {value : List UInt8}
    (h : formatBytes maximum value output = .ok output') :
    output'.toList = output.toList ++ hexQuoted value := by
  simp only [formatBytes, Except.bind_eq_ok] at h
  obtain ⟨opened, hopened, body, hbody, hclosed⟩ := h
  have hdigits : body.toList = opened.toList ++ value.flatMap hexPair := by
    refine toList_of_foldlM (fun {byte before after} hstep => ?_) hbody
    rw [Except.bind_eq_ok] at hstep
    obtain ⟨middle, hhigh, hlow⟩ := hstep
    rw [toList_of_pushChar hlow, toList_of_pushChar hhigh, List.append_assoc]
    rfl
  rw [toList_of_pushChar hclosed, hdigits, toList_of_pushStr hopened]
  simp [hexQuoted]

end Append

/-! ## Literals read back -/

/-- A reader takes exactly a text, whatever comes after the value. -/
def Parses {α : Type} (reader : Reader α) (text : List Char) (value : α) (nodes final : Nat) :
    Prop :=
  ∀ length rest, Boundary rest →
    Runs reader ⟨length, text ++ rest, nodes⟩ value ⟨length, rest, final⟩

/-- A text that a value can begin with: not blank, and not the end of an array. -/
def Opens (text : List Char) : Prop :=
  ∃ c rest, text = c :: rest ∧ isWhitespace c = false ∧ c ≠ ']'

theorem Token.opens {text : List Char} (h : Token text) : Opens text := by
  obtain ⟨c, rest, rfl, hc⟩ := h.solid
  refine ⟨c, rest, rfl, hc, ?_⟩
  rintro rfl
  exact absurd (h.plain ']' List.mem_cons_self) (by decide)

section Leaf

variable [RationalDisplay] {valueType : GraphTypeId} {kind : TypeKind} {value : GraphValue}
  {output output' : String} {maximum : Nat}

/-- A literal with nothing below it parses back. -/
theorem parses_of_formatLeaf (limits : GraphLimits)
    (h : formatLeaf maximum valueType kind value output = .ok output') :
    ∃ text, output'.toList = output.toList ++ text ∧ Opens text ∧ ∀ child nodes,
      Parses (parseKind limits child valueType kind) text value nodes nodes := by
  unfold formatLeaf at h
  split at h
  case h_1 flag =>
    cases flag with
    | false =>
      have htoken : Token ['f', 'a', 'l', 's', 'e'] :=
        ⟨⟨'f', _, rfl, by decide⟩, ⟨'e', by decide, by decide⟩, by simp [isValueTerminator]⟩
      rw [if_neg (by decide)] at h
      have htext := toList_of_pushStr h
      rw [show "false".toList = ['f', 'a', 'l', 's', 'e'] from rfl] at htext
      refine ⟨_, htext, htoken.opens, fun child nodes length rest hrest => ?_⟩
      exact (runs_takeScalarToken htoken hrest).bind rfl
    | true =>
      have htoken : Token ['t', 'r', 'u', 'e'] :=
        ⟨⟨'t', _, rfl, by decide⟩, ⟨'e', by decide, by decide⟩, by simp [isValueTerminator]⟩
      rw [if_pos rfl] at h
      have htext := toList_of_pushStr h
      rw [show "true".toList = ['t', 'r', 'u', 'e'] from rfl] at htext
      refine ⟨_, htext, htoken.opens, fun child nodes length rest hrest => ?_⟩
      exact (runs_takeScalarToken htoken hrest).bind rfl
  case h_2 q =>
    refine ⟨_, toList_of_pushStr h, (token_display q).opens,
      fun child nodes length rest hrest => ?_⟩
    exact (runs_takeScalarToken (token_display q) hrest).bind ((runs_parseRational q).bind rfl)
  case h_3 lower upper =>
    simp only [Except.bind_eq_ok] at h
    obtain ⟨first, hfirst, second, hsecond, hthird⟩ := h
    obtain ⟨c, tail, htext, hblank, hbracket⟩ := (token_display lower).opens
    refine ⟨(RationalDisplay.display lower).toList ++
      ('.' :: '.' :: (RationalDisplay.display upper).toList), ?_, ?_,
      fun child nodes length rest hrest => ?_⟩
    · rw [toList_of_pushStr hthird, toList_of_pushStr hsecond, toList_of_pushStr hfirst]
      simp
    · rw [htext]
      exact ⟨c, _, rfl, hblank, hbracket⟩
    · rw [List.append_assoc]
      exact (runs_takeIntervalTokens lower upper hrest).bind
        ((runs_parseRational lower).bind ((runs_parseRational upper).bind rfl))
  case h_4 number =>
    have htoken := token_toString_int number.toInt
    refine ⟨_, toList_of_pushStr h, htoken.opens, fun child nodes length rest hrest => ?_⟩
    refine (runs_takeScalarToken htoken hrest).bind (Runs.bind ?_ rfl)
    exact runs_require.2 ⟨parseI64_toString number, rfl⟩
  case h_5 number =>
    have htoken := token_toString_nat number.toNat
    refine ⟨_, toList_of_pushStr h, htoken.opens, fun child nodes length rest hrest => ?_⟩
    refine (runs_takeScalarToken htoken hrest).bind (Runs.bind ?_ rfl)
    exact runs_require.2 ⟨parseU64_toString number, rfl⟩
  case h_6 text =>
    refine ⟨_, toList_of_formatText h, ⟨quote, _, rfl, by decide, by decide⟩,
      fun child nodes length rest hrest => ?_⟩
    exact (runs_parseText text).bind rfl
  case h_7 bytes =>
    refine ⟨_, toList_of_formatBytes h, ⟨'h', _, rfl, by decide, by decide⟩,
      fun child nodes length rest hrest => ?_⟩
    exact (runs_parseBytes valueType bytes).bind rfl
  case h_8 inner =>
    have hnone : "none".toList = ['n', 'o', 'n', 'e'] := rfl
    refine ⟨_, toList_of_pushStr h, hnone ▸ ⟨'n', _, rfl, by decide, by decide⟩,
      fun child nodes length rest hrest => ?_⟩
    have hsolid : Solid "none".toList := hnone ▸ ⟨'n', _, rfl, by decide⟩
    refine (runs_skipWhitespace hsolid).bind (runs_get.bind ?_)
    rw [if_pos (List.isPrefixOf_iff_prefix.2 (List.prefix_append _ _))]
    exact runs_advance.bind ((runs_requireValueBoundary hrest).bind rfl)
  case h_9 => cases h

end Leaf

/-! ## Composites read back -/

section Composite

variable [RationalDisplay] {tables : SchemaTables} {valueType : GraphTypeId} {maximum : Nat}

/-- The text that the formatter appends for a literal, which parses wherever the budgets of the
schema hold. -/
def ReadsBack (tables : SchemaTables) (maximum : Nat) (valueType : GraphTypeId)
    (value : GraphValue) : Prop :=
  ∀ output output', formatValue tables maximum valueType value output = .ok output' →
    ∃ text, output'.toList = output.toList ++ text ∧ Opens text ∧ ∀ levels nodes,
      value.nesting ≤ levels → nodes + value.nodeCount ≤ tables.limits.maximumValueNodes →
      Parses (parseValue tables levels valueType) text value nodes (nodes + value.nodeCount)

omit [RationalDisplay] in
theorem literalKind_eq {definition : TypeDefinition}
    (h : tables.valueType valueType = some definition) :
    literalKind tables valueType = .ok definition.kind := by
  rw [literalKind, h]
  rfl

/-- A value of a registered type is a value of its shape, one level down and one node further. -/
theorem parses_parseValue {definition : TypeDefinition} {text : List Char} {value : GraphValue}
    {levels nodes final : Nat} (hdefinition : tables.valueType valueType = some definition)
    (hnodes : nodes + 1 ≤ tables.limits.maximumValueNodes)
    (h : Parses (parseKind tables.limits (parseValue tables levels) valueType definition.kind) text
      value (nodes + 1) final) :
    Parses (parseValue tables (levels + 1) valueType) text value nodes final := by
  intro length rest hrest
  refine runs_get.bind ((Runs.set _).bind ((Runs.passed (not_lt.2 hnodes)).bind ?_))
  exact (runs_require.2 ⟨hdefinition, rfl⟩).bind (h length rest hrest)

/-- The items of an array, up to its closing bracket. -/
theorem runs_arrayItems {element : GraphTypeId} {items : List GraphValue}
    (hitems : ∀ item ∈ items, ReadsBack tables maximum element item) (hne : items ≠ [])
    {index : Nat} {output output' : String}
    (h : formatItems tables maximum element items index output = .ok output') :
    ∃ text, output'.toList = output.toList ++ ((if index ≠ 0 then [','] else []) ++ text) ∧
      Opens text ∧ ∀ levels nodes room values length rest, itemsNesting items ≤ levels →
        nodes + itemsNodeCount items ≤ tables.limits.maximumValueNodes → items.length ≤ room →
        Runs (arrayItems (parseValue tables levels element) room values)
          ⟨length, text ++ ']' :: rest, nodes⟩ (values ++ items)
          ⟨length, rest, nodes + itemsNodeCount items⟩ := by
  induction items generalizing index output with
  | nil => exact absurd rfl hne
  | cons item items ih =>
    rw [formatItems, Except.bind_eq_ok] at h
    obtain ⟨separated, hseparated, h⟩ := h
    rw [Except.bind_eq_ok] at h
    obtain ⟨middle, hitem, hrest⟩ := h
    have hcomma := toList_of_pushSeparator hseparated
    obtain ⟨text, htext, hopens, hparses⟩ := hitems item List.mem_cons_self separated middle hitem
    obtain ⟨c, tail, rfl, hblank, hbracket⟩ := hopens
    by_cases hlast : items = []
    · subst hlast
      rw [formatItems, Except.ok.injEq] at hrest
      subst hrest
      refine ⟨c :: tail, by rw [htext, hcomma, List.append_assoc], ⟨c, tail, rfl, hblank, hbracket⟩,
        fun levels nodes room values length rest hnesting hcount hroom => ?_⟩
      simp only [itemsNesting, itemsNodeCount, Nat.max_zero, Nat.add_zero] at hnesting hcount ⊢
      cases room with
      | zero => simp at hroom
      | succ room =>
        refine (hparses levels nodes hnesting hcount length (']' :: rest)
          (boundary_cons (by decide))).bind ?_
        refine (runs_skipWhitespace_cons (by decide)).bind ((runs_consumeChar (by decide)).bind ?_)
        exact rfl
    · obtain ⟨text', htext', hopens', hruns⟩ :=
        ih (fun other hother => hitems other (List.mem_cons_of_mem _ hother)) hlast hrest
      rw [if_pos (Nat.succ_ne_zero index)] at htext'
      refine ⟨c :: tail ++ (',' :: text'), by rw [htext', htext, hcomma]; simp,
        ⟨c, _, rfl, hblank, hbracket⟩, fun levels nodes room values length rest hnesting hcount
          hroom => ?_⟩
      simp only [itemsNesting, itemsNodeCount, max_le_iff] at hnesting hcount ⊢
      cases room with
      | zero => simp at hroom
      | succ room =>
        have hitemRuns := hparses levels nodes hnesting.1 (by omega) length
          (',' :: (text' ++ ']' :: rest)) (boundary_cons (by decide))
        have hrestRuns := hruns levels (nodes + item.nodeCount) room (values ++ [item]) length rest
          hnesting.2 (by omega) (by simpa using hroom)
        rw [List.append_assoc, List.singleton_append, Nat.add_assoc] at hrestRuns
        rw [List.append_assoc, List.cons_append]
        refine hitemRuns.bind ((runs_skipWhitespace_cons (by decide)).bind ?_)
        refine (runs_consumeChar_other (by decide) (by decide)).bind ?_
        exact (runs_expectChar (by decide)).bind hrestRuns

/-- The fields of a record, up to its closing brace. -/
theorem runs_recordFields {fields : List RecordField}
    {values : List (RecordFieldId × GraphValue)}
    (hids : fields.map RecordField.id = values.map Prod.fst)
    (hnames : ∀ field ∈ fields, validStableName field.name = true)
    (hvalues : ∀ (i : Nat) (field : RecordField) (pair : RecordFieldId × GraphValue),
      fields[i]? = some field → values[i]? = some pair →
        ReadsBack tables maximum field.valueType pair.2) {index : Nat} {output output' : String}
    (h : formatFields tables maximum fields values index output = .ok output') :
    ∃ text, output'.toList = output.toList ++ text ∧
      (∀ rest, Solid (text ++ '\x7d' :: rest) ∧ (index ≠ 0 → Boundary (text ++ '\x7d' :: rest))) ∧
      ∀ levels nodes length rest, fieldsNesting values ≤ levels →
        nodes + fieldsNodeCount values ≤ tables.limits.maximumValueNodes →
        Runs (recordFields (parseValue tables levels) fields index)
          ⟨length, text ++ '\x7d' :: rest, nodes⟩ values
          ⟨length, '\x7d' :: rest, nodes + fieldsNodeCount values⟩ := by
  induction fields generalizing values index output with
  | nil =>
    obtain rfl : values = [] := List.map_eq_nil_iff.1 hids.symm
    rw [formatFields, Except.ok.injEq] at h
    subst h
    refine ⟨[], (List.append_nil _).symm,
      fun rest => ⟨⟨'\x7d', rest, rfl, by decide⟩, fun _ => boundary_cons (by decide)⟩,
      fun levels nodes length rest _ _ => ?_⟩
    exact rfl
  | cons field fields ih =>
    cases values with
    | nil => cases hids
    | cons pair values =>
      obtain ⟨id, value⟩ := pair
      rw [List.map_cons, List.map_cons, List.cons.injEq] at hids
      obtain ⟨rfl, hids⟩ := hids
      simp only [formatFields, Except.bind_eq_ok] at h
      obtain ⟨separated, hseparated, named, hnamed, colon, hcolon, middle, hvalue, hrest⟩ := h
      have hcomma := toList_of_pushSeparator hseparated
      obtain ⟨text, htext, _, hparses⟩ :=
        hvalues 0 field (field.id, value) rfl rfl colon middle hvalue
      obtain ⟨text', htext', hboundary, hruns⟩ := ih hids
        (fun other hother => hnames other (List.mem_cons_of_mem _ hother))
        (fun i other pair hfield hpair => hvalues (i + 1) other pair hfield hpair) hrest
      refine ⟨(if index ≠ 0 then [','] else []) ++ (field.name.toList ++ ':' :: (text ++ text')),
        ?_, fun rest => ⟨?_, fun hindex => ?_⟩, fun levels nodes length rest hnesting hcount => ?_⟩
      · rw [htext', htext, toList_of_pushChar hcolon, toList_of_pushStr hnamed, hcomma]
        simp
      · obtain ⟨c, tail, hname, hblank⟩ :=
          (token_of_validStableName (hnames field List.mem_cons_self)).solid
        split_ifs
        · exact ⟨',', _, rfl, by decide⟩
        · rw [hname]
          exact ⟨c, _, rfl, hblank⟩
      · rw [if_pos hindex]
        exact boundary_cons (by decide)
      · simp only [fieldsNesting, fieldsNodeCount, max_le_iff] at hnesting hcount ⊢
        have hvalueRuns := hparses levels nodes hnesting.1 (by dsimp only; omega) length
          (text' ++ '\x7d' :: rest) ((hboundary rest).2 (Nat.succ_ne_zero index))
        have hrestRuns := hruns levels (nodes + value.nodeCount) length rest hnesting.2 (by omega)
        rw [Nat.add_assoc] at hrestRuns
        have hname := hnames field List.mem_cons_self
        have htext : (if index ≠ 0 then [','] else []) ++
            (field.name.toList ++ ':' :: (text ++ text')) ++ '\x7d' :: rest =
            (if index ≠ 0 then [','] else []) ++
              (field.name.toList ++ ':' :: (text ++ (text' ++ '\x7d' :: rest))) := by
          simp
        rw [htext]
        refine runs_expectSeparator.bind ((runs_takeRecordFieldName hname).bind ?_)
        rw [if_neg (not_not.2 rfl)]
        exact (runs_expectChar (by decide)).bind (hvalueRuns.bind (hrestRuns.bind rfl))

omit [RationalDisplay] in
/-- A budget with room for a literal has room for its first node. -/
theorem succ_le_of_nodeCount {value : GraphValue} {nodes limit : Nat}
    (h : nodes + value.nodeCount ≤ limit) : nodes + 1 ≤ limit := by
  have hpos : 1 ≤ value.nodeCount := by
    cases value <;> simp [GraphValue.nodeCount]
  omega

omit [RationalDisplay] in
theorem one_le_nesting (value : GraphValue) : 1 ≤ value.nesting := by
  cases value <;> simp [GraphValue.nesting]

theorem formatValue_leaf {value : GraphValue} {output : String} (hleaf : value.IsLeaf) :
    formatValue tables maximum valueType value output = (do
      let kind ← literalKind tables valueType
      formatLeaf maximum valueType kind value output) := by
  cases value <;> first | rfl | exact hleaf.elim

/-- The formatter and the parser of a literal with nothing below it. -/
theorem readsBack_leaf {definition : TypeDefinition} {value : GraphValue}
    (hdefinition : tables.valueType valueType = some definition) (hleaf : value.IsLeaf) :
    ReadsBack tables maximum valueType value := by
  intro output output' h
  have hcount : value.nodeCount = 1 := by
    cases value <;> first | rfl | exact hleaf.elim
  rw [formatValue_leaf hleaf, literalKind_eq hdefinition, Except.bind_of_ok rfl] at h
  obtain ⟨text, htext, hopens, hparses⟩ := parses_of_formatLeaf tables.limits h
  refine ⟨text, htext, hopens, fun levels nodes hnesting hnodes => ?_⟩
  cases levels with
  | zero => exact absurd (one_le_nesting value) (by omega)
  | succ levels =>
    rw [hcount] at hnodes ⊢
    exact parses_parseValue hdefinition hnodes (hparses _ _)

/-- A tagged value between parentheses. -/
theorem readsBack_tagged {definition : TypeDefinition} {inner : GraphTypeId}
    {value whole : GraphValue} (tag : String)
    (hdefinition : tables.valueType valueType = some definition)
    (ih : ReadsBack tables maximum inner value) (hnesting : whole.nesting = 1 + value.nesting)
    (hcount : whole.nodeCount = 1 + value.nodeCount) (htag : Opens tag.toList)
    (hformat : ∀ output, formatValue tables maximum valueType whole output = (do
      let output ← pushStr maximum (tag ++ "(") output
      let output ← formatValue tables maximum inner value output
      pushChar maximum ')' output))
    (hparse : ∀ (child : GraphTypeId → Reader GraphValue) (length nodes final : Nat)
      (text after : List Char), Runs (child inner) ⟨length, text, nodes⟩ value
          ⟨length, ')' :: after, final⟩ →
        Runs (parseKind tables.limits child valueType definition.kind)
          ⟨length, tag.toList ++ '(' :: text, nodes⟩ whole ⟨length, after, final⟩) :
    ReadsBack tables maximum valueType whole := by
  intro output output' h
  rw [hformat] at h
  simp only [Except.bind_eq_ok] at h
  obtain ⟨opened, hopened, middle, hvalue, hclosed⟩ := h
  obtain ⟨text, htext, _, hparses⟩ := ih opened middle hvalue
  obtain ⟨c, tail, htag, hblank, hbracket⟩ := htag
  refine ⟨tag.toList ++ '(' :: (text ++ [')']), ?_, ?_, fun levels nodes hlevels hnodes => ?_⟩
  · rw [toList_of_pushChar hclosed, htext, toList_of_pushStr hopened]
    simp
  · rw [htag]
    exact ⟨c, _, rfl, hblank, hbracket⟩
  · cases levels with
    | zero => exact absurd (one_le_nesting whole) (by omega)
    | succ levels =>
      refine parses_parseValue hdefinition (succ_le_of_nodeCount hnodes) ?_
      rw [hnesting] at hlevels
      rw [hcount] at hnodes ⊢
      intro length rest hrest
      have hvalueRuns := hparses levels (nodes + 1) (by omega) (by omega) length (')' :: rest)
        (boundary_cons (by decide))
      rw [Nat.add_assoc] at hvalueRuns
      rw [List.append_assoc, List.cons_append, List.append_assoc, List.singleton_append]
      exact hparse _ _ _ _ _ _ hvalueRuns

/-- A formatted literal parses back, by induction on its shape. -/
theorem readsBack_of_shaped (schema : GraphSchema) {value : GraphValue}
    (h : Shaped schema.toSchemaTables valueType value) :
    ReadsBack schema.toSchemaTables maximum valueType value := by
  induction h with
  | leaf hdefinition hleaf => exact readsBack_leaf hdefinition (isLeaf_of_validateLeaf hleaf)
  | @array valueType element definition maximumItems items hdefinition hkind hbound hlimit _ ih =>
    intro output output' h
    rw [formatValue, literalKind_eq hdefinition, Except.bind_of_ok rfl, hkind] at h
    simp only [Except.bind_eq_ok] at h
    obtain ⟨opened, hopened, middle, hitems, hclosed⟩ := h
    by_cases hempty : items = []
    · subst hempty
      rw [formatItems, Except.ok.injEq] at hitems
      subst hitems
      refine ⟨['[', ']'], ?_, ⟨'[', _, rfl, by decide, by decide⟩,
        fun levels nodes hnesting hnodes => ?_⟩
      · rw [toList_of_pushChar hclosed, toList_of_pushChar hopened, List.append_assoc]
        rfl
      · cases levels with
        | zero => exact absurd (one_le_nesting (.array [])) (by omega)
        | succ levels =>
          refine parses_parseValue hdefinition (succ_le_of_nodeCount hnodes) ?_
          rw [hkind]
          intro length rest hrest
          refine (runs_expectChar (by decide)).bind ((runs_skipWhitespace_cons (by decide)).bind ?_)
          exact (runs_consumeChar (by decide)).bind rfl
    · obtain ⟨text, htext, hopens, hruns⟩ := runs_arrayItems ih hempty hitems
      obtain ⟨c, tail, rfl, hblank, hbracket⟩ := hopens
      refine ⟨'[' :: (c :: tail ++ [']']), ?_, ⟨'[', _, rfl, by decide, by decide⟩,
        fun levels nodes hnesting hnodes => ?_⟩
      · rw [toList_of_pushChar hclosed, htext, toList_of_pushChar hopened]
        simp
      · cases levels with
        | zero => exact absurd (one_le_nesting (.array items)) (by omega)
        | succ levels =>
          refine parses_parseValue hdefinition (succ_le_of_nodeCount hnodes) ?_
          rw [hkind]
          rw [GraphValue.nesting] at hnesting
          rw [GraphValue.nodeCount] at hnodes ⊢
          intro length rest hrest
          have hitemsRuns := hruns levels (nodes + 1)
            (min maximumItems.toNat schema.limits.maximumArrayItems) [] length rest (by omega)
            (by omega) (le_min hbound hlimit)
          rw [List.nil_append, Nat.add_assoc] at hitemsRuns
          rw [List.cons_append, List.append_assoc, List.singleton_append]
          refine (runs_expectChar (by decide)).bind ((runs_skipWhitespace_cons hblank).bind ?_)
          refine (runs_consumeChar_other hblank hbracket).bind ?_
          exact hitemsRuns.bind rfl
  | @record valueType definition fields values hdefinition hkind hids _ ih =>
    intro output output' h
    rw [formatValue, literalKind_eq hdefinition, Except.bind_of_ok rfl, hkind] at h
    simp only [Except.bind_eq_ok] at h
    obtain ⟨opened, hopened, middle, hfields, hclosed⟩ := h
    have hnames := (schema.record_bounds (Table.mem_of_lookup hdefinition) hkind).2
    obtain ⟨text, htext, hsolid, hruns⟩ := runs_recordFields hids hnames ih hfields
    refine ⟨'\x7b' :: (text ++ ['\x7d']), ?_, ⟨'\x7b', _, rfl, by decide, by decide⟩,
      fun levels nodes hnesting hnodes => ?_⟩
    · rw [toList_of_pushChar hclosed, htext, toList_of_pushChar hopened]
      simp
    · cases levels with
      | zero => exact absurd (one_le_nesting (.record values)) (by omega)
      | succ levels =>
        refine parses_parseValue hdefinition (succ_le_of_nodeCount hnodes) ?_
        rw [hkind]
        rw [GraphValue.nesting] at hnesting
        rw [GraphValue.nodeCount] at hnodes ⊢
        intro length rest hrest
        have hfieldRuns := hruns levels (nodes + 1) length rest (by omega) (by omega)
        rw [Nat.add_assoc] at hfieldRuns
        rw [List.cons_append, List.append_assoc, List.singleton_append]
        have hskip : Runs skipWhitespace ⟨length, text ++ '\x7d' :: rest, nodes + 1⟩ ()
            ⟨length, text ++ '\x7d' :: rest, nodes + 1⟩ := by
          obtain ⟨c, tail, htail, hblank⟩ := (hsolid rest).1
          rw [htail]
          exact runs_skipWhitespace_cons hblank
        refine (runs_expectChar (by decide)).bind (hskip.bind (hfieldRuns.bind ?_))
        exact (runs_expectChar (by decide)).bind rfl
  | optionSome hdefinition hkind _ ih =>
    refine readsBack_tagged "some" hdefinition ih rfl rfl
      ⟨'s', _, rfl, by decide, by decide⟩ (fun output => ?_) ?_
    · rw [formatValue, literalKind_eq hdefinition, Except.bind_of_ok rfl, hkind]
      rfl
    · intro child length nodes final text after hvalue
      have hsolid : Solid "some".toList := ⟨'s', _, rfl, by decide⟩
      have hnone : "none".toList.isPrefixOf ("some".toList ++ '(' :: text) = false := rfl
      rw [hkind]
      refine (runs_skipWhitespace hsolid).bind (runs_get.bind ?_)
      rw [if_neg (by rw [hnone]; exact Bool.false_ne_true)]
      refine (runs_expectKeyword hsolid).bind ((runs_expectChar (by decide)).bind ?_)
      exact hvalue.bind ((runs_expectChar (by decide)).bind rfl)
  | resultOk hdefinition hkind _ ih =>
    refine readsBack_tagged "ok" hdefinition ih rfl rfl
      ⟨'o', _, rfl, by decide, by decide⟩ (fun output => ?_) ?_
    · rw [formatValue, literalKind_eq hdefinition, Except.bind_of_ok rfl, hkind]
      rfl
    · intro child length nodes final text after hvalue
      have hsolid : Solid "ok".toList := ⟨'o', _, rfl, by decide⟩
      rw [hkind]
      refine (runs_skipWhitespace hsolid).bind (runs_get.bind ?_)
      rw [if_pos (List.isPrefixOf_iff_prefix.2 (List.prefix_append _ _))]
      refine runs_advance.bind ((runs_expectChar (by decide)).bind ?_)
      exact hvalue.bind ((runs_expectChar (by decide)).bind rfl)
  | resultError hdefinition hkind _ ih =>
    refine readsBack_tagged "error" hdefinition ih rfl rfl
      ⟨'e', _, rfl, by decide, by decide⟩ (fun output => ?_) ?_
    · rw [formatValue, literalKind_eq hdefinition, Except.bind_of_ok rfl, hkind]
      rfl
    · intro child length nodes final text after hvalue
      have hsolid : Solid "error".toList := ⟨'e', _, rfl, by decide⟩
      have hok : "ok".toList.isPrefixOf ("error".toList ++ '(' :: text) = false := rfl
      rw [hkind]
      refine (runs_skipWhitespace hsolid).bind (runs_get.bind ?_)
      rw [if_neg (by rw [hok]; exact Bool.false_ne_true),
        if_pos (List.isPrefixOf_iff_prefix.2 (List.prefix_append _ _))]
      refine runs_advance.bind ((runs_expectChar (by decide)).bind ?_)
      exact hvalue.bind ((runs_expectChar (by decide)).bind rfl)

end Composite

/-! ## Parsed literals have a text -/

/-- A step that appends one text, under every ceiling that admits it. -/
def Writable (step : Nat → String → Except GraphLiteralTextError String) : Prop :=
  ∃ text : String, ∀ maximum output, output.utf8ByteSize + text.utf8ByteSize ≤ maximum →
    step maximum output = .ok (output ++ text)

theorem writable_pushStr (text : String) : Writable fun maximum => pushStr maximum text :=
  ⟨text, fun _ _ h => pushStr_eq_ok.2 ⟨h, rfl⟩⟩

theorem writable_pushChar (c : Char) : Writable fun maximum => pushChar maximum c :=
  writable_pushStr _

theorem writable_ok : Writable fun _ => .ok :=
  ⟨"", fun _ output _ => by rw [String.append_empty]⟩

theorem Writable.bind {step next : Nat → String → Except GraphLiteralTextError String}
    (h : Writable step) (hnext : Writable next) :
    Writable fun maximum output => step maximum output >>= next maximum := by
  obtain ⟨text, htext⟩ := h
  obtain ⟨text', htext'⟩ := hnext
  refine ⟨text ++ text', fun maximum output hfits => ?_⟩
  rw [String.utf8ByteSize_append] at hfits
  dsimp only
  rw [htext maximum output (by omega), Except.bind_of_ok rfl, htext' maximum _
    (by rw [String.utf8ByteSize_append]; omega), String.append_assoc]

theorem writable_foldlM {α : Type} {step : Nat → α → String → Except GraphLiteralTextError String}
    (h : ∀ item, Writable fun maximum => step maximum item) (items : List α) :
    Writable fun maximum output =>
      items.foldlM (fun output item => step maximum item output) output := by
  induction items with
  | nil => exact writable_ok
  | cons item items ih => exact (h item).bind ih

theorem writable_formatText (value : String) : Writable fun maximum => formatText maximum value :=
  (writable_pushChar quote).bind
    ((writable_foldlM (fun c => writable_pushStr (escape c)) value.toList).bind
      (writable_pushChar quote))

theorem writable_formatBytes (value : List UInt8) :
    Writable fun maximum => formatBytes maximum value :=
  (writable_pushStr _).bind
    ((writable_foldlM (fun byte : UInt8 =>
      (writable_pushChar (Nat.digitChar (byte >>> 4).toNat)).bind
        (writable_pushChar (Nat.digitChar (byte &&& 0x0f).toNat))) value).bind
      (writable_pushChar quote))

theorem writable_pushSeparator (index : Nat) :
    Writable fun maximum => pushSeparator maximum index := by
  unfold pushSeparator
  by_cases h : index ≠ 0
  · simp only [if_pos h]
    exact writable_pushChar ','
  · simp only [if_neg h]
    exact writable_ok

section Parsed

variable [RationalDisplay] {tables : SchemaTables} {valueType : GraphTypeId}

/-- The formatter writes a literal, under every ceiling that admits its text. -/
abbrev WritableValue (tables : SchemaTables) (valueType : GraphTypeId) (value : GraphValue) :
    Prop :=
  Writable fun maximum => formatValue tables maximum valueType value

theorem writable_formatItems {element : GraphTypeId} {items : List GraphValue}
    (h : ∀ item ∈ items, WritableValue tables element item) (index : Nat) :
    Writable fun maximum => formatItems tables maximum element items index := by
  induction items generalizing index with
  | nil => exact writable_ok
  | cons item items ih =>
    exact (writable_pushSeparator index).bind ((h item List.mem_cons_self).bind
      (ih (fun other hother => h other (List.mem_cons_of_mem _ hother)) (index + 1)))

omit [RationalDisplay] in
/-- The items of an array come from runs of the item's reader. -/
theorem forall_of_arrayItems {item : Reader GraphValue} {P : GraphValue → Prop}
    (hitem : ∀ {before value after}, Runs item before value after → P value) {room : Nat}
    {values result : List GraphValue} {before after : LiteralParser}
    (hvalues : ∀ value ∈ values, P value)
    (h : Runs (arrayItems item room values) before result after) : ∀ value ∈ result, P value := by
  induction room generalizing values before with
  | zero => exact absurd h not_runs_reject
  | succ room ih =>
    unfold arrayItems at h
    obtain ⟨value, middle, hvalue, h⟩ := runs_bind.1 h
    obtain ⟨_, _, _, h⟩ := runs_bind.1 h
    obtain ⟨closed, _, _, h⟩ := runs_bind.1 h
    have hextended : ∀ other ∈ values ++ [value], P other := by
      intro other hother
      obtain hother | hother := List.mem_append.1 hother
      · exact hvalues other hother
      · rw [List.mem_singleton.1 hother]
        exact hitem hvalue
    cases closed with
    | true =>
      rw [if_pos rfl] at h
      rw [← (runs_pure.1 h).1]
      exact hextended
    | false =>
      rw [if_neg Bool.false_ne_true] at h
      obtain ⟨_, _, _, h⟩ := runs_bind.1 h
      exact ih hextended h

/-- The fields of a parsed record can be written. -/
theorem writable_of_recordFields {child : GraphTypeId → Reader GraphValue}
    (hchild : ∀ {valueType before value after}, Runs (child valueType) before value after →
      WritableValue tables valueType value) {fields : List RecordField} {index : Nat}
    {values : List (RecordFieldId × GraphValue)} {before after : LiteralParser}
    (h : Runs (recordFields child fields index) before values after) :
    Writable fun maximum => formatFields tables maximum fields values index := by
  induction fields generalizing index values before after with
  | nil =>
    rw [← (runs_pure.1 h).1]
    exact writable_ok
  | cons field fields ih =>
    unfold recordFields at h
    obtain ⟨_, _, _, h⟩ := runs_bind.1 h
    obtain ⟨name, _, _, h⟩ := runs_bind.1 h
    obtain ⟨_, h⟩ | ⟨_, h⟩ := runs_ite.1 h
    · cases h
    · obtain ⟨_, _, _, h⟩ := runs_bind.1 h
      obtain ⟨value, _, hvalue, h⟩ := runs_bind.1 h
      obtain ⟨rest, _, hrest, h⟩ := runs_bind.1 h
      rw [← (runs_pure.1 h).1]
      exact (writable_pushSeparator index).bind ((writable_pushStr field.name).bind
        ((writable_pushChar ':').bind ((hchild hvalue).bind (ih hrest))))

/-- What the parser returns for a type shape can be written. -/
theorem writable_of_parseKind {limits : GraphLimits} {child : GraphTypeId → Reader GraphValue}
    (hchild : ∀ {valueType before value after}, Runs (child valueType) before value after →
      WritableValue tables valueType value) {definition : TypeDefinition}
    (hdefinition : tables.valueType valueType = some definition) {value : GraphValue}
    {before after : LiteralParser}
    (h : Runs (parseKind limits child valueType definition.kind) before value after) :
    WritableValue tables valueType value := by
  have hkind := literalKind_eq hdefinition
  generalize definition.kind = kind at h hkind
  have hwrites : ∀ {step : Nat → String → Except GraphLiteralTextError String}, Writable step →
      (∀ maximum output, formatValue tables maximum valueType value output = step maximum output) →
      WritableValue tables valueType value := by
    intro step hstep heq
    obtain ⟨text, htext⟩ := hstep
    exact ⟨text, fun maximum output hfits =>
      (heq maximum output).trans (htext maximum output hfits)⟩
  have hleaf : ∀ {step : Nat → String → Except GraphLiteralTextError String}, value.IsLeaf →
      Writable step → (∀ maximum output,
        formatLeaf maximum valueType kind value output = step maximum output) →
      WritableValue tables valueType value := by
    intro step hleaf hstep heq
    refine hwrites hstep fun maximum output => ?_
    rw [formatValue_leaf hleaf, hkind, Except.bind_of_ok rfl, heq]
  cases kind with
  | boolean =>
    obtain ⟨token, _, _, h⟩ := runs_bind.1 h
    obtain ⟨_, h⟩ | ⟨_, h⟩ := runs_ite.1 h
    · obtain rfl := (runs_pure.1 h).1
      exact hleaf trivial (writable_pushStr _) fun _ _ => rfl
    · obtain ⟨_, h⟩ | ⟨_, h⟩ := runs_ite.1 h
      · obtain rfl := (runs_pure.1 h).1
        exact hleaf trivial (writable_pushStr _) fun _ _ => rfl
      · cases h
  | exactRational unit =>
    obtain ⟨token, _, _, h⟩ := runs_bind.1 h
    obtain ⟨q, _, _, h⟩ := runs_bind.1 h
    obtain rfl := (runs_pure.1 h).1
    exact hleaf trivial (writable_pushStr _) fun _ _ => rfl
  | measurementInterval unit =>
    obtain ⟨tokens, _, _, h⟩ := runs_bind.1 h
    obtain ⟨lower, _, _, h⟩ := runs_bind.1 h
    obtain ⟨upper, _, _, h⟩ := runs_bind.1 h
    obtain rfl := (runs_pure.1 h).1
    exact hleaf trivial ((writable_pushStr _).bind ((writable_pushStr _).bind (writable_pushStr _)))
      fun _ _ => rfl
  | canonicalI64 unit quantum =>
    obtain ⟨token, _, _, h⟩ := runs_bind.1 h
    obtain ⟨number, _, _, h⟩ := runs_bind.1 h
    obtain rfl := (runs_pure.1 h).1
    exact hleaf trivial (writable_pushStr _) fun _ _ => rfl
  | canonicalU64 unit quantum =>
    obtain ⟨token, _, _, h⟩ := runs_bind.1 h
    obtain ⟨number, _, _, h⟩ := runs_bind.1 h
    obtain rfl := (runs_pure.1 h).1
    exact hleaf trivial (writable_pushStr _) fun _ _ => rfl
  | text maximumBytes =>
    obtain ⟨text, _, _, h⟩ := runs_bind.1 h
    obtain rfl := (runs_pure.1 h).1
    exact hleaf trivial (writable_formatText text) fun _ _ => rfl
  | bytes maximumBytes =>
    obtain ⟨bytes, _, _, h⟩ := runs_bind.1 h
    obtain rfl := (runs_pure.1 h).1
    exact hleaf trivial (writable_formatBytes bytes) fun _ _ => rfl
  | array element maximumItems =>
    have harray : ∀ {items}, (∀ item ∈ items, WritableValue tables element item) →
        value = .array items → WritableValue tables valueType value := by
      intro items hitems hvalue
      subst hvalue
      refine hwrites ((writable_pushChar '[').bind
        ((writable_formatItems hitems 0).bind (writable_pushChar ']'))) fun maximum output => ?_
      rw [formatValue, hkind]
      rfl
    obtain ⟨_, _, _, h⟩ := runs_bind.1 h
    obtain ⟨_, _, _, h⟩ := runs_bind.1 h
    obtain ⟨closed, _, _, h⟩ := runs_bind.1 h
    obtain ⟨_, h⟩ | ⟨_, h⟩ := runs_ite.1 h
    · exact harray (fun item hitem => by cases hitem) (runs_pure.1 h).1.symm
    · obtain ⟨items, _, hitems, h⟩ := runs_bind.1 h
      exact harray (forall_of_arrayItems hchild (fun item hitem => by cases hitem) hitems)
        (runs_pure.1 h).1.symm
  | record fields =>
    obtain ⟨_, _, _, h⟩ := runs_bind.1 h
    obtain ⟨_, _, _, h⟩ := runs_bind.1 h
    obtain ⟨values, _, hvalues, h⟩ := runs_bind.1 h
    obtain ⟨_, _, _, h⟩ := runs_bind.1 h
    obtain rfl := (runs_pure.1 h).1
    refine hwrites ((writable_pushChar '\x7b').bind
      ((writable_of_recordFields hchild hvalues).bind (writable_pushChar '\x7d')))
      fun maximum output => ?_
    rw [formatValue, hkind]
    rfl
  | option inner =>
    obtain ⟨_, _, _, h⟩ := runs_bind.1 h
    obtain ⟨_, _, _, h⟩ := runs_bind.1 h
    obtain ⟨_, h⟩ | ⟨_, h⟩ := runs_ite.1 h
    · obtain ⟨_, _, _, h⟩ := runs_bind.1 h
      obtain ⟨_, _, _, h⟩ := runs_bind.1 h
      obtain rfl := (runs_pure.1 h).1
      exact hleaf trivial (writable_pushStr _) fun _ _ => rfl
    · obtain ⟨_, _, _, h⟩ := runs_bind.1 h
      obtain ⟨_, _, _, h⟩ := runs_bind.1 h
      obtain ⟨inside, _, hinside, h⟩ := runs_bind.1 h
      obtain ⟨_, _, _, h⟩ := runs_bind.1 h
      obtain rfl := (runs_pure.1 h).1
      refine hwrites ((writable_pushStr "some(").bind
        ((hchild hinside).bind (writable_pushChar ')'))) fun maximum output => ?_
      rw [formatValue, hkind]
      rfl
  | result ok error =>
    obtain ⟨_, _, _, h⟩ := runs_bind.1 h
    obtain ⟨_, _, _, h⟩ := runs_bind.1 h
    obtain ⟨_, h⟩ | ⟨_, h⟩ := runs_ite.1 h
    · obtain ⟨_, _, _, h⟩ := runs_bind.1 h
      obtain ⟨_, _, _, h⟩ := runs_bind.1 h
      obtain ⟨inside, _, hinside, h⟩ := runs_bind.1 h
      obtain ⟨_, _, _, h⟩ := runs_bind.1 h
      obtain rfl := (runs_pure.1 h).1
      refine hwrites ((writable_pushStr "ok(").bind
        ((hchild hinside).bind (writable_pushChar ')'))) fun maximum output => ?_
      rw [formatValue, hkind]
      rfl
    · obtain ⟨_, h⟩ | ⟨_, h⟩ := runs_ite.1 h
      · obtain ⟨_, _, _, h⟩ := runs_bind.1 h
        obtain ⟨_, _, _, h⟩ := runs_bind.1 h
        obtain ⟨inside, _, hinside, h⟩ := runs_bind.1 h
        obtain ⟨_, _, _, h⟩ := runs_bind.1 h
        obtain rfl := (runs_pure.1 h).1
        refine hwrites ((writable_pushStr "error(").bind
          ((hchild hinside).bind (writable_pushChar ')'))) fun maximum output => ?_
        rw [formatValue, hkind]
        rfl
      · cases h
  | event payload clock => cases h
  | stream sample clock capacity => cases h
  | resourceHandle resourceClass => cases h
  | jobHandle => cases h

/-- What the parser returns can be written, by induction on the levels that remain. -/
theorem writable_of_parseValue {levels : Nat} {value : GraphValue} {before after : LiteralParser}
    (h : Runs (parseValue tables levels valueType) before value after) :
    WritableValue tables valueType value := by
  induction levels generalizing valueType value before after with
  | zero => cases h
  | succ levels ih =>
    unfold parseValue at h
    obtain ⟨_, _, _, h⟩ := runs_bind.1 h
    obtain ⟨_, _, _, h⟩ := runs_bind.1 h
    obtain ⟨_, _, _, h⟩ := runs_bind.1 h
    obtain ⟨definition, _, hdefinition, h⟩ := runs_bind.1 h
    exact writable_of_parseKind ih (runs_require.1 hdefinition).1 h

end Parsed

/-! ## Whole texts -/

section Whole

variable [RationalDisplay] {tables : SchemaTables} {valueType : GraphTypeId} {maximum : Nat}
  {output output' : String}

omit [RationalDisplay] in
theorem size_le_of_pushStr {text : String} (h : pushStr maximum text output = .ok output') :
    output'.utf8ByteSize ≤ maximum := by
  obtain ⟨hle, rfl⟩ := pushStr_eq_ok.1 h
  rwa [String.utf8ByteSize_append]

theorem size_le_of_formatLeaf {kind : TypeKind} {value : GraphValue}
    (h : formatLeaf maximum valueType kind value output = .ok output') :
    output'.utf8ByteSize ≤ maximum := by
  unfold formatLeaf at h
  split at h
  case h_3 =>
    simp only [Except.bind_eq_ok] at h
    obtain ⟨_, _, _, _, h⟩ := h
    exact size_le_of_pushStr h
  case h_6 =>
    simp only [formatText, Except.bind_eq_ok] at h
    obtain ⟨_, _, _, _, h⟩ := h
    exact size_le_of_pushStr h
  case h_7 =>
    simp only [formatBytes, Except.bind_eq_ok] at h
    obtain ⟨_, _, _, _, h⟩ := h
    exact size_le_of_pushStr h
  case h_9 => cases h
  all_goals exact size_le_of_pushStr h

/-- The last step of the formatter is a push, which checks the ceiling. -/
theorem size_le_of_formatValue {value : GraphValue}
    (h : formatValue tables maximum valueType value output = .ok output') :
    output'.utf8ByteSize ≤ maximum := by
  by_cases hleaf : value.IsLeaf
  · rw [formatValue_leaf hleaf, Except.bind_eq_ok] at h
    obtain ⟨kind, _, h⟩ := h
    exact size_le_of_formatLeaf h
  · cases value with
    | array _ | record _ | optionSome _ | resultOk _ | resultError _ =>
      rw [formatValue, Except.bind_eq_ok] at h
      obtain ⟨kind, _, h⟩ := h
      split at h
      case h_1 =>
        simp only [Except.bind_eq_ok] at h
        obtain ⟨_, _, _, _, h⟩ := h
        exact size_le_of_pushStr h
      case h_2 => cases h
    | _ => exact absurd trivial hleaf

end Whole

end LiteralParser

open LiteralParser

section RoundTrip

variable [RationalDisplay] {schema : GraphSchema}

/-- What the formatter returns parses to what it was given. -/
theorem parseGraphLiteralText_of_format {typed : TypedGraphValue} {limits : GraphLiteralTextLimits}
    {text : String} (h : formatGraphLiteralText schema typed limits = .ok text) :
    parseGraphLiteralText schema typed.valueType text limits = .ok typed := by
  simp only [formatGraphLiteralText, Except.bind_eq_ok, Except.exists_unit,
    Except.mapError_eq_ok] at h
  obtain ⟨hlimits, hvalid, hauthority, hformat⟩ := h
  obtain ⟨hshaped, hnesting, hnodes⟩ := validateValue_iff.1 hvalid
  obtain ⟨written, hwritten, _, hparses⟩ := readsBack_of_shaped schema hshaped "" text hformat
  have hsize := size_le_of_formatValue hformat
  have hvalue := hparses schema.limits.maximumValueDepth 0 hnesting (by omega) text.utf8ByteSize []
    boundary_nil
  have htext : text.toList = written := by simpa using hwritten
  rw [List.append_nil, ← htext] at hvalue
  have hliteral : Runs (parseLiteral schema.toSchemaTables typed.valueType)
      ⟨text.utf8ByteSize, text.toList, 0⟩ typed.value
      ⟨text.utf8ByteSize, [], 0 + typed.value.nodeCount⟩ := by
    refine hvalue.bind ((Runs.modify _).bind (runs_get.bind ?_))
    rw [if_neg (by simp [LiteralParser.offset])]
    exact rfl
  have htyped : TypedGraphValue.tryNew schema typed.valueType typed.value = .ok typed := by
    have hchecked : validateValue schema.toSchemaTables typed.valueType typed.value = .ok () :=
      hvalid
    rw [TypedGraphValue.tryNew, Except.bind_of_ok hchecked]
    rfl
  rw [parseGraphLiteralText, Except.bind_of_ok hlimits, Except.bind_of_ok hauthority,
    Except.bind_of_ok (Except.failIf_of_not (not_lt.2 hsize)), Except.bind_of_ok hliteral, htyped]
  rfl

/-- What the parser returns has a text, which is written under every ceiling that admits it. -/
theorem formatGraphLiteralText_of_parse {valueType : GraphTypeId} {source : String}
    {limits : GraphLiteralTextLimits} {typed : TypedGraphValue}
    (h : parseGraphLiteralText schema valueType source limits = .ok typed) :
    typed.valueType = valueType ∧ ∃ text : String, ∀ ceiling : GraphLiteralTextLimits,
      0 < ceiling.maximumBytes → text.utf8ByteSize ≤ ceiling.maximumBytes →
        formatGraphLiteralText schema typed ceiling = .ok text := by
  simp only [parseGraphLiteralText, Except.bind_eq_ok, Except.exists_unit,
    Except.mapError_eq_ok, TypedGraphValue.tryNew, Except.pure_eq_ok] at h
  obtain ⟨_, hauthority, _, result, hresult, hvalid, rfl⟩ := h
  obtain ⟨value, _, hvalue, hrest⟩ := runs_bind.1 (show Runs (parseLiteral schema.toSchemaTables
    valueType) _ result.1 result.2 from hresult)
  obtain ⟨_, _, _, hrest⟩ := runs_bind.1 hrest
  obtain ⟨_, _, _, hrest⟩ := runs_bind.1 hrest
  obtain ⟨_, hrest⟩ | ⟨_, hrest⟩ := runs_ite.1 hrest
  · cases hrest
  · obtain rfl := (runs_pure.1 hrest).1
    obtain ⟨text, htext⟩ := writable_of_parseValue hvalue
    refine ⟨rfl, text, fun ceiling hpositive hfits => ?_⟩
    have hformat := htext ceiling.maximumBytes "" (by simpa using hfits)
    rw [String.empty_append] at hformat
    have hchecked : schema.validateTypedValue ⟨valueType, result.1⟩ = .ok () := hvalid
    rw [formatGraphLiteralText, GraphLiteralTextLimits.validate,
      Except.bind_of_ok (Except.failIf_of_not hpositive.ne'),
      Except.bind_of_ok (Except.mapError_eq_ok.2 hchecked), Except.bind_of_ok hauthority]
    exact hformat

end RoundTrip

/-- The text of a literal reads back: what the formatter returns parses, at the same type and
limit, to the literal that was formatted. What the parser returns has a text of its own, whatever
the source was, which the formatter writes under every ceiling that admits it, and which parses to
the same literal there. -/
theorem literalTextRoundTrip [RationalDisplay] (schema : GraphSchema) :
    (∀ (typed : TypedGraphValue) (limits : GraphLiteralTextLimits) (text : String),
      formatGraphLiteralText schema typed limits = .ok text →
        parseGraphLiteralText schema typed.valueType text limits = .ok typed) ∧
    ∀ (valueType : GraphTypeId) (source : String) (limits : GraphLiteralTextLimits)
      (typed : TypedGraphValue), parseGraphLiteralText schema valueType source limits = .ok typed →
      ∃ text : String, ∀ ceiling : GraphLiteralTextLimits,
        0 < ceiling.maximumBytes → text.utf8ByteSize ≤ ceiling.maximumBytes →
          formatGraphLiteralText schema typed ceiling = .ok text ∧
            parseGraphLiteralText schema valueType text ceiling = .ok typed := by
  constructor
  · intro typed limits text h
    exact parseGraphLiteralText_of_format h
  · intro valueType source limits typed h
    obtain ⟨rfl, text, htext⟩ := formatGraphLiteralText_of_parse h
    refine ⟨text, fun ceiling hpositive hfits => ?_⟩
    have hformat := htext ceiling hpositive hfits
    exact ⟨hformat, parseGraphLiteralText_of_format hformat⟩

/-! ## A sample panel -/

/-- The characters of a displayed rational. -/
theorem mem_rationalText {q : ℚ} {c : Char} (h : c ∈ (rationalText q).toList) :
    c.isDigit = true ∨ c = '-' ∨ c = '/' := by
  simp only [rationalText, numeratorText, denominatorText, String.toList_append,
    List.mem_append] at h
  obtain ((h | h) | h) | h := h
  · split_ifs at h
    · exact .inr (.inl (by simpa using h))
    · cases h
  · exact .inl (isDigit_of_mem_repr h)
  · exact .inr (.inr (by simpa using h))
  · exact .inl (isDigit_of_mem_repr h)

theorem rationalText_plain {q : ℚ} {c : Char} (h : c ∈ (rationalText q).toList) :
    isWhitespace c = false ∧ isValueTerminator c = false ∧ c ≠ '.' := by
  obtain h | rfl | rfl := mem_rationalText h
  · refine ⟨isWhitespace_of_isDigit h, isValueTerminator_of_isDigit h, ?_⟩
    rintro rfl
    exact absurd h (by decide)
  · decide
  · decide

theorem rationalText_ne_nil (q : ℚ) : (rationalText q).toList ≠ [] := by
  simp only [rationalText, denominatorText, String.toList_append, ne_eq, List.append_eq_nil_iff,
    not_and]
  exact fun _ => repr_ne_nil _

/-- The host library displays a rational by its reduced fraction. -/
local instance : RationalDisplay where
  toRationalParser := HostLibrary.rationalParser
  display := rationalText
  parse_display := HostLibrary.rationalParser.parse_rationalText
  display_plain _ _ hc := (rationalText_plain hc).2.1
  display_head q := ⟨_, List.head?_eq_some_head (rationalText_ne_nil q),
    (rationalText_plain (List.head_mem _)).1⟩
  display_last q := ⟨_, List.getLast?_eq_getLast_of_ne_nil (rationalText_ne_nil q),
    (rationalText_plain (List.getLast_mem _)).1, (rationalText_plain (List.getLast_mem _)).2.2⟩
  display_interval _ hdots :=
    (rationalText_plain (hdots.mem List.mem_cons_self)).2.2 rfl

def labelSchema : GraphSchema where
  limits := .interactive
  units := [⟨⟨1⟩, "u", .dimensionless, 1⟩]
  types := [⟨⟨1⟩, "ratio", .exactRational ⟨1⟩⟩, ⟨⟨2⟩, "label", .text 64⟩,
    ⟨⟨3⟩, "code", .bytes 8⟩, ⟨⟨4⟩, "labels", .array ⟨2⟩ 2⟩, ⟨⟨5⟩, "outcome", .result ⟨1⟩ ⟨3⟩⟩,
    ⟨⟨6⟩, "panel", .record [⟨⟨1⟩, "labels", ⟨4⟩⟩, ⟨⟨2⟩, "outcome", ⟨5⟩⟩, ⟨⟨3⟩, "ratio", ⟨1⟩⟩]⟩]
  sorted := by decide
  valid := by decide +kernel

def labels : TypedGraphValue where
  valueType := ⟨6⟩
  value := .record [(⟨1⟩, .array [.text "ready\n\x01", .text "\""]),
    (⟨2⟩, .resultError (.bytes [0, 255])), (⟨3⟩, .exactRational (-7 / 9))]

/-- Escapes, byte pairs and a fraction in one record. -/
def labelsText : String :=
  "\x7blabels:[\"ready\\n\\u\x7b1\x7d\",\"\\\"\"],outcome:error(hex\"00ff\"),ratio:-7/9\x7d"

theorem literalTextRoundTrip_labels :
    parseGraphLiteralText labelSchema ⟨6⟩ labelsText .interactive = .ok labels ∧
      ∃ text : String, ∀ ceiling : GraphLiteralTextLimits, 0 < ceiling.maximumBytes →
        text.utf8ByteSize ≤ ceiling.maximumBytes →
          formatGraphLiteralText labelSchema labels ceiling = .ok text ∧
            parseGraphLiteralText labelSchema ⟨6⟩ text ceiling = .ok labels := by
  have hroundTrip := literalTextRoundTrip labelSchema
  have hformat : formatGraphLiteralText labelSchema labels .interactive = .ok labelsText :=
    Except.toOption_eq_some.1 (by decide +kernel)
  have hparse := hroundTrip.1 labels .interactive labelsText hformat
  exact ⟨hparse, hroundTrip.2 ⟨6⟩ labelsText .interactive labels hparse⟩

end Alumina.Graph
