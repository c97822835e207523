import Alumina.Cnc.Import
import Alumina.ForStd.List

/-!
# The lines of a CNC source

A line is written as words with gaps between them: blanks and parenthesised comments, and at its
end a line comment. This file states that layout and shows that stripping comments and splitting
words reads exactly the lines written so.

## Key results

- `stripFrom_eq_ok`: stripping comments computes the relation `Stripped`
- `layout_of_lexFrom`: what the word splitter reads was written as these words
- `lexFrom_of_layout`: a line written as words is read as these words, whatever is in its gaps
-/

namespace Alumina.Cnc

open Except (failIf)

/-! ## Comments -/

/-- A byte that is neither a parenthesis nor starts a line comment. -/
def IsPlain (byte : UInt8) : Prop :=
  byte ≠ commentStart ∧ byte ≠ commentEnd ∧ byte ≠ lineComment

/-- One parenthesised comment. -/
def IsComment (bytes : List UInt8) : Prop :=
  ∃ text, (∀ byte ∈ text, byte ≠ commentStart ∧ byte ≠ commentEnd) ∧
    bytes = commentStart :: (text ++ [commentEnd])

/-- The end of a line, perhaps with a line comment. -/
def IsTail (bytes : List UInt8) : Prop := bytes = [] ∨ ∃ text, bytes = lineComment :: text

/-- A line and what is left of it without comments. -/
inductive Stripped : List UInt8 → List UInt8 → Prop
  | tail {bytes : List UInt8} (ends : IsTail bytes) : Stripped bytes []
  | byte {byte : UInt8} {bytes text : List UInt8} (plain : IsPlain byte)
      (rest : Stripped bytes text) : Stripped (byte :: bytes) (byte :: text)
  | comment {comment bytes text : List UInt8} (isComment : IsComment comment)
      (rest : Stripped bytes text) : Stripped (comment ++ bytes) text

section Comments

variable [ExactCurves] {line column : Nat} {bytes text : List UInt8}

/-- A comment that is closed is skipped. -/
private theorem stripFrom_inside {inner : List UInt8}
    (hinner : ∀ byte ∈ inner, byte ≠ commentStart ∧ byte ≠ commentEnd)
    (h : ∀ column, stripFrom line column false bytes = .ok text) :
    stripFrom line column true (inner ++ commentEnd :: bytes) = .ok text := by
  induction inner generalizing column with
  | nil =>
    rw [List.nil_append, stripFrom, if_neg (by decide), if_pos rfl, if_pos rfl]
    exact h _
  | cons byte inner ih =>
    have hbyte := hinner byte List.mem_cons_self
    rw [List.cons_append, stripFrom, if_neg hbyte.1, if_neg hbyte.2, if_pos rfl]
    exact ih fun other hother => hinner other (List.mem_cons_of_mem _ hother)

/-- Inside a comment everything up to its end is skipped. -/
private theorem inside_of_stripFrom (h : stripFrom line column true bytes = .ok text) :
    ∃ inner rest column', (∀ byte ∈ inner, byte ≠ commentStart ∧ byte ≠ commentEnd) ∧
      bytes = inner ++ commentEnd :: rest ∧ stripFrom line column' false rest = .ok text := by
  induction bytes generalizing column with
  | nil => simp [stripFrom] at h
  | cons byte bytes ih =>
    rw [stripFrom] at h
    split at h
    · cases h
    next hstart =>
    split at h
    · next hend =>
      refine ⟨[], bytes, column + 1, by simp, by simp [hend], h⟩
    next hend =>
    rw [if_pos rfl] at h
    obtain ⟨inner, rest, column', hinner, rfl, hrest⟩ := ih h
    refine ⟨byte :: inner, rest, column', ?_, rfl, hrest⟩
    intro other hother
    rcases List.mem_cons.1 hother with rfl | hother
    · exact ⟨hstart, hend⟩
    · exact hinner other hother

theorem stripFrom_of_stripped (h : Stripped bytes text) :
    stripFrom line column false bytes = .ok text := by
  induction h generalizing column with
  | tail ends =>
    rcases ends with rfl | ⟨rest, rfl⟩
    · rfl
    · rw [stripFrom, if_neg (by decide), if_neg (by decide), if_neg (by decide), if_pos rfl]
  | byte plain rest ih =>
    rw [stripFrom, if_neg plain.1, if_neg plain.2.1, if_neg (by decide), if_neg plain.2.2, ih]
    rfl
  | comment isComment rest ih =>
    obtain ⟨inner, hinner, rfl⟩ := isComment
    rw [List.cons_append, List.append_assoc, stripFrom, if_pos rfl, if_neg (by decide)]
    exact stripFrom_inside hinner fun _ => ih

private theorem stripped_of_stripFrom (n : Nat) (hlength : bytes.length ≤ n)
    (h : stripFrom line column false bytes = .ok text) : Stripped bytes text := by
  -- A comment is skipped as a whole, so the induction is on the length.
  induction n generalizing column bytes text with
  | zero =>
    obtain rfl := List.eq_nil_of_length_eq_zero (Nat.le_zero.1 hlength)
    cases h
    exact .tail (Or.inl rfl)
  | succ n ih =>
    cases bytes with
    | nil =>
      cases h
      exact .tail (Or.inl rfl)
    | cons byte bytes =>
      rw [List.length_cons] at hlength
      rw [stripFrom] at h
      split at h
      · next hstart =>
        rw [if_neg (by decide)] at h
        obtain ⟨inner, rest, column', hinner, rfl, hrest⟩ := inside_of_stripFrom h
        rw [List.length_append, List.length_cons] at hlength
        have hlater := Stripped.comment ⟨inner, hinner, rfl⟩ (ih (by omega) hrest)
        rwa [List.cons_append, List.append_assoc, ← hstart] at hlater
      next hstart =>
      split at h
      · cases h
      next hend =>
      rw [if_neg (by decide)] at h
      split at h
      · next hline =>
        cases h
        exact .tail (Or.inr ⟨bytes, by rw [hline]⟩)
      next hline =>
      rw [Except.map_eq_ok] at h
      obtain ⟨text, htext, rfl⟩ := h
      exact .byte ⟨hstart, hend, hline⟩ (ih (by omega) htext)

/-- Stripping computes what is left of a line without its comments. -/
theorem stripFrom_eq_ok : stripFrom line column false bytes = .ok text ↔ Stripped bytes text :=
  ⟨stripped_of_stripFrom bytes.length le_rfl, stripFrom_of_stripped⟩

theorem Stripped.unique {other : List UInt8} (h : Stripped bytes text) (h' : Stripped bytes other) :
    text = other := by
  have hfirst : stripFrom 0 0 false bytes = .ok text := stripFrom_of_stripped h
  have hsecond : stripFrom 0 0 false bytes = .ok other := stripFrom_of_stripped h'
  rw [hfirst, Except.ok.injEq] at hsecond
  exact hsecond

end Comments

/-! ## Layouts -/

/-- Blanks and comments between words. -/
inductive Gap : List UInt8 → Prop
  | nil : Gap []
  | blank {byte : UInt8} {bytes : List UInt8} (isBlank : isBlank byte) (rest : Gap bytes) :
      Gap (byte :: bytes)
  | comment {comment bytes : List UInt8} (isComment : IsComment comment) (rest : Gap bytes) :
      Gap (comment ++ bytes)

/-- The text of a value, which comments may interrupt, with its digits. -/
inductive ValueText : List UInt8 → List UInt8 → Prop
  | nil : ValueText [] []
  | byte {byte : UInt8} {bytes digits : List UInt8} (plain : IsPlain byte)
      (isValueByte : isValueByte byte) (rest : ValueText bytes digits) :
      ValueText (byte :: bytes) (byte :: digits)
  | comment {comment bytes digits : List UInt8} (isComment : IsComment comment)
      (rest : ValueText bytes digits) : ValueText (comment ++ bytes) digits

/-- The text of a word: its letter and its value. -/
structure WordText (text : List UInt8) (letter : UInt8) (digits : List UInt8) : Prop where
  isAlphabetic : isAlphabetic letter
  text : ∃ value, text = letter :: value ∧ ValueText value digits

/-- A line that is written as words with gaps around them. -/
inductive Layout : List (List UInt8) → List UInt8 → Prop
  | tail {gap bytes : List UInt8} (isGap : Gap gap) (ends : IsTail bytes) : Layout [] (gap ++ bytes)
  | word {gap text bytes : List UInt8} {letter : UInt8} {digits : List UInt8}
      {words : List (List UInt8)} (isGap : Gap gap) (isWord : WordText text letter digits)
      (rest : Layout words bytes) : Layout (text :: words) (gap ++ (text ++ bytes))

/-- A line that is written as a `%` with gaps around it. -/
def EnvelopeLine (line : List UInt8) : Prop :=
  ∃ before after tail, Gap before ∧ Gap after ∧ IsTail tail ∧
    line = before ++ envelopeMark :: (after ++ tail)

/-! ## What a gap leaves -/

theorem isPlain_of_isAlphabetic {byte : UInt8} (h : isAlphabetic byte) : IsPlain byte := by
  revert byte
  unfold IsPlain
  decide +kernel

theorem isPlain_of_isBlank {byte : UInt8} (h : isBlank byte) : IsPlain byte := by
  revert byte
  unfold IsPlain
  decide +kernel

theorem Gap.append {first second : List UInt8} (h : Gap first) (h' : Gap second) :
    Gap (first ++ second) := by
  induction h with
  | nil => exact h'
  | blank isBlank rest ih => exact .blank isBlank ih
  | comment isComment rest ih =>
    rw [List.append_assoc]
    exact .comment isComment ih

/-- A gap leaves blanks. -/
theorem Gap.stripped {gap : List UInt8} (h : Gap gap) : ∃ blanks : List UInt8,
    (∀ byte ∈ blanks, isBlank byte) ∧ ∀ bytes text, Stripped bytes text →
      Stripped (gap ++ bytes) (blanks ++ text) := by
  induction h with
  | nil => exact ⟨[], by simp, fun _ _ hrest => hrest⟩
  | @blank byte bytes hblank rest ih =>
    obtain ⟨blanks, hblanks, hstripped⟩ := ih
    refine ⟨byte :: blanks, ?_, ?_⟩
    · intro other hother
      rcases List.mem_cons.1 hother with rfl | hother
      · exact hblank
      · exact hblanks other hother
    · intro bytes text hrest
      exact .byte (isPlain_of_isBlank hblank) (hstripped bytes text hrest)
  | comment isComment rest ih =>
    obtain ⟨blanks, hblanks, hstripped⟩ := ih
    refine ⟨blanks, hblanks, ?_⟩
    intro bytes text hrest
    rw [List.append_assoc]
    exact .comment isComment (hstripped bytes text hrest)

theorem isPlain_envelopeMark : IsPlain envelopeMark := by
  unfold IsPlain
  decide

/-- What an envelope line leaves is a `%` between blanks. -/
theorem EnvelopeLine.stripped {bytes : List UInt8} (h : EnvelopeLine bytes) : ∃ before after : List UInt8,
    (∀ byte ∈ before, isBlank byte) ∧ (∀ byte ∈ after, isBlank byte) ∧
      Stripped bytes (before ++ envelopeMark :: after) := by
  obtain ⟨before, after, tail, hbefore, hafter, htail, rfl⟩ := h
  obtain ⟨first, hfirst, hstart⟩ := hbefore.stripped
  obtain ⟨second, hsecond, hend⟩ := hafter.stripped
  have hleft := hstart _ _ (.byte isPlain_envelopeMark (hend _ _ (.tail htail)))
  rw [List.append_nil] at hleft
  exact ⟨first, second, hfirst, hsecond, hleft⟩

/-- A value leaves its digits. -/
theorem ValueText.stripped {value digits bytes text : List UInt8} (h : ValueText value digits)
    (hrest : Stripped bytes text) : Stripped (value ++ bytes) (digits ++ text) := by
  induction h with
  | nil => exact hrest
  | byte plain _ _ ih => exact .byte plain ih
  | comment isComment _ ih =>
    rw [List.append_assoc]
    exact .comment isComment ih

/-- What is left starts where a gap without blanks ends. -/
theorem Stripped.cons_inv {bytes text : List UInt8} {byte : UInt8}
    (h : Stripped bytes (byte :: text)) : ∃ comments rest, Gap comments ∧
      (∀ value digits, ValueText value digits → ValueText (comments ++ value) digits) ∧
      bytes = comments ++ byte :: rest ∧ IsPlain byte ∧ Stripped rest text := by
  generalize hleft : byte :: text = left at h
  induction h with
  | tail => cases hleft
  | byte plain rest _ =>
    cases hleft
    exact ⟨[], _, .nil, fun _ _ h => h, rfl, plain, rest⟩
  | comment isComment _ ih =>
    obtain ⟨comments, rest, hgap, hvalue, rfl, hplain, hrest⟩ := ih hleft
    refine ⟨_, rest, .comment isComment hgap, ?_, by rw [List.append_assoc], hplain, hrest⟩
    intro value digits h
    rw [List.append_assoc]
    exact .comment isComment (hvalue value digits h)

/-- Where nothing is left there are only comments. -/
theorem Stripped.nil_inv {bytes : List UInt8} (h : Stripped bytes []) :
    ∃ comments tail, Gap comments ∧ IsTail tail ∧ bytes = comments ++ tail := by
  generalize hleft : ([] : List UInt8) = left at h
  induction h with
  | tail ends => exact ⟨[], _, .nil, ends, rfl⟩
  | byte => cases hleft
  | comment isComment _ ih =>
    obtain ⟨comments, tail, hgap, htail, rfl⟩ := ih hleft
    exact ⟨_, tail, .comment isComment hgap, htail, by rw [List.append_assoc]⟩

/-- Leading blanks of what is left come from a gap. -/
theorem Stripped.blanks_inv {bytes blanks text : List UInt8} (hblanks : ∀ b ∈ blanks, isBlank b)
    (h : Stripped bytes (blanks ++ text)) :
    ∃ gap rest, Gap gap ∧ bytes = gap ++ rest ∧ Stripped rest text := by
  induction blanks generalizing bytes with
  | nil => exact ⟨[], bytes, .nil, rfl, h⟩
  | cons byte blanks ih =>
    obtain ⟨comments, rest, hgap, -, rfl, -, hrest⟩ := Stripped.cons_inv h
    obtain ⟨gap, last, hlater, rfl, hlast⟩ :=
      ih (fun b hb => hblanks b (List.mem_cons_of_mem _ hb)) hrest
    refine ⟨comments ++ byte :: gap, last, ?_, by simp, hlast⟩
    exact hgap.append (.blank (hblanks byte List.mem_cons_self) hlater)

/-- Leading value bytes of what is left come from the text of a value. -/
theorem Stripped.value_inv {bytes digits text : List UInt8}
    (hdigits : ∀ b ∈ digits, isValueByte b) (h : Stripped bytes (digits ++ text)) :
    ∃ value rest, ValueText value digits ∧ bytes = value ++ rest ∧ Stripped rest text := by
  induction digits generalizing bytes with
  | nil => exact ⟨[], bytes, .nil, rfl, h⟩
  | cons byte digits ih =>
    obtain ⟨comments, rest, -, hvalue, rfl, hplain, hrest⟩ := Stripped.cons_inv h
    obtain ⟨value, last, hlater, rfl, hlast⟩ :=
      ih (fun b hb => hdigits b (List.mem_cons_of_mem _ hb)) hrest
    refine ⟨comments ++ byte :: value, last, ?_, by simp, hlast⟩
    exact hvalue _ _ (.byte hplain (hdigits byte List.mem_cons_self) hlater)

/-! ## Words -/

/-- Trimming takes blanks from both ends. -/
theorem trim_spec (text : List UInt8) : ∃ before after : List UInt8,
    (∀ byte ∈ before, isBlank byte) ∧ (∀ byte ∈ after, isBlank byte) ∧
      text = before ++ (trimAsciiWhitespace text ++ after) := by
  refine ⟨text.takeWhile isBlank, (text.dropWhile isBlank).rtakeWhile isBlank, ?_, ?_, ?_⟩
  · intro byte hbyte
    exact List.mem_takeWhile_imp hbyte
  · intro byte hbyte
    exact List.mem_rtakeWhile_imp hbyte
  · rw [trimAsciiWhitespace, List.rdropWhile_append_rtakeWhile, List.takeWhile_append_dropWhile]

theorem trim_eq_nil {text : List UInt8} :
    trimAsciiWhitespace text = [] ↔ ∀ byte ∈ text, isBlank byte := by
  constructor
  · intro h
    obtain ⟨before, after, hbefore, hafter, htext⟩ := trim_spec text
    rw [h, List.nil_append] at htext
    rw [htext]
    intro byte hbyte
    rcases List.mem_append.1 hbyte with hbyte | hbyte
    · exact hbefore byte hbyte
    · exact hafter byte hbyte
  · intro h
    rw [trimAsciiWhitespace, List.dropWhile_eq_nil_iff.2 h, List.rdropWhile_nil]

/-- How many bytes of a text are visible. -/
def visible (text : List UInt8) : Nat := text.countP (!isBlank ·)

theorem visible_eq_zero {text : List UInt8} : visible text = 0 ↔ ∀ byte ∈ text, isBlank byte := by
  simp [visible]

theorem dropWhile_eq_cons {byte : UInt8} {text rest : List UInt8}
    (h : text.dropWhile isBlank = byte :: rest) : isBlank byte = false := by
  have hhead := List.head?_dropWhile_not isBlank text
  rw [h] at hhead
  simpa using hhead

theorem isBlank_not_isValueByte {byte : UInt8} (h : isBlank byte) : isValueByte byte = false := by
  rw [isValueByte, h]
  simp

theorem isAlphabetic_not_isBlank {byte : UInt8} (h : isAlphabetic byte) : isBlank byte = false := by
  revert byte
  decide +kernel

theorem ValueText.isValueByte {value digits : List UInt8} (h : ValueText value digits) :
    ∀ byte ∈ digits, isValueByte byte := by
  induction h with
  | nil => simp
  | byte _ hbyte _ ih =>
    intro other hother
    rcases List.mem_cons.1 hother with rfl | hother
    · exact hbyte
    · exact ih other hother
  | comment _ _ ih => exact ih

/-- What is left of a line that is written as words: their letters and digits with blanks around
them. -/
inductive Spaced : List (UInt8 × List UInt8) → List UInt8 → Prop
  | nil {blanks : List UInt8} (blank : ∀ byte ∈ blanks, isBlank byte) : Spaced [] blanks
  | cons {blanks digits later : List UInt8} {letter : UInt8} {spelled : List (UInt8 × List UInt8)}
      (blank : ∀ byte ∈ blanks, isBlank byte) (isAlphabetic : isAlphabetic letter)
      (isValue : ∀ byte ∈ digits, isValueByte byte) (rest : Spaced spelled later) :
      Spaced ((letter, digits) :: spelled) (blanks ++ letter :: (digits ++ later))

section Words

variable [ExactCurves] [DecimalParser] {line maximum length fuel : Nat} {bytes text : List UInt8}
  {words : List ParsedWord}

/-- What the text of a word means. -/
def WordMeaning (text : List UInt8) (word : ParsedWord) : Prop :=
  ∃ letter digits, WordText text letter digits ∧ word.letter = Char.ofUInt8 (toUpper letter) ∧
    parseExactDecimal digits = .ok word.value

omit [DecimalParser] in
theorem WordText.unique {letter letter' : UInt8} {digits digits' : List UInt8}
    (h : WordText text letter digits) (h' : WordText text letter' digits') :
    letter = letter' ∧ digits = digits' := by
  obtain ⟨-, value, rfl, hvalue⟩ := h
  obtain ⟨-, value', hsame, hvalue'⟩ := h'
  cases hsame
  have hfirst := hvalue.stripped (.tail (Or.inl rfl))
  have hsecond := hvalue'.stripped (.tail (Or.inl rfl))
  have hsame := hfirst.unique hsecond
  rw [List.append_nil, List.append_nil] at hsame
  exact ⟨rfl, hsame⟩

theorem WordMeaning.unique {word word' : ParsedWord} (h : WordMeaning text word)
    (h' : WordMeaning text word') : word = word' := by
  obtain ⟨letter, digits, htext, hletter, hvalue⟩ := h
  obtain ⟨letter', digits', htext', hletter', hvalue'⟩ := h'
  obtain ⟨rfl, rfl⟩ := htext.unique htext'
  obtain ⟨name, value⟩ := word
  obtain ⟨name', value'⟩ := word'
  rw [hvalue, Except.ok.injEq] at hvalue'
  simp_all

/-- An error that reports a size. -/
def CncGeometryImportError.IsLimit : CncGeometryImportError → Prop
  | .sourceTooLarge _ _ | .tooManyLines _ _ | .lineTooLong _ _ _ | .decimalTooLong _ _ _ _
  | .tooManyWords _ _ | .tooManyCurves _ _ => True
  | _ => False

/-- The result is a given one, unless a limit was exceeded. -/
def UpToLimits {α : Type} (result : CncGeometryImportResult α) (value : α) : Prop :=
  result = .ok value ∨ ∃ error, result = .error error ∧ error.IsLimit

theorem lexFrom_blanks (h : ∀ byte ∈ text, isBlank byte) :
    lexFrom line maximum length fuel text = .ok [] := by
  cases fuel with
  | zero => rfl
  | succ fuel => rw [lexFrom, List.dropWhile_eq_nil_iff.2 h]

/-- Blanks before a text are not read. -/
theorem lexFrom_before {before : List UInt8} (h : ∀ byte ∈ before, isBlank byte) :
    lexFrom line maximum length fuel (before ++ text) =
      lexFrom line maximum length fuel text := by
  cases fuel with
  | zero => rfl
  | succ fuel => rw [lexFrom, lexFrom, List.dropWhile_append_of_pos h]

/-- Blanks after a text are not read. -/
theorem lexFrom_after {after : List UInt8} (h : ∀ byte ∈ after, isBlank byte) :
    lexFrom line maximum (length + after.length) fuel (text ++ after) =
      lexFrom line maximum length fuel text := by
  have hvalue : after.takeWhile isValueByte = [] ∧ after.dropWhile isValueByte = after := by
    cases after with
    | nil => simp
    | cons byte after => simp [isBlank_not_isValueByte (h byte List.mem_cons_self)]
  induction fuel generalizing text with
  | zero => rfl
  | succ fuel ih =>
    rw [lexFrom, lexFrom, List.dropWhile_append]
    cases hdrop : text.dropWhile isBlank with
    | nil => simp [List.dropWhile_eq_nil_iff.2 h]
    | cons byte rest =>
      have htake : (rest ++ after).takeWhile isValueByte = rest.takeWhile isValueByte := by
        rw [List.takeWhile_append, hvalue.1]
        split
        · next hall =>
          rw [List.append_nil, (List.takeWhile_prefix isValueByte).eq_of_length hall]
        · rfl
      have hlater : (rest ++ after).dropWhile isValueByte =
          rest.dropWhile isValueByte ++ after := by
        rw [List.dropWhile_append]
        split
        · next hall => rw [hvalue.2, List.isEmpty_iff.1 hall, List.nil_append]
        · rfl
      have hcolumn : length + after.length - (rest ++ after).length = length - rest.length := by
        rw [List.length_append]
        omega
      simp only [List.isEmpty_cons, Bool.false_eq_true, if_false, List.cons_append, htake, hlater,
        hcolumn, ih]

/-- Reading a trimmed line is reading the line. -/
theorem lexWords_trim : ∃ length fuel, visible text ≤ fuel ∧
    lexWords (trimAsciiWhitespace text) line maximum =
      lexFrom line maximum length fuel text := by
  obtain ⟨before, after, hbefore, hafter, htext⟩ := trim_spec text
  have hvisible : visible text = visible (trimAsciiWhitespace text) := by
    have hnone : visible before = 0 ∧ visible after = 0 :=
      ⟨visible_eq_zero.2 hbefore, visible_eq_zero.2 hafter⟩
    unfold visible at hnone ⊢
    rw [htext, List.countP_append, List.countP_append, hnone.1, hnone.2, ← htext]
    omega
  refine ⟨(trimAsciiWhitespace text).length + after.length, (trimAsciiWhitespace text).length, ?_,
    ?_⟩
  · rw [hvisible]
    exact List.countP_le_length
  · have hread : lexFrom line maximum ((trimAsciiWhitespace text).length + after.length)
        (trimAsciiWhitespace text).length (trimAsciiWhitespace text ++ after) =
          lexWords (trimAsciiWhitespace text) line maximum := lexFrom_after hafter
    rw [← lexFrom_before hbefore, ← htext] at hread
    exact hread.symm

omit [ExactCurves] [DecimalParser] in
/-- Words start after the value bytes of the word before. -/
theorem Spaced.head {spelled : List (UInt8 × List UInt8)} (h : Spaced spelled text) :
    ∀ byte, text.head? = some byte → isValueByte byte = false := by
  intro byte hhead
  cases h with
  | nil blank => exact isBlank_not_isValueByte (blank byte (List.mem_of_head? hhead))
  | @cons blanks _ _ _ _ blank isAlphabetic _ _ =>
    cases blanks with
    | nil =>
      cases hhead
      simp [Cnc.isValueByte, isAlphabetic]
    | cons first blanks =>
      cases hhead
      exact isBlank_not_isValueByte (blank byte List.mem_cons_self)

omit [ExactCurves] [DecimalParser] in
/-- A line that is written as words leaves these words with blanks around them. -/
theorem spaced_of_layout {texts : List (List UInt8)} (h : Layout texts bytes) :
    ∃ spelled text, Stripped bytes text ∧ Spaced spelled text ∧
      List.Forall₂ (fun source word => WordText source word.1 word.2) texts spelled := by
  induction h with
  | tail isGap ends =>
    obtain ⟨blanks, hblanks, hstripped⟩ := isGap.stripped
    refine ⟨[], blanks, ?_, .nil hblanks, .nil⟩
    have hleft := hstripped _ _ (.tail ends)
    rwa [List.append_nil] at hleft
  | @word gap source bytes letter digits texts isGap isWord rest ih =>
    obtain ⟨spelled, later, hlater, hspaced, htexts⟩ := ih
    obtain ⟨blanks, hblanks, hgap⟩ := isGap.stripped
    have hword := isWord
    obtain ⟨halphabetic, value, rfl, hvalue⟩ := isWord
    refine ⟨(letter, digits) :: spelled, blanks ++ letter :: (digits ++ later), ?_,
      .cons hblanks halphabetic hvalue.isValueByte hspaced, .cons hword htexts⟩
    apply hgap
    exact .byte (isPlain_of_isAlphabetic halphabetic) (hvalue.stripped hlater)

/-- Read one spelled word. -/
def readWord (line maximum : Nat) (spelled : UInt8 × List UInt8) :
    CncGeometryImportResult ParsedWord := do
  failIf (maximum < spelled.2.length)
    (.decimalTooLong line (Char.ofUInt8 (toUpper spelled.1)) spelled.2.length maximum)
  let value ← (parseExactDecimal spelled.2).mapError
    (.invalidDecimal line (Char.ofUInt8 (toUpper spelled.1)))
  pure ⟨Char.ofUInt8 (toUpper spelled.1), value⟩

/-- Words with blanks around them are read one by one. -/
theorem lexFrom_of_spaced {spelled : List (UInt8 × List UInt8)} (h : Spaced spelled text)
    (hfuel : visible text ≤ fuel) :
    lexFrom line maximum length fuel text = spelled.mapM (readWord line maximum) := by
  induction h generalizing fuel with
  | nil blank => exact lexFrom_blanks blank
  | @cons blanks digits later letter spelled blank isAlphabetic isValue rest ih =>
    have hnotBlank : isBlank letter = false := isAlphabetic_not_isBlank isAlphabetic
    have hvisible : visible later + 1 ≤ fuel := by
      simp only [visible, List.countP_append, List.countP_cons, hnotBlank] at hfuel ⊢
      simp only [Bool.not_false, if_true] at hfuel
      omega
    have hnone : later.takeWhile isValueByte = [] ∧ later.dropWhile isValueByte = later := by
      cases later with
      | nil => simp
      | cons byte later => simp [rest.head byte rfl]
    obtain ⟨fuel, rfl⟩ : ∃ n, fuel = n + 1 := ⟨fuel - 1, by omega⟩
    have hread : lexFrom line maximum length fuel later = spelled.mapM (readWord line maximum) :=
      ih (by omega)
    rw [lexFrom_before blank, lexFrom, List.mapM_cons, readWord, ← hread]
    simp only [List.dropWhile_cons, hnotBlank, Bool.false_eq_true, if_false,
      List.takeWhile_append_of_pos isValue, List.dropWhile_append_of_pos isValue, hnone.1,
      hnone.2, List.append_nil, isAlphabetic, not_true_eq_false, bind_assoc, pure_bind]
    rw [Except.failIf_of_not id]
    rfl

/-- A word is read unless its value is too long. -/
private theorem readWord_of_meaning {source : List UInt8} {spelled : UInt8 × List UInt8}
    {word : ParsedWord} (hspelled : WordText source spelled.1 spelled.2)
    (hmeaning : WordMeaning source word) :
    readWord line maximum spelled = .ok word ∨ maximum < spelled.2.length ∧
      ∃ error, readWord line maximum spelled = .error error ∧ error.IsLimit := by
  obtain ⟨letter, digits, htext, hletter, hparsed⟩ := hmeaning
  obtain ⟨rfl, rfl⟩ := hspelled.unique htext
  unfold readWord
  by_cases hlong : maximum < spelled.2.length
  · refine Or.inr ⟨hlong, _, Except.bind_eq_error.2 (Or.inl (Except.failIf_eq_error.2
      ⟨hlong, rfl⟩)), trivial⟩
  · rw [Except.failIf_of_not hlong, hparsed, ← hletter]
    exact Or.inl rfl

private theorem readWords_of_meaning {texts : List (List UInt8)}
    {spelled : List (UInt8 × List UInt8)}
    (hspelled : List.Forall₂ (fun source word => WordText source word.1 word.2) texts spelled)
    (hmeanings : List.Forall₂ WordMeaning texts words) :
    spelled.mapM (readWord line maximum) = .ok words ∨
      (∃ word ∈ spelled, maximum < word.2.length) ∧
        ∃ error, spelled.mapM (readWord line maximum) = .error error ∧ error.IsLimit := by
  induction hspelled generalizing words with
  | nil =>
    cases hmeanings
    exact Or.inl rfl
  | @cons source word texts spelled hword hrest ih =>
    cases hmeanings with
    | @cons _ read _ reads hread hreads =>
      rw [List.mapM_cons]
      have hfirst : readWord line maximum word = .ok read ∨ maximum < word.2.length ∧
          ∃ error, readWord line maximum word = .error error ∧ error.IsLimit :=
        readWord_of_meaning hword hread
      rcases hfirst with hok | ⟨hlong, error, herror, hlimit⟩
      · rw [Except.bind_of_ok hok]
        rcases ih hreads with hoks | ⟨⟨other, hother, hlong⟩, error, herror, hlimit⟩
        · rw [Except.bind_of_ok hoks]
          exact Or.inl rfl
        · exact Or.inr ⟨⟨other, List.mem_cons_of_mem _ hother, hlong⟩, error,
            Except.bind_eq_error.2 (Or.inl herror), hlimit⟩
      · exact Or.inr ⟨⟨word, List.mem_cons_self, hlong⟩, error,
          Except.bind_eq_error.2 (Or.inl herror), hlimit⟩

/-- A line written as words is read as these words, whatever is in its gaps. -/
theorem lexFrom_of_layout {texts : List (List UInt8)} (h : Layout texts bytes)
    (hwords : List.Forall₂ WordMeaning texts words) :
    ∃ text, Stripped bytes text ∧ ∀ line maximum length fuel, visible text ≤ fuel →
      UpToLimits (lexFrom line maximum length fuel text) words := by
  obtain ⟨spelled, text, hstripped, hspaced, hspelled⟩ := spaced_of_layout h
  refine ⟨text, hstripped, ?_⟩
  intro line maximum length fuel hfuel
  rw [lexFrom_of_spaced hspaced hfuel]
  rcases readWords_of_meaning hspelled hwords with hok | ⟨-, hlimit⟩
  · exact Or.inl hok
  · exact Or.inr hlimit

/-- Two ways to find words in a line find words with the same meaning. -/
theorem meanings_of_layout {texts texts' : List (List UInt8)} (h : Layout texts bytes)
    (hwords : List.Forall₂ WordMeaning texts words) (h' : Layout texts' bytes) :
    List.Forall₂ WordMeaning texts' words := by
  obtain ⟨spelled, text, hstripped, hspaced, hspelled⟩ := spaced_of_layout h
  obtain ⟨spelled', text', hstripped', hspaced', hspelled'⟩ := spaced_of_layout h'
  obtain rfl := hstripped.unique hstripped'
  -- With a limit that no word exceeds both readings give the same words.
  have hread : spelled.mapM (readWord 0 ((spelled.map (·.2.length)).sum)) = .ok words := by
    rcases readWords_of_meaning hspelled hwords with hok | ⟨⟨word, hword, hlong⟩, -⟩
    · exact hok
    · have hle : word.2.length ≤ (spelled.map (·.2.length)).sum :=
        List.single_le_sum (by simp) _ (List.mem_map.2 ⟨word, hword, rfl⟩)
      omega
  have hfirst : lexFrom 0 ((spelled.map (·.2.length)).sum) 0 (visible text) text = _ :=
    lexFrom_of_spaced hspaced le_rfl
  rw [lexFrom_of_spaced hspaced' le_rfl, hread] at hfirst
  have hwords' := Except.mapM_eq_ok hfirst
  apply hspelled'.trans_of hwords'
  intro source spelled word hword hvalue
  simp only [readWord, Except.bind_eq_ok, Except.exists_unit, Except.failIf_eq_ok,
    Except.mapError_eq_ok, Except.pure_eq_ok] at hvalue
  obtain ⟨-, value, hvalue, rfl⟩ := hvalue
  exact ⟨spelled.1, spelled.2, hword, rfl, hvalue⟩

/-- What the word splitter reads was written as these words. -/
theorem layout_of_lexFrom (hstripped : Stripped bytes text) (hfuel : visible text ≤ fuel)
    (h : lexFrom line maximum length fuel text = .ok words) :
    ∃ texts, Layout texts bytes ∧ List.Forall₂ WordMeaning texts words := by
  induction fuel generalizing bytes text words with
  | zero =>
    cases h
    have hblanks := visible_eq_zero.1 (Nat.le_zero.1 hfuel)
    rw [← List.append_nil text] at hstripped
    obtain ⟨gap, rest, hgap, rfl, hrest⟩ := Stripped.blanks_inv hblanks hstripped
    obtain ⟨comments, tail, hcomments, htail, rfl⟩ := hrest.nil_inv
    rw [← List.append_assoc]
    exact ⟨[], .tail (hgap.append hcomments) htail, .nil⟩
  | succ fuel ih =>
    have hsplit := List.takeWhile_append_dropWhile (p := isBlank) (l := text)
    have hbefore : ∀ byte ∈ text.takeWhile isBlank, isBlank byte :=
      fun _ hbyte => List.mem_takeWhile_imp hbyte
    rw [← hsplit] at hstripped
    obtain ⟨gap, rest, hgap, rfl, hrest⟩ := Stripped.blanks_inv hbefore hstripped
    rw [lexFrom] at h
    cases hdrop : text.dropWhile isBlank with
    | nil =>
      rw [hdrop] at h hrest
      cases h
      obtain ⟨comments, tail, hcomments, htail, rfl⟩ := hrest.nil_inv
      rw [← List.append_assoc]
      exact ⟨[], .tail (hgap.append hcomments) htail, .nil⟩
    | cons letter left =>
      rw [hdrop] at h hrest
      simp only [Except.bind_eq_ok, Except.exists_unit, Except.failIf_eq_ok, not_not,
        Except.mapError_eq_ok, Except.pure_eq_ok] at h
      obtain ⟨halphabetic, -, value, hparsed, words, hwords, rfl⟩ := h
      obtain ⟨comments, rest, hcomments, -, rfl, -, hrest⟩ := hrest.cons_inv
      rw [← List.takeWhile_append_dropWhile (p := isValueByte) (l := left)] at hrest
      obtain ⟨source, last, hvalue, rfl, hlast⟩ :=
        hrest.value_inv fun _ hbyte => List.mem_takeWhile_imp hbyte
      have hvisible : visible (left.dropWhile isValueByte) ≤ fuel := by
        have hcount : visible text = visible (text.takeWhile isBlank) + visible (letter :: left) := by
          rw [visible, visible, visible, ← List.countP_append, ← hdrop, hsplit]
        have hletter : visible (letter :: left) = visible left + 1 := by
          simp [visible, dropWhile_eq_cons hdrop]
        have hlater : visible (left.dropWhile isValueByte) ≤ visible left :=
          (List.dropWhile_sublist _).countP_le
        omega
      obtain ⟨texts, hlayout, hmeanings⟩ := ih hlast hvisible hwords
      have hword : WordText (letter :: source) letter (left.takeWhile isValueByte) :=
        ⟨halphabetic, source, rfl, hvalue⟩
      refine ⟨(letter :: source) :: texts, ?_, .cons ⟨letter, _, hword, rfl, hparsed⟩ hmeanings⟩
      have hline := Layout.word (hgap.append hcomments) hword hlayout
      simpa using hline

omit [DecimalParser] in
/-- A line without words is one that leaves only blanks. -/
theorem layout_nil_iff (h : Stripped bytes text) :
    Layout [] bytes ↔ trimAsciiWhitespace text = [] := by
  rw [trim_eq_nil]
  constructor
  · intro hlayout
    cases hlayout with
    | tail isGap ends =>
      obtain ⟨blanks, hblanks, hstripped⟩ := isGap.stripped
      rw [h.unique (hstripped _ _ (.tail ends)), List.append_nil]
      exact hblanks
  · intro hblanks
    rw [← List.append_nil text] at h
    obtain ⟨gap, rest, hgap, rfl, hrest⟩ := Stripped.blanks_inv hblanks h
    obtain ⟨comments, tail, hcomments, htail, rfl⟩ := hrest.nil_inv
    rw [← List.append_assoc]
    exact .tail (hgap.append hcomments) htail

omit [DecimalParser] in
/-- An envelope line is one that leaves a `%`. -/
theorem envelopeLine_iff (h : Stripped bytes text) :
    EnvelopeLine bytes ↔ trimAsciiWhitespace text = [envelopeMark] := by
  constructor
  · intro henvelope
    obtain ⟨first, second, hfirst, hsecond, hleft⟩ := henvelope.stripped
    have hmark : ¬ isBlank envelopeMark := by decide
    rw [h.unique hleft, trimAsciiWhitespace, List.dropWhile_append_of_pos hfirst,
      List.dropWhile_cons_of_neg hmark, List.rdropWhile, List.reverse_cons,
      List.dropWhile_append_of_pos (by simpa using hsecond), List.dropWhile_cons_of_neg hmark]
    rfl
  · intro htrim
    obtain ⟨before, after, hbefore, hafter, htext⟩ := trim_spec text
    rw [htext, htrim] at h
    obtain ⟨gap, rest, hgap, rfl, hrest⟩ := Stripped.blanks_inv hbefore h
    obtain ⟨comments, rest, hcomments, -, rfl, -, hrest⟩ := Stripped.cons_inv hrest
    have hrest : Stripped rest (after ++ []) := by
      rw [List.append_nil]
      exact hrest
    obtain ⟨later, end_, hlater, rfl, hend⟩ := Stripped.blanks_inv hafter hrest
    obtain ⟨last, tail, hlast, htail, rfl⟩ := hend.nil_inv
    exact ⟨gap ++ comments, later ++ last, tail, hgap.append hcomments, hlater.append hlast, htail,
      by simp⟩

omit [ExactCurves] [DecimalParser] in
/-- A `%` is no word. -/
theorem Spaced.visible_head {spelled : List (UInt8 × List UInt8)} (h : Spaced spelled text) :
    ∀ byte, (text.dropWhile isBlank).head? = some byte → isAlphabetic byte := by
  intro byte hhead
  cases h with
  | nil blank =>
    rw [List.dropWhile_eq_nil_iff.2 blank] at hhead
    cases hhead
  | cons blank isAlphabetic _ _ =>
    have hnotBlank := isAlphabetic_not_isBlank isAlphabetic
    rw [List.dropWhile_append_of_pos blank,
      List.dropWhile_cons_of_neg (Bool.not_eq_true _ ▸ hnotBlank)] at hhead
    cases hhead
    exact isAlphabetic

omit [DecimalParser] in
/-- A line that is written as words is no envelope line. -/
theorem not_envelopeLine_of_layout {texts : List (List UInt8)} (h : Layout texts bytes) :
    ¬ EnvelopeLine bytes := by
  intro henvelope
  obtain ⟨spelled, text, hstripped, hspaced, -⟩ := spaced_of_layout h
  obtain ⟨before, after, hbefore, -, hleft⟩ := henvelope.stripped
  obtain rfl := hstripped.unique hleft
  have hmark : ¬ isBlank envelopeMark := by decide
  have halphabetic := hspaced.visible_head envelopeMark (by
    rw [List.dropWhile_append_of_pos hbefore, List.dropWhile_cons_of_neg hmark]
    rfl)
  cases halphabetic

omit [DecimalParser] in
/-- A line without words is not written with words. -/
theorem layout_nil_unique {texts : List (List UInt8)} (h : Layout texts bytes)
    (hblank : Layout [] bytes) : texts = [] := by
  obtain ⟨spelled, text, hstripped, hspaced, htexts⟩ := spaced_of_layout h
  rw [layout_nil_iff hstripped, trim_eq_nil] at hblank
  cases hspaced with
  | nil =>
    cases htexts
    rfl
  | @cons _ _ _ letter _ _ isAlphabetic _ _ =>
    have hletter := hblank letter (by simp)
    rw [isAlphabetic_not_isBlank isAlphabetic] at hletter
    cases hletter

end Words

end Alumina.Cnc
