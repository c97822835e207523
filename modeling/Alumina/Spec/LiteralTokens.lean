import Alumina.Graph.LiteralText
import Alumina.Spec.WirePrimitives

/-!
# Tokens of the literal notation

What the parser of graph literals does on one token: blanks, structural characters, keywords,
scalars up to the end of a value, quoted text with escapes, quoted bytes, and field names. Each
lemma is a run of the parser on the token and whatever follows it.

## Key results

- `runs_takeScalarToken`, `runs_takeIntervalTokens`: scalars end where the value ends
- `runs_parseText`, `runs_parseBytes`: quoted values read back
- `runs_takeRecordFieldName`: registered names read back
-/

namespace Alumina.Graph

namespace LiteralParser

/-! ## Where a value ends -/

/-- A text that may come after a value. -/
def Boundary (rest : List Char) : Prop := ∀ c ∈ rest.head?, isValueTerminator c = true

theorem boundary_nil : Boundary [] := fun _ h => by cases h

theorem boundary_cons {c : Char} {rest : List Char} (h : isValueTerminator c = true) :
    Boundary (c :: rest) := fun _ hmem => Option.mem_some.1 hmem ▸ h

/-- A text whose first character is not blank. -/
def Solid (text : List Char) : Prop := ∃ c rest, text = c :: rest ∧ isWhitespace c = false

theorem dropWhile_of_head {c : Char} {rest : List Char} (h : isWhitespace c = false) :
    (c :: rest).dropWhile isWhitespace = c :: rest := by
  rw [List.dropWhile_cons_of_neg (by simp [h])]

theorem Solid.dropWhile {text rest : List Char} (h : Solid text) :
    (text ++ rest).dropWhile isWhitespace = text ++ rest := by
  obtain ⟨c, tail, rfl, hc⟩ := h
  exact dropWhile_of_head hc

/-- A scalar token: not blank at either end, and without the end of a value. -/
structure Token (text : List Char) : Prop where
  solid : Solid text
  last : ∃ c ∈ text.getLast?, isWhitespace c = false
  plain : ∀ c ∈ text, isValueTerminator c = false

theorem Token.trim_eq {text : List Char} (h : Token text) : trim text = text := by
  obtain ⟨c, hlast, hc⟩ := h.last
  have hdrop : (text ++ []).dropWhile isWhitespace = text ++ [] := h.solid.dropWhile
  rw [List.append_nil] at hdrop
  unfold trim
  rw [hdrop]
  obtain ⟨front, rfl⟩ := List.getLast?_eq_some_iff.1 hlast
  rw [List.reverse_append, List.reverse_singleton, List.singleton_append, dropWhile_of_head hc,
    List.reverse_cons, List.reverse_reverse]

theorem Token.takeWhile {text rest : List Char} (h : Token text) (hrest : Boundary rest) :
    (text ++ rest).takeWhile (fun c => !isValueTerminator c) = text := by
  rw [List.takeWhile_append_of_pos fun c hc => by rw [h.plain c hc]; rfl]
  cases rest with
  | nil => simp
  | cons c rest => rw [List.takeWhile_cons_of_neg (by simp [hrest c rfl]), List.append_nil]

theorem Token.dropWhile {text rest : List Char} (h : Token text) (hrest : Boundary rest) :
    (text ++ rest).dropWhile (fun c => !isValueTerminator c) = rest := by
  rw [List.dropWhile_append_of_pos fun c hc => by rw [h.plain c hc]; rfl]
  cases rest with
  | nil => rfl
  | cons c rest => rw [List.dropWhile_cons_of_neg (by simp [hrest c rfl])]

/-! ## Steps of the parser -/

section Steps

variable {length nodes : Nat} {c : Char} {text rest : List Char}

theorem runs_nextChar :
    Runs nextChar ⟨length, c :: rest, nodes⟩ (some c) ⟨length, rest, nodes⟩ := rfl

theorem runs_peekChar {parser : LiteralParser} :
    Runs peekChar parser parser.remaining.head? parser := rfl

theorem runs_get {parser : LiteralParser} :
    Runs (get : Reader LiteralParser) parser parser parser := rfl

theorem runs_advance :
    Runs (advance rest) ⟨length, text, nodes⟩ () ⟨length, rest, nodes⟩ := rfl

theorem runs_skipWhitespace (h : Solid text) :
    Runs skipWhitespace ⟨length, text ++ rest, nodes⟩ () ⟨length, text ++ rest, nodes⟩ := by
  unfold skipWhitespace
  rw [runs_modify, h.dropWhile]

/-- A character that is not blank is where the parser stands after skipping blanks. -/
theorem runs_skipWhitespace_cons (h : isWhitespace c = false) :
    Runs skipWhitespace ⟨length, c :: rest, nodes⟩ () ⟨length, c :: rest, nodes⟩ := by
  have hsolid : Solid [c] := ⟨c, [], rfl, h⟩
  exact runs_skipWhitespace hsolid

theorem runs_expectChar (h : isWhitespace c = false) :
    Runs (expectChar c) ⟨length, c :: rest, nodes⟩ () ⟨length, rest, nodes⟩ := by
  refine (runs_skipWhitespace_cons h).bind (runs_nextChar.bind ?_)
  rw [if_pos rfl]
  exact rfl

theorem runs_consumeChar (h : isWhitespace c = false) :
    Runs (consumeChar c) ⟨length, c :: rest, nodes⟩ true ⟨length, rest, nodes⟩ := by
  refine (runs_skipWhitespace_cons h).bind (runs_peekChar.bind ?_)
  rw [List.head?_cons, if_pos rfl]
  exact runs_nextChar.bind rfl

theorem runs_consumeChar_other {other : Char} (h : isWhitespace c = false) (hother : c ≠ other) :
    Runs (consumeChar other) ⟨length, c :: rest, nodes⟩ false ⟨length, c :: rest, nodes⟩ := by
  refine (runs_skipWhitespace_cons h).bind (runs_peekChar.bind ?_)
  rw [List.head?_cons, if_neg (by simpa using hother)]
  exact rfl

theorem runs_expectKeyword {keyword : String} (h : Solid keyword.toList) :
    Runs (expectKeyword keyword) ⟨length, keyword.toList ++ rest, nodes⟩ ()
      ⟨length, rest, nodes⟩ := by
  refine (runs_skipWhitespace h).bind (runs_get.bind ?_)
  rw [if_pos (List.isPrefixOf_iff_prefix.2 (List.prefix_append _ _)), List.drop_left]
  exact rfl

theorem runs_expectSeparator {index : Nat} :
    Runs (expectSeparator index) ⟨length, (if index ≠ 0 then [','] else []) ++ rest, nodes⟩ ()
      ⟨length, rest, nodes⟩ := by
  unfold expectSeparator
  split_ifs
  · exact runs_expectChar (by decide)
  · exact rfl

theorem runs_takeScalarToken (h : Token text) (hrest : Boundary rest) :
    Runs takeScalarToken ⟨length, text ++ rest, nodes⟩ text ⟨length, rest, nodes⟩ := by
  refine (runs_skipWhitespace h.solid).bind (runs_get.bind ?_)
  rw [h.takeWhile hrest, h.dropWhile hrest, h.trim_eq]
  exact rfl

theorem runs_requireValueBoundary (h : Boundary rest) :
    Runs requireValueBoundary ⟨length, rest, nodes⟩ () ⟨length, rest, nodes⟩ := by
  refine runs_peekChar.bind ?_
  cases rest with
  | nil => exact rfl
  | cons c rest =>
    have hc := h c rfl
    dsimp only [List.head?_cons]
    rw [if_pos (by rw [hc]; rfl)]
    exact rfl

end Steps

/-! ## Rationals and intervals -/

section Rationals

variable [RationalDisplay] {length nodes : Nat} {rest : List Char}

theorem token_display (q : ℚ) : Token (RationalDisplay.display q).toList where
  solid := by
    obtain ⟨c, hc, hblank⟩ := RationalDisplay.display_head q
    obtain ⟨tail, htail⟩ := List.head?_eq_some_iff.1 hc
    exact ⟨c, tail, htail, hblank⟩
  last := by
    obtain ⟨c, hc, hblank, _⟩ := RationalDisplay.display_last q
    exact ⟨c, hc, hblank⟩
  plain := RationalDisplay.display_plain q

theorem runs_parseRational {valueType : GraphTypeId} {parser : LiteralParser} (q : ℚ) :
    Runs (parseRational valueType (RationalDisplay.display q).toList) parser q parser := by
  unfold parseRational
  rw [String.ofList_toList, runs_require]
  exact ⟨RationalDisplay.parse_display q, rfl⟩

omit [RationalDisplay] in
/-- The first `..` after a text that has none, and does not end in a full stop, is the one that
follows it. -/
theorem splitInterval_append {lower : List Char} (hplain : ∀ c ∈ lower, isValueTerminator c = false)
    (hinterval : ¬ ['.', '.'] <:+: lower) (hlast : ∀ c ∈ lower.getLast?, c ≠ '.') :
    splitInterval (lower ++ '.' :: '.' :: rest) = some (lower, rest) := by
  induction lower with
  | nil => rfl
  | cons c lower ih =>
    have hrest : splitInterval (lower ++ '.' :: '.' :: rest) = some (lower, rest) := by
      refine ih (fun d hd => hplain d (List.mem_cons_of_mem _ hd))
        (fun hinner => hinterval (hinner.trans (List.suffix_cons c lower).isInfix)) fun d hd => ?_
      cases lower with
      | nil => cases hd
      | cons e lower => exact hlast d (by rwa [List.getLast?_cons_cons])
    have hdots : ¬ (c = '.' ∧ (lower ++ '.' :: '.' :: rest).head? = some '.') := by
      intro hdots
      obtain ⟨rfl, hhead⟩ := hdots
      cases lower with
      | nil => exact hlast '.' rfl rfl
      | cons e lower =>
        obtain rfl : e = '.' := Option.some.inj hhead
        exact hinterval ⟨[], lower, rfl⟩
    rw [List.cons_append, splitInterval, if_neg (by simp [hplain c List.mem_cons_self]),
      if_neg hdots, hrest]
    rfl

theorem runs_takeIntervalTokens (lower upper : ℚ) (hrest : Boundary rest) :
    Runs takeIntervalTokens
      ⟨length, (RationalDisplay.display lower).toList ++
        '.' :: '.' :: ((RationalDisplay.display upper).toList ++ rest), nodes⟩
      ((RationalDisplay.display lower).toList, (RationalDisplay.display upper).toList)
      ⟨length, rest, nodes⟩ := by
  have htoken := token_display lower
  have hlast : ∀ c ∈ (RationalDisplay.display lower).toList.getLast?, c ≠ '.' := by
    intro c hc
    obtain ⟨d, hd, _, hdot⟩ := RationalDisplay.display_last lower
    rw [Option.mem_def] at hc hd
    rw [hd] at hc
    cases hc
    exact hdot
  have hsplit : splitInterval ((RationalDisplay.display lower).toList ++
      '.' :: '.' :: ((RationalDisplay.display upper).toList ++ rest)) = some (_, _) :=
    splitInterval_append htoken.plain (RationalDisplay.display_interval lower) hlast
  refine (runs_skipWhitespace htoken.solid).bind (runs_get.bind ?_)
  rw [hsplit]
  have hempty : (trim (RationalDisplay.display lower).toList).isEmpty = false := by
    rw [htoken.trim_eq]
    obtain ⟨c, tail, htext, _⟩ := htoken.solid
    rw [htext]
    rfl
  dsimp only
  rw [if_neg (by rw [hempty]; decide), htoken.trim_eq]
  exact runs_advance.bind ((runs_takeScalarToken (token_display upper) hrest).bind rfl)

end Rationals

/-! ## Integers -/

theorem isDigit_bounds {c : Char} (h : c.isDigit = true) : 48 ≤ c.toNat ∧ c.toNat ≤ 57 := by
  simpa [Char.isDigit, UInt32.le_iff_toNat_le] using h

theorem isWhitespace_of_isDigit {c : Char} (h : c.isDigit = true) : isWhitespace c = false := by
  have hc := isDigit_bounds h
  rw [← Bool.not_eq_true]
  intro hblank
  simp [isWhitespace] at hblank
  omega

theorem isValueTerminator_of_isDigit {c : Char} (h : c.isDigit = true) :
    isValueTerminator c = false := by
  have hc := isDigit_bounds h
  have hne : ∀ d : Char, ¬ (48 ≤ d.toNat ∧ d.toNat ≤ 57) → c ≠ d := fun d hd heq => hd (heq ▸ hc)
  simp [isValueTerminator, hne ',' (by decide), hne ']' (by decide), hne '\x7d' (by decide),
    hne ')' (by decide)]

theorem isDigit_of_mem_repr {n : Nat} {c : Char} (h : c ∈ n.repr.toList) : c.isDigit = true := by
  rw [Nat.toList_repr] at h
  exact Nat.isDigit_of_mem_toDigits (by decide) (by decide) h

theorem repr_ne_nil (n : Nat) : n.repr.toList ≠ [] := by
  rw [Nat.toList_repr]
  exact Nat.toDigits_ne_nil

/-- Decimal digits are a token, also after a sign. -/
theorem token_repr (n : Nat) (sign : List Char)
    (hsign : ∀ c ∈ sign, isWhitespace c = false ∧ isValueTerminator c = false) :
    Token (sign ++ n.repr.toList) where
  solid := by
    cases htext : sign ++ n.repr.toList with
    | nil => exact absurd (List.append_eq_nil_iff.1 htext).2 (repr_ne_nil n)
    | cons c rest =>
      refine ⟨c, rest, rfl, ?_⟩
      have hmem : c ∈ sign ++ n.repr.toList := htext ▸ List.mem_cons_self
      obtain hmem | hmem := List.mem_append.1 hmem
      · exact (hsign c hmem).1
      · exact isWhitespace_of_isDigit (isDigit_of_mem_repr hmem)
  last := by
    have hlast := List.getLast?_eq_getLast_of_ne_nil (repr_ne_nil n)
    refine ⟨n.repr.toList.getLast (repr_ne_nil n), ?_, ?_⟩
    · rw [Option.mem_def, List.getLast?_append, hlast, Option.some_or]
    · exact isWhitespace_of_isDigit (isDigit_of_mem_repr (List.getLast_mem _))
  plain := by
    intro c hc
    obtain hmem | hmem := List.mem_append.1 hc
    · exact (hsign c hmem).2
    · exact isValueTerminator_of_isDigit (isDigit_of_mem_repr hmem)

theorem decimal_repr (n : Nat) : decimal n.repr.toList = some n := by
  have hall : n.repr.toList.all Char.isDigit = true :=
    List.all_eq_true.2 fun c hc => isDigit_of_mem_repr hc
  have hempty : n.repr.toList.isEmpty = false := by
    rw [← Bool.not_eq_true, List.isEmpty_iff]
    exact repr_ne_nil n
  unfold decimal
  rw [hall, hempty, Nat.toList_repr, Nat.ofDigitChars_ten_toDigits]
  rfl

/-- Digits alone carry no sign. -/
theorem parseI64_digits {digits : List Char} (h : ∀ c ∈ digits, c.isDigit = true) :
    parseI64 digits = (decimal digits).bind fun n => i64OfInt n := by
  unfold parseI64
  split
  · exact absurd (h _ List.mem_cons_self) (by decide)
  · exact absurd (h _ List.mem_cons_self) (by decide)
  · rfl

theorem parseU64_digits {digits : List Char} (h : ∀ c ∈ digits, c.isDigit = true) :
    parseU64 digits = (decimal digits).bind u64OfNat := by
  unfold parseU64
  split
  · exact absurd (h _ List.mem_cons_self) (by decide)
  · rfl

theorem i64OfInt_toInt (value : Int64) : i64OfInt value.toInt = some value := by
  unfold i64OfInt
  rw [if_pos ⟨Int64.le_toInt value, Int64.toInt_lt value⟩, Int64.ofInt_toInt]

theorem u64OfNat_toNat (value : UInt64) : u64OfNat value.toNat = some value := by
  unfold u64OfNat
  rw [if_pos value.toNat_lt, UInt64.ofNat_toNat]

theorem parseU64_toString (value : UInt64) :
    parseU64 (toString value.toNat).toList = some value := by
  rw [show toString value.toNat = value.toNat.repr from rfl,
    parseU64_digits fun c hc => isDigit_of_mem_repr hc, decimal_repr]
  exact u64OfNat_toNat value

theorem token_toString_nat (n : Nat) : Token (toString n).toList :=
  token_repr n [] fun c hc => by cases hc

theorem parseI64_toString (value : Int64) :
    parseI64 (toString value.toInt).toList = some value := by
  have hvalue := i64OfInt_toInt value
  cases hint : value.toInt with
  | ofNat n =>
    rw [show toString (Int.ofNat n) = n.repr from rfl,
      parseI64_digits fun c hc => isDigit_of_mem_repr hc, decimal_repr, Option.bind_some]
    rw [hint, Int.ofNat_eq_natCast] at hvalue
    exact hvalue
  | negSucc n =>
    rw [show toString (Int.negSucc n) = "-" ++ (n + 1).repr from rfl, String.toList_append]
    change ((decimal (n + 1).repr.toList).bind fun m => i64OfInt (-(m : Int))) = _
    rw [decimal_repr, Option.bind_some, Nat.cast_add, Nat.cast_one]
    rw [hint, Int.negSucc_eq] at hvalue
    exact hvalue

theorem token_toString_int (n : Int) : Token (toString n).toList := by
  cases n with
  | ofNat n => exact token_repr n [] fun c hc => by cases hc
  | negSucc n =>
    rw [show toString (Int.negSucc n) = "-" ++ (n + 1).repr from rfl, String.toList_append]
    refine token_repr (n + 1) "-".toList fun c hc => ?_
    obtain rfl : c = '-' := by simpa using hc
    exact ⟨by decide, by decide⟩

/-! ## Text -/

section Text

variable {length nodes : Nat} {rest : List Char}

/-- The digits of a Unicode escape are read up to its closing brace. -/
theorem runs_escapeDigits {room : Nat} {digits : List Char}
    (hdigits : ∀ c ∈ digits, isAsciiHexDigit c = true) (hroom : digits.length ≤ room) :
    Runs (escapeDigits room) ⟨length, digits ++ '\x7d' :: rest, nodes⟩ digits
      ⟨length, '\x7d' :: rest, nodes⟩ := by
  induction digits generalizing room with
  | nil => cases room <;> exact runs_peekChar.bind rfl
  | cons c digits ih =>
    cases room with
    | zero => simp at hroom
    | succ room =>
      have hc := hdigits c List.mem_cons_self
      have hbrace : c ≠ '\x7d' := by
        rintro rfl
        exact absurd hc (by decide)
      refine runs_peekChar.bind ?_
      dsimp only [List.cons_append, List.head?_cons]
      rw [if_neg hbrace, if_pos hc]
      have hrest := ih (fun d hd => hdigits d (List.mem_cons_of_mem _ hd))
        (show digits.length ≤ room by simpa using hroom)
      exact runs_nextChar.bind (hrest.bind rfl)

theorem isValidChar_of_lt {n : Nat} (h : n < 160) : n.isValidChar := Or.inl (by omega)

/-- The sixteen digits. -/
theorem hexNibble_digitChar : ∀ n < 16, hexNibble (Nat.digitChar n) = some n ∧
    isAsciiHexDigit (Nat.digitChar n) = true ∧ Nat.digitChar n ≠ quote := by
  decide

/-- The code of a control character in hexadecimal digits. -/
theorem hexadecimal_control {n : Nat} (h : n < 160) :
    (∀ c ∈ Nat.toDigits 16 n, isAsciiHexDigit c = true) ∧ (Nat.toDigits 16 n).length ≤ 6 ∧
      (Nat.toDigits 16 n).isEmpty = false ∧ hexadecimal (Nat.toDigits 16 n) = some n := by
  by_cases hsmall : n < 16
  · obtain ⟨hvalue, hdigit, _⟩ := hexNibble_digitChar n hsmall
    rw [Nat.toDigits_of_lt_base hsmall]
    simp [hexadecimal, hvalue, hdigit]
  · have hhigh : n / 16 < 16 := by omega
    obtain ⟨hvalue, hdigit, _⟩ := hexNibble_digitChar (n / 16) hhigh
    obtain ⟨hvalue', hdigit', _⟩ := hexNibble_digitChar (n % 16) (Nat.mod_lt _ (by decide))
    rw [Nat.toDigits_of_base_le (by decide) (by omega), Nat.toDigits_of_lt_base hhigh]
    have hparts := Nat.div_add_mod n 16
    simp [hexadecimal, hvalue, hvalue', hdigit, hdigit', hparts]

theorem runs_parseUnicodeEscape {c : Char} (h : c.toNat < 160) :
    Runs parseUnicodeEscape
      ⟨length, '\x7b' :: (Nat.toDigits 16 c.toNat ++ '\x7d' :: rest), nodes⟩ c
      ⟨length, rest, nodes⟩ := by
  obtain ⟨hdigits, hlength, hempty, hvalue⟩ := hexadecimal_control h
  refine runs_nextChar.bind ?_
  rw [if_neg (by simp)]
  refine (runs_escapeDigits hdigits hlength).bind ?_
  rw [if_neg (by simp [hempty])]
  refine runs_nextChar.bind ?_
  rw [if_neg (by simp), hvalue]
  dsimp only
  rw [if_pos (isValidChar_of_lt h), Char.ofNat_toNat]
  exact rfl

theorem toNat_lt_of_isControl {c : Char} (h : isControl c = true) : c.toNat < 160 := by
  simp only [isControl, Bool.or_eq_true, Bool.and_eq_true, decide_eq_true_eq] at h
  omega

/-- The escape of a character is read as that character. -/
theorem runs_textCharacters_escape (c : Char) {passes : Nat} {tail : List Char}
    {after : LiteralParser}
    (h : Runs (textCharacters passes) ⟨length, rest, nodes⟩ tail after) :
    Runs (textCharacters (passes + 1)) ⟨length, (escape c).toList ++ rest, nodes⟩ (c :: tail)
      after := by
  have hescaped : ∀ (tag : List Char), Runs parseEscape ⟨length, tag ++ rest, nodes⟩ c
      ⟨length, rest, nodes⟩ → Runs (textCharacters (passes + 1))
        ⟨length, backslash :: (tag ++ rest), nodes⟩ (c :: tail) after := by
    intro tag htag
    refine runs_nextChar.bind ?_
    dsimp only
    rw [if_neg (by decide), if_pos rfl]
    exact htag.bind (h.bind rfl)
  unfold escape
  split
  case isTrue hc =>
    subst hc
    exact hescaped [quote] rfl
  case isFalse hquote =>
    split
    case isTrue hc =>
      subst hc
      exact hescaped [backslash] rfl
    case isFalse hbackslash =>
      split
      case isTrue hc =>
        subst hc
        exact hescaped ['n'] rfl
      case isFalse =>
        split
        case isTrue hc =>
          subst hc
          exact hescaped ['r'] rfl
        case isFalse =>
          split
          case isTrue hc =>
            subst hc
            exact hescaped ['t'] rfl
          case isFalse =>
            split
            case isTrue hc =>
              subst hc
              exact hescaped ['0'] rfl
            case isFalse =>
              split
              case isTrue hcontrol =>
                have hunicode : Runs parseUnicodeEscape
                    ⟨length, '\x7b' :: (Nat.toDigits 16 c.toNat ++ '\x7d' :: rest), nodes⟩ c
                    ⟨length, rest, nodes⟩ :=
                  runs_parseUnicodeEscape (toNat_lt_of_isControl hcontrol)
                have htext : ("\\u\x7b" ++ String.ofList (Nat.toDigits 16 c.toNat) ++
                    "\x7d").toList ++ rest = backslash ::
                      ('u' :: '\x7b' :: (Nat.toDigits 16 c.toNat ++ ['\x7d']) ++ rest) := by
                  simp [String.toList_append, backslash]
                rw [htext]
                refine hescaped ('u' :: '\x7b' :: (Nat.toDigits 16 c.toNat ++ ['\x7d'])) ?_
                refine runs_nextChar.bind ?_
                dsimp only
                rw [if_neg (by decide), if_neg (by decide), if_neg (by decide),
                  if_neg (by decide), if_neg (by decide), if_neg (by decide), if_pos rfl]
                simpa using hunicode
              case isFalse hplain =>
                rw [String.toList_singleton]
                refine runs_nextChar.bind ?_
                dsimp only
                rw [if_neg hquote, if_neg hbackslash, if_neg hplain]
                exact h.bind rfl

/-- The escaped characters of a text are read up to the closing quote. -/
theorem runs_textCharacters (value : List Char) {passes : Nat} (hpasses : value.length < passes) :
    Runs (textCharacters passes)
      ⟨length, value.flatMap (fun c => (escape c).toList) ++ quote :: rest, nodes⟩ value
      ⟨length, rest, nodes⟩ := by
  induction value generalizing passes with
  | nil =>
    cases passes with
    | zero => simp at hpasses
    | succ passes => exact runs_nextChar.bind rfl
  | cons c value ih =>
    cases passes with
    | zero => simp at hpasses
    | succ passes =>
      rw [List.flatMap_cons, List.append_assoc]
      exact runs_textCharacters_escape c (ih (by simpa using hpasses))

theorem escape_ne_nil (c : Char) : (escape c).toList ≠ [] := by
  unfold escape
  split_ifs <;> simp [String.toList_append]

theorem length_le_flatMap_escape (value : List Char) :
    value.length ≤ (value.flatMap fun c => (escape c).toList).length := by
  induction value with
  | nil => exact le_refl _
  | cons c value ih =>
    have hc := List.length_pos_iff.2 (escape_ne_nil c)
    rw [List.flatMap_cons, List.length_append, List.length_cons]
    omega

/-- The quoted form of a text. -/
def quoted (value : String) : List Char :=
  quote :: (value.toList.flatMap (fun c => (escape c).toList) ++ [quote])

theorem runs_parseText (value : String) :
    Runs parseText ⟨length, quoted value ++ rest, nodes⟩ value ⟨length, rest, nodes⟩ := by
  have htext : quoted value ++ rest =
      quote :: (value.toList.flatMap (fun c => (escape c).toList) ++ quote :: rest) := by
    simp [quoted]
  rw [htext]
  refine (runs_expectChar (by decide)).bind (runs_get.bind ?_)
  have hpasses : value.toList.length < (value.toList.flatMap (fun c => (escape c).toList) ++
      quote :: rest).length + 1 := by
    have hle := length_le_flatMap_escape value.toList
    rw [List.length_append]
    omega
  refine (runs_textCharacters value.toList hpasses).bind ?_
  rw [String.ofList_toList]
  exact rfl

end Text

/-! ## Bytes -/

section Bytes

variable {length nodes : Nat} {rest : List Char}

/-- The two digits of a byte. -/
def hexPair (byte : UInt8) : List Char :=
  [Nat.digitChar (byte >>> 4).toNat, Nat.digitChar (byte &&& 0x0f).toNat]

theorem nibbles (byte : UInt8) : (byte >>> 4).toNat < 16 ∧ (byte &&& 0x0f).toNat < 16 ∧
    16 * (byte >>> 4).toNat + (byte &&& 0x0f).toNat = byte.toNat := by
  have hbyte := byte.toNat_lt
  have hhigh : (byte >>> 4).toNat = byte.toNat / 16 := by
    rw [UInt8.toNat_shiftRight]
    exact Nat.shiftRight_eq_div_pow _ _
  have hlow : (byte &&& 0x0f).toNat = byte.toNat % 16 := by
    rw [UInt8.toNat_and]
    exact Nat.and_two_pow_sub_one_eq_mod byte.toNat 4
  rw [hhigh, hlow]
  omega

theorem hexPairs_hexPair (bytes : List UInt8) : hexPairs (bytes.flatMap hexPair) = some bytes := by
  induction bytes with
  | nil => rfl
  | cons byte bytes ih =>
    obtain ⟨hhigh, hlow, hbyte⟩ := nibbles byte
    rw [List.flatMap_cons]
    change (hexNibble (Nat.digitChar (byte >>> 4).toNat)).bind (fun high =>
      (hexNibble (Nat.digitChar (byte &&& 0x0f).toNat)).bind fun low =>
        (hexPairs (bytes.flatMap hexPair)).bind fun rest =>
          some (UInt8.ofNat (16 * high + low) :: rest)) = _
    rw [(hexNibble_digitChar _ hhigh).1, (hexNibble_digitChar _ hlow).1, ih]
    simp only [Option.bind_some]
    rw [hbyte, UInt8.ofNat_toNat]

theorem mem_hexPairs {bytes : List UInt8} {c : Char} (h : c ∈ bytes.flatMap hexPair) :
    isAsciiHexDigit c = true ∧ c ≠ quote := by
  obtain ⟨byte, _, hc⟩ := List.mem_flatMap.1 h
  obtain ⟨hhigh, hlow, _⟩ := nibbles byte
  obtain rfl | hc := List.mem_cons.1 hc
  · exact (hexNibble_digitChar _ hhigh).2
  · rw [List.mem_singleton.1 hc]
    exact (hexNibble_digitChar _ hlow).2

/-- The quoted digits of bytes. -/
def hexQuoted (bytes : List UInt8) : List Char :=
  "hex\"".toList ++ (bytes.flatMap hexPair ++ [quote])

theorem runs_parseBytes (valueType : GraphTypeId) (bytes : List UInt8) :
    Runs (parseBytes valueType) ⟨length, hexQuoted bytes ++ rest, nodes⟩ bytes
      ⟨length, rest, nodes⟩ := by
  have htext : hexQuoted bytes ++ rest =
      "hex".toList ++ (quote :: (bytes.flatMap hexPair ++ quote :: rest)) := by
    simp [hexQuoted, quote]
  have hdigits : ∀ c ∈ bytes.flatMap hexPair, decide (c ≠ quote) = true := fun c hc =>
    decide_eq_true (mem_hexPairs hc).2
  have htake : (bytes.flatMap hexPair ++ quote :: rest).takeWhile (· ≠ quote) =
      bytes.flatMap hexPair := by
    rw [List.takeWhile_append_of_pos hdigits, List.takeWhile_cons_of_neg (by simp),
      List.append_nil]
  have hdrop : (bytes.flatMap hexPair ++ quote :: rest).dropWhile (· ≠ quote) = quote :: rest := by
    rw [List.dropWhile_append_of_pos hdigits, List.dropWhile_cons_of_neg (by simp)]
  rw [htext]
  refine (runs_expectKeyword ⟨'h', ['e', 'x'], rfl, by decide⟩).bind ?_
  refine (runs_skipWhitespace_cons (by decide)).bind (runs_nextChar.bind ?_)
  refine (Runs.passed (by simp)).bind (runs_get.bind ?_)
  rw [htake, hdrop]
  have hall : (bytes.flatMap hexPair).all isAsciiHexDigit = true :=
    List.all_eq_true.2 fun c hc => (mem_hexPairs hc).1
  refine (Runs.passed (by simp [hall])).bind (runs_advance.bind (runs_nextChar.bind ?_))
  refine (Runs.passed (by simp)).bind (runs_require.2 ⟨?_, rfl⟩)
  exact hexPairs_hexPair bytes

end Bytes

/-! ## Field names -/

/-- The code of a character of a stable name. -/
def IsNameCode (code : Nat) : Prop :=
  (65 ≤ code ∧ code ≤ 90) ∨ (97 ≤ code ∧ code ≤ 122) ∨ (48 ≤ code ∧ code ≤ 57) ∨ code = 95 ∨
    code = 45 ∨ code = 46

/-- An ASCII byte of a character is the character. -/
theorem exists_mem_utf8EncodeChar (c : Char) :
    ∃ byte ∈ String.utf8EncodeChar c, byte.toNat < 128 → byte.toNat = c.toNat := by
  unfold String.utf8EncodeChar
  dsimp only
  split_ifs with hone
  · refine ⟨_, List.mem_cons_self, fun _ => ?_⟩
    rw [UInt8.toNat_ofNat']
    exact Nat.mod_eq_of_lt (by omega)
  all_goals exact ⟨_, List.mem_cons_self, fun h => by simp at h; omega⟩

theorem isNameCode_of_validStableName {name : String} (h : validStableName name = true) {c : Char}
    (hc : c ∈ name.toList) : IsNameCode c.toNat := by
  simp only [validStableName, Bool.and_eq_true, List.all_eq_true] at h
  obtain ⟨byte, hbyte, hascii⟩ := exists_mem_utf8EncodeChar c
  have hmem : byte ∈ utf8Bytes name := by
    rw [← String.ofList_toList (s := name), utf8Bytes_ofList]
    exact List.mem_flatMap.2 ⟨c, hc, hbyte⟩
  have hcode := h.2 byte hmem
  simp [isAsciiAlphanumeric, isAsciiAlphabetic, isAsciiDigit, UInt8.le_iff_toNat_le,
    ← UInt8.toNat_inj] at hcode
  have heq := hascii (by omega)
  unfold IsNameCode
  omega

theorem isWhitespace_of_isNameCode {c : Char} (h : IsNameCode c.toNat) :
    isWhitespace c = false := by
  unfold IsNameCode at h
  rw [← Bool.not_eq_true]
  intro hblank
  simp [isWhitespace] at hblank
  omega

theorem ne_of_isNameCode {c d : Char} (h : IsNameCode c.toNat) (hd : ¬ IsNameCode d.toNat) :
    c ≠ d := by
  rintro rfl
  exact hd h

theorem splitFieldName_append {name rest : List Char} (h : ∀ c ∈ name, IsNameCode c.toNat) :
    splitFieldName (name ++ ':' :: rest) = some (name, ':' :: rest) := by
  induction name with
  | nil => rfl
  | cons c name ih =>
    have hc := h c List.mem_cons_self
    have hcolon : c ≠ ':' := ne_of_isNameCode hc (by unfold IsNameCode; decide)
    have hcomma : c ≠ ',' := ne_of_isNameCode hc (by unfold IsNameCode; decide)
    have hbrace : c ≠ '\x7d' := ne_of_isNameCode hc (by unfold IsNameCode; decide)
    rw [List.cons_append, splitFieldName, if_neg hcolon, if_neg (by simp [hcomma, hbrace]),
      ih fun d hd => h d (List.mem_cons_of_mem _ hd)]
    rfl

theorem token_of_isNameCode {name : List Char} (hne : name ≠ [])
    (h : ∀ c ∈ name, IsNameCode c.toNat) : Token name where
  solid := by
    cases name with
    | nil => exact absurd rfl hne
    | cons c rest => exact ⟨c, rest, rfl, isWhitespace_of_isNameCode (h c List.mem_cons_self)⟩
  last := ⟨name.getLast hne, List.getLast?_eq_getLast_of_ne_nil hne,
    isWhitespace_of_isNameCode (h _ (List.getLast_mem hne))⟩
  plain := by
    intro c hc
    have hne : ∀ d : Char, ¬ IsNameCode d.toNat → c ≠ d := fun d => ne_of_isNameCode (h c hc)
    simp [isValueTerminator, hne ',' (by unfold IsNameCode; decide),
      hne ']' (by unfold IsNameCode; decide), hne '\x7d' (by unfold IsNameCode; decide),
      hne ')' (by unfold IsNameCode; decide)]

theorem token_of_validStableName {name : String} (h : validStableName name = true) :
    Token name.toList := by
  refine token_of_isNameCode (fun hempty => ?_) fun c hc => isNameCode_of_validStableName h hc
  simp only [validStableName, Bool.and_eq_true, Bool.not_eq_true'] at h
  obtain rfl : name = "" := String.toList_eq_nil_iff.1 hempty
  exact absurd h.1.1.1 (by decide)

/-- A registered field name is read up to its colon. -/
theorem runs_takeRecordFieldName {name : String} (h : validStableName name = true)
    {length nodes : Nat} {rest : List Char} :
    Runs takeRecordFieldName ⟨length, name.toList ++ ':' :: rest, nodes⟩ name.toList
      ⟨length, ':' :: rest, nodes⟩ := by
  have htoken := token_of_validStableName h
  refine (runs_skipWhitespace htoken.solid).bind (runs_get.bind ?_)
  rw [splitFieldName_append fun c hc => isNameCode_of_validStableName h hc]
  refine runs_advance.bind ?_
  rw [htoken.trim_eq]
  obtain ⟨c, tail, htext, _⟩ := htoken.solid
  rw [if_neg (by rw [htext]; exact Bool.false_ne_true)]
  exact rfl

end LiteralParser

end Alumina.Graph
