import Alumina.ForStd.StateExcept
import Alumina.Graph.Schema

/-!
# Text notation of exact literals

`formatGraphLiteralText` writes a typed literal as schema-directed text, and `parseGraphLiteralText`
reads such a text back under a registered type. The text is bounded by the caller on both sides.

Exact rationals are displayed and parsed by a library outside this code. `RationalDisplay` says what
the notation relies on: a displayed value parses to itself, and its text can be cut out of a
composite one.
-/

namespace Alumina.Graph

open Except (failIf)

/-! ## Limits and rejections -/

/-- Caller-owned ceiling of one text operation, in UTF-8 bytes. -/
structure GraphLiteralTextLimits where
  maximumBytes : Nat
  deriving DecidableEq

/-- `INTERACTIVE_GRAPH_LITERAL_TEXT_BYTES` -/
def GraphLiteralTextLimits.interactive : GraphLiteralTextLimits := ⟨2 * 1024 * 1024 + 6⟩

inductive GraphLiteralTextError where
  | zeroLimit
  | inputTooLarge (actual maximum : Nat)
  | outputTooLarge (maximum : Nat)
  | syntaxAt (offset : Nat) (message : String)
  | invalidRational (valueType : GraphTypeId)
  | invalidSignedInteger (valueType : GraphTypeId)
  | invalidUnsignedInteger (valueType : GraphTypeId)
  | invalidHex (valueType : GraphTypeId)
  | identityRequiresSelector (valueType : GraphTypeId)
  | runtimeOnly (valueType : GraphTypeId)
  | schema (error : GraphSchemaError)
  deriving DecidableEq

def GraphLiteralTextLimits.validate (limits : GraphLiteralTextLimits) :
    Except GraphLiteralTextError Unit :=
  failIf (limits.maximumBytes = 0) .zeroLimit

/-! ## Characters -/

def quote : Char := '\x22'

def backslash : Char := '\x5c'

def isValueTerminator (c : Char) : Bool := c ∈ [',', ']', '\x7d', ')']

def isAsciiHexDigit (c : Char) : Bool :=
  ('0' ≤ c && c ≤ '9') || ('a' ≤ c && c ≤ 'f') || ('A' ≤ c && c ≤ 'F')

def hexNibble (c : Char) : Option Nat :=
  if '0' ≤ c ∧ c ≤ '9' then some (c.toNat - 48)
  else if 'a' ≤ c ∧ c ≤ 'f' then some (c.toNat - 97 + 10)
  else if 'A' ≤ c ∧ c ≤ 'F' then some (c.toNat - 65 + 10)
  else none

/-- `str::trim` -/
def trim (text : List Char) : List Char :=
  ((text.dropWhile isWhitespace).reverse.dropWhile isWhitespace).reverse

/-- The display of exact rationals beside their parser. The text of a value has no character that
ends a value, is not blank at either end, and keeps apart from the `..` of an interval. -/
class RationalDisplay extends RationalParser where
  display : ℚ → String
  parse_display : ∀ q, parse (display q) = some q
  display_plain : ∀ q, ∀ c ∈ (display q).toList, isValueTerminator c = false
  display_head : ∀ q, ∃ c ∈ (display q).toList.head?, isWhitespace c = false
  display_last : ∀ q, ∃ c ∈ (display q).toList.getLast?, isWhitespace c = false ∧ c ≠ '.'
  display_interval : ∀ q, ¬ ['.', '.'] <:+: (display q).toList

/-! ## Bounded output -/

/-- Append below the ceiling (`BoundedText::push_str`). -/
def pushStr (maximum : Nat) (text : String) (output : String) :
    Except GraphLiteralTextError String := do
  failIf (output.utf8ByteSize + text.utf8ByteSize > maximum) (.outputTooLarge maximum)
  return output ++ text

def pushChar (maximum : Nat) (c : Char) (output : String) : Except GraphLiteralTextError String :=
  pushStr maximum (String.singleton c) output

/-- The comma before every member of a composite but the first. -/
def pushSeparator (maximum index : Nat) (output : String) : Except GraphLiteralTextError String :=
  if index ≠ 0 then pushChar maximum ',' output else .ok output

/-! ## Formatting -/

/-- The text of one character between quotes. -/
def escape (c : Char) : String :=
  if c = quote then "\\\""
  else if c = backslash then "\\\\"
  else if c = '\n' then "\\n"
  else if c = '\r' then "\\r"
  else if c = '\t' then "\\t"
  else if c = '\x00' then "\\0"
  else if isControl c then "\\u\x7b" ++ String.ofList (Nat.toDigits 16 c.toNat) ++ "\x7d"
  else String.singleton c

def formatText (maximum : Nat) (value : String) (output : String) :
    Except GraphLiteralTextError String := do
  let output ← pushChar maximum quote output
  let output ← value.toList.foldlM (fun output c => pushStr maximum (escape c) output) output
  pushChar maximum quote output

def formatBytes (maximum : Nat) (value : List UInt8) (output : String) :
    Except GraphLiteralTextError String := do
  let output ← pushStr maximum "hex\"" output
  let output ← value.foldlM (fun output (byte : UInt8) => do
    let output ← pushChar maximum (Nat.digitChar (byte >>> 4).toNat) output
    pushChar maximum (Nat.digitChar (byte &&& 0x0f).toNat) output) output
  pushChar maximum quote output

section Format

variable (tables : SchemaTables) (maximum : Nat)

def literalKind (valueType : GraphTypeId) : Except GraphLiteralTextError TypeKind := do
  let definition ← (tables.valueType valueType).okOr (.schema (.unknownType valueType))
  return definition.kind

/-- The rejection of a literal that its type has no notation for. -/
def formatMismatch (valueType : GraphTypeId) (kind : TypeKind) (value : GraphValue) :
    GraphLiteralTextError :=
  match kind with
  | .resourceHandle _ | .jobHandle => .identityRequiresSelector valueType
  | .event _ _ | .stream _ _ _ => .runtimeOnly valueType
  | _ => .schema (.typeMismatch valueType value.kind)

/-- Literals with nothing below them. -/
def formatLeaf [RationalDisplay] (valueType : GraphTypeId) (kind : TypeKind) (value : GraphValue)
    (output : String) : Except GraphLiteralTextError String :=
  match kind, value with
  | .boolean, .boolean value => pushStr maximum (if value then "true" else "false") output
  | .exactRational _, .exactRational value =>
    pushStr maximum (RationalDisplay.display value) output
  | .measurementInterval _, .measurementInterval lower upper => do
    let output ← pushStr maximum (RationalDisplay.display lower) output
    let output ← pushStr maximum ".." output
    pushStr maximum (RationalDisplay.display upper) output
  | .canonicalI64 _ _, .canonicalI64 value => pushStr maximum (toString value.toInt) output
  | .canonicalU64 _ _, .canonicalU64 value => pushStr maximum (toString value.toNat) output
  | .text _, .text value => formatText maximum value output
  | .bytes _, .bytes value => formatBytes maximum value output
  | .option _, .optionNone => pushStr maximum "none" output
  | kind, value => .error (formatMismatch valueType kind value)

mutual

/-- Append the text of a literal (`format_value`). The match on the literal stands outside the match
on its type, since the recursion is on the literal. -/
def formatValue [RationalDisplay] (valueType : GraphTypeId) (value : GraphValue) (output : String) :
    Except GraphLiteralTextError String :=
  match value with
  | .array items => do
    match ← literalKind tables valueType with
    | .array element _ => do
      let output ← pushChar maximum '[' output
      let output ← formatItems element items 0 output
      pushChar maximum ']' output
    | kind => .error (formatMismatch valueType kind (.array items))
  | .record values => do
    match ← literalKind tables valueType with
    | .record fields => do
      let output ← pushChar maximum '\x7b' output
      let output ← formatFields fields values 0 output
      pushChar maximum '\x7d' output
    | kind => .error (formatMismatch valueType kind (.record values))
  | .optionSome value => do
    match ← literalKind tables valueType with
    | .option inner => do
      let output ← pushStr maximum "some(" output
      let output ← formatValue inner value output
      pushChar maximum ')' output
    | kind => .error (formatMismatch valueType kind (.optionSome value))
  | .resultOk value => do
    match ← literalKind tables valueType with
    | .result ok _ => do
      let output ← pushStr maximum "ok(" output
      let output ← formatValue ok value output
      pushChar maximum ')' output
    | kind => .error (formatMismatch valueType kind (.resultOk value))
  | .resultError value => do
    match ← literalKind tables valueType with
    | .result _ error => do
      let output ← pushStr maximum "error(" output
      let output ← formatValue error value output
      pushChar maximum ')' output
    | kind => .error (formatMismatch valueType kind (.resultError value))
  | value => do
    let kind ← literalKind tables valueType
    formatLeaf maximum valueType kind value output
termination_by structural value

/-- The items of an array from an index on, with a comma before every one but the first. -/
def formatItems [RationalDisplay] (element : GraphTypeId) (items : List GraphValue) (index : Nat)
    (output : String) : Except GraphLiteralTextError String :=
  match items with
  | [] => .ok output
  | item :: items => do
    let output ← pushSeparator maximum index output
    let output ← formatValue element item output
    formatItems element items (index + 1) output
termination_by structural items

/-- Registered names and literal values, pairwise. -/
def formatFields [RationalDisplay] (fields : List RecordField)
    (values : List (RecordFieldId × GraphValue)) (index : Nat) (output : String) :
    Except GraphLiteralTextError String :=
  match values with
  | [] => .ok output
  | (_, value) :: values =>
    match fields with
    | [] => .ok output
    | field :: fields => do
      let output ← pushSeparator maximum index output
      let output ← pushStr maximum field.name output
      let output ← pushChar maximum ':' output
      let output ← formatValue field.valueType value output
      formatFields fields values (index + 1) output
termination_by structural values

end

end Format

/-! ## Tokens -/

/-- What the parser has read: the source from its offset on, and the values counted. -/
structure LiteralParser where
  length : Nat
  remaining : List Char
  nodes : Nat
  deriving DecidableEq

/-- The byte offset in the source. -/
def LiteralParser.offset (parser : LiteralParser) : Nat :=
  parser.length - (String.ofList parser.remaining).utf8ByteSize

abbrev Reader := StateT LiteralParser (Except GraphLiteralTextError)

namespace LiteralParser

open StateT (reject rejectIf require)

def syntaxError {α : Type} (message : String) : Reader α := fun parser =>
  .error (.syntaxAt parser.offset message)

def peekChar : Reader (Option Char) := do
  return (← get).remaining.head?

def advance (remaining : List Char) : Reader Unit :=
  modify fun parser => { parser with remaining }

def nextChar : Reader (Option Char) := do
  let parser ← get
  advance parser.remaining.tail
  return parser.remaining.head?

def skipWhitespace : Reader Unit :=
  modify fun parser => { parser with remaining := parser.remaining.dropWhile isWhitespace }

def expectKeyword (keyword : String) : Reader Unit := do
  skipWhitespace
  let parser ← get
  if keyword.toList.isPrefixOf parser.remaining then
    advance (parser.remaining.drop keyword.toList.length)
  else syntaxError ("expected " ++ keyword)

def expectChar (expected : Char) : Reader Unit := do
  skipWhitespace
  let found ← nextChar
  if found = some expected then pure ()
  else syntaxError ("expected '" ++ String.singleton expected ++ "'")

/-- The comma before every member of a record but the first. -/
def expectSeparator (index : Nat) : Reader Unit :=
  if index ≠ 0 then expectChar ',' else pure ()

def consumeChar (expected : Char) : Reader Bool := do
  skipWhitespace
  let found ← peekChar
  if found = some expected then do
    let _ ← nextChar
    return true
  else return false

def takeScalarToken : Reader (List Char) := do
  skipWhitespace
  let parser ← get
  advance (parser.remaining.dropWhile fun c => !isValueTerminator c)
  return trim (parser.remaining.takeWhile fun c => !isValueTerminator c)

/-- The text before the first `..` of a value, and the text after it. -/
def splitInterval : List Char → Option (List Char × List Char)
  | [] => none
  | c :: rest =>
    if isValueTerminator c then none
    else if c = '.' ∧ rest.head? = some '.' then some ([], rest.tail)
    else (splitInterval rest).map fun pieces => (c :: pieces.1, pieces.2)

def takeIntervalTokens : Reader (List Char × List Char) := do
  skipWhitespace
  let parser ← get
  match splitInterval parser.remaining with
  | none => syntaxError "interval requires lower..upper"
  | some pieces => do
    let lower := trim pieces.1
    if lower.isEmpty then syntaxError "interval lower endpoint cannot be empty"
    else do
      advance pieces.2
      let upper ← takeScalarToken
      return (lower, upper)

/-- The text before the first colon, where no comma or closing brace comes before it. -/
def splitFieldName : List Char → Option (List Char × List Char)
  | [] => none
  | c :: rest =>
    if c = ':' then some ([], c :: rest)
    else if c = ',' ∨ c = '\x7d' then none
    else (splitFieldName rest).map fun pieces => (c :: pieces.1, pieces.2)

def takeRecordFieldName : Reader (List Char) := do
  skipWhitespace
  let parser ← get
  match splitFieldName parser.remaining with
  | none => syntaxError "record field requires name:value"
  | some pieces => do
    advance pieces.2
    let name := trim pieces.1
    if name.isEmpty then syntaxError "record field name is empty" else return name

def requireValueBoundary : Reader Unit := do
  match ← peekChar with
  | none => pure ()
  | some c =>
    if isValueTerminator c || isWhitespace c then pure ()
    else syntaxError "expected the end of the option value"

/-! ## Scalars -/

/-- The magnitude of a nonempty run of decimal digits. -/
def decimal (digits : List Char) : Option Nat :=
  if digits.isEmpty || !digits.all Char.isDigit then none else some (Nat.ofDigitChars 10 digits 0)

def i64OfInt (value : Int) : Option Int64 :=
  if -2 ^ 63 ≤ value ∧ value < 2 ^ 63 then some (.ofInt value) else none

/-- `parse::<i64>` -/
def parseI64 : List Char → Option Int64
  | '-' :: digits => do i64OfInt (-(← decimal digits))
  | '+' :: digits => do i64OfInt (← decimal digits)
  | digits => do i64OfInt (← decimal digits)

def u64OfNat (value : Nat) : Option UInt64 :=
  if value < 2 ^ 64 then some (.ofNat value) else none

/-- `parse::<u64>` -/
def parseU64 : List Char → Option UInt64
  | '+' :: digits => do u64OfNat (← decimal digits)
  | digits => do u64OfNat (← decimal digits)

def parseRational [RationalDisplay] (valueType : GraphTypeId) (token : List Char) : Reader ℚ :=
  require (RationalParser.parse (String.ofList token)) (.invalidRational valueType)

/-- The value of hexadecimal digits (`u32::from_str_radix`), which six of them never overflow. -/
def hexadecimal (digits : List Char) : Option Nat :=
  digits.foldlM (fun value c => (hexNibble c).map (16 * value + ·)) 0

/-- The digits of a Unicode escape, for at most the given number of them. -/
def escapeDigits : Nat → Reader (List Char)
  | 0 => do
    match ← peekChar with
    | none => return []
    | some c =>
      if c = '\x7d' then return []
      else syntaxError "Unicode escape must contain one to six hex digits"
  | room + 1 => do
    match ← peekChar with
    | none => return []
    | some c =>
      if c = '\x7d' then return []
      else if isAsciiHexDigit c then do
        let _ ← nextChar
        return c :: (← escapeDigits room)
      else syntaxError "Unicode escape must contain one to six hex digits"

def parseUnicodeEscape : Reader Char := do
  let opening ← nextChar
  if opening ≠ some '\x7b' then syntaxError "Unicode escape must begin with \\u\x7b"
  else do
    let digits ← escapeDigits 6
    if digits.isEmpty then syntaxError "unterminated Unicode escape"
    else do
      let closing ← nextChar
      if closing ≠ some '\x7d' then syntaxError "unterminated Unicode escape"
      else match hexadecimal digits with
        | none => syntaxError "invalid Unicode escape"
        | some scalar =>
          if scalar.isValidChar then return Char.ofNat scalar
          else syntaxError "Unicode escape is not a scalar value"

def parseEscape : Reader Char := do
  match ← nextChar with
  | none => syntaxError "unterminated text escape"
  | some escaped =>
    if escaped = quote then return quote
    else if escaped = backslash then return backslash
    else if escaped = 'n' then return '\n'
    else if escaped = 'r' then return '\r'
    else if escaped = 't' then return '\t'
    else if escaped = '0' then return '\x00'
    else if escaped = 'u' then parseUnicodeEscape
    else syntaxError "unknown text escape"

/-- The characters up to the closing quote. Every pass reads one, so a pass for each character that
remains is enough. -/
def textCharacters : Nat → Reader (List Char)
  | 0 => syntaxError "unterminated quoted text"
  | passes + 1 => do
    match ← nextChar with
    | none => syntaxError "unterminated quoted text"
    | some c =>
      if c = quote then return []
      else if c = backslash then do
        let escaped ← parseEscape
        return escaped :: (← textCharacters passes)
      else if isControl c then syntaxError "raw control character must be escaped"
      else return c :: (← textCharacters passes)

def parseText : Reader String := do
  expectChar quote
  let parser ← get
  return String.ofList (← textCharacters (parser.remaining.length + 1))

/-- Bytes of pairs of digits, the high nibble first. -/
def hexPairs : List Char → Option (List UInt8)
  | [] => some []
  | [_] => none
  | high :: low :: rest => do
    return UInt8.ofNat (16 * (← hexNibble high) + (← hexNibble low)) :: (← hexPairs rest)

def parseBytes (valueType : GraphTypeId) : Reader (List UInt8) := do
  expectKeyword "hex"
  skipWhitespace
  let opening ← nextChar
  rejectIf (opening ≠ some quote) (.invalidHex valueType)
  let parser ← get
  let digits := parser.remaining.takeWhile (· ≠ quote)
  rejectIf (digits.all isAsciiHexDigit = false) (.invalidHex valueType)
  advance (parser.remaining.dropWhile (· ≠ quote))
  let closing ← nextChar
  rejectIf (closing ≠ some quote) (.invalidHex valueType)
  require (hexPairs digits) (.invalidHex valueType)

/-! ## Composites -/

/-- The items of an array up to the closing bracket, for at most the given number of them. -/
def arrayItems (item : Reader GraphValue) : Nat → List GraphValue → Reader (List GraphValue)
  | 0, _ => reject (.schema (.limitExceeded "array literal"))
  | room + 1, values => do
    let value ← item
    skipWhitespace
    if ← consumeChar ']' then return values ++ [value]
    else do
      expectChar ','
      arrayItems item room (values ++ [value])

def recordFields (value : GraphTypeId → Reader GraphValue) :
    List RecordField → Nat → Reader (List (RecordFieldId × GraphValue))
  | [], _ => return []
  | field :: fields, index => do
    expectSeparator index
    let name ← takeRecordFieldName
    if name ≠ field.name.toList then
      syntaxError ("expected canonical field " ++ field.name ++ " [f" ++ toString field.id.get ++
        "]")
    else do
      expectChar ':'
      let value' ← value field.valueType
      return (field.id, value') :: (← recordFields value fields (index + 1))

section Values

variable (limits : GraphLimits) (value : GraphTypeId → Reader GraphValue)

def parseArray (element : GraphTypeId) (maximumItems : UInt32) : Reader GraphValue := do
  expectChar '['
  skipWhitespace
  if ← consumeChar ']' then return .array []
  else do
    let items ← arrayItems (value element) (min maximumItems.toNat limits.maximumArrayItems) []
    return .array items

def parseRecord (fields : List RecordField) : Reader GraphValue := do
  expectChar '\x7b'
  skipWhitespace
  let values ← recordFields value fields 0
  expectChar '\x7d'
  return .record values

def parseOption (inner : GraphTypeId) : Reader GraphValue := do
  skipWhitespace
  let parser ← get
  if "none".toList.isPrefixOf parser.remaining then do
    advance (parser.remaining.drop 4)
    requireValueBoundary
    return .optionNone
  else do
    expectKeyword "some"
    expectChar '('
    let value ← value inner
    expectChar ')'
    return .optionSome value

def parseResult (ok error : GraphTypeId) : Reader GraphValue := do
  skipWhitespace
  let parser ← get
  if "ok".toList.isPrefixOf parser.remaining then do
    advance (parser.remaining.drop 2)
    expectChar '('
    let value ← value ok
    expectChar ')'
    return .resultOk value
  else if "error".toList.isPrefixOf parser.remaining then do
    advance (parser.remaining.drop 5)
    expectChar '('
    let value ← value error
    expectChar ')'
    return .resultError value
  else syntaxError "expected ok(value) or error(value)"

def parseBoolean : Reader GraphValue := do
  let token ← takeScalarToken
  if token = "true".toList then return .boolean true
  else if token = "false".toList then return .boolean false
  else syntaxError "expected true or false"

/-- One value of a type shape. -/
def parseKind [RationalDisplay] (valueType : GraphTypeId) : TypeKind → Reader GraphValue
  | .boolean => parseBoolean
  | .exactRational _ => do
    let token ← takeScalarToken
    return .exactRational (← parseRational valueType token)
  | .measurementInterval _ => do
    let tokens ← takeIntervalTokens
    let lower ← parseRational valueType tokens.1
    let upper ← parseRational valueType tokens.2
    return .measurementInterval lower upper
  | .canonicalI64 _ _ => do
    let token ← takeScalarToken
    return .canonicalI64 (← require (parseI64 token) (.invalidSignedInteger valueType))
  | .canonicalU64 _ _ => do
    let token ← takeScalarToken
    return .canonicalU64 (← require (parseU64 token) (.invalidUnsignedInteger valueType))
  | .text _ => return .text (← parseText)
  | .bytes _ => return .bytes (← parseBytes valueType)
  | .array element maximumItems => parseArray limits value element maximumItems
  | .record fields => parseRecord value fields
  | .option inner => parseOption value inner
  | .result ok error => parseResult value ok error
  | .resourceHandle _ | .jobHandle => reject (.identityRequiresSelector valueType)
  | .event _ _ | .stream _ _ _ => reject (.runtimeOnly valueType)

end Values

/-- One value of a registered type. The first argument counts the nesting levels that remain below
`maximumValueDepth`. -/
def parseValue [RationalDisplay] (tables : SchemaTables) : Nat → GraphTypeId → Reader GraphValue
  | 0, _ => reject (.schema .valueDepthExceeded)
  | levels + 1, valueType => do
    let parser ← get
    set { parser with nodes := parser.nodes + 1 }
    rejectIf (parser.nodes + 1 > tables.limits.maximumValueNodes) (.schema .valueNodeLimitExceeded)
    let definition ← require (tables.valueType valueType) (.schema (.unknownType valueType))
    parseKind tables.limits (parseValue tables levels) valueType definition.kind

/-- One value, and nothing after it but blanks. -/
def parseLiteral [RationalDisplay] (tables : SchemaTables) (valueType : GraphTypeId) :
    Reader GraphValue := do
  let value ← parseValue tables tables.limits.maximumValueDepth valueType
  skipWhitespace
  let parser ← get
  if parser.offset ≠ parser.length then syntaxError "unexpected trailing input" else return value

end LiteralParser

/-! ## The two operations -/

/-- Handles need an authenticated selector, and runtime types have no text. -/
def rejectNonTextAuthority (tables : SchemaTables) (valueType : GraphTypeId) :
    Except GraphLiteralTextError Unit := do
  match ← literalKind tables valueType with
  | .resourceHandle _ | .jobHandle => .error (.identityRequiresSelector valueType)
  | .event _ _ | .stream _ _ _ => .error (.runtimeOnly valueType)
  | _ => .ok ()

/-- `format_graph_literal_text` -/
def formatGraphLiteralText [RationalDisplay] (schema : GraphSchema) (value : TypedGraphValue)
    (limits : GraphLiteralTextLimits) : Except GraphLiteralTextError String := do
  limits.validate
  (schema.validateTypedValue value).mapError .schema
  rejectNonTextAuthority schema.toSchemaTables value.valueType
  formatValue schema.toSchemaTables limits.maximumBytes value.valueType value.value ""

/-- `parse_graph_literal_text` -/
def parseGraphLiteralText [RationalDisplay] (schema : GraphSchema) (valueType : GraphTypeId)
    (source : String) (limits : GraphLiteralTextLimits) :
    Except GraphLiteralTextError TypedGraphValue := do
  limits.validate
  rejectNonTextAuthority schema.toSchemaTables valueType
  failIf (source.utf8ByteSize > limits.maximumBytes)
    (.inputTooLarge source.utf8ByteSize limits.maximumBytes)
  let result ← LiteralParser.parseLiteral schema.toSchemaTables valueType
    ⟨source.utf8ByteSize, source.toList, 0⟩
  (TypedGraphValue.tryNew schema valueType result.1).mapError .schema

end Alumina.Graph
