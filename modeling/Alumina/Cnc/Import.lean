import Alumina.Graph.Wire

/-!
# CNC geometry import

A CNC source is read line by line: comments are stripped, the rest is split into address words,
the words of a line form a block, and a block updates the modal state and may draw one line or
arc. The imported curves form one connected path in millimetres.

Exact arithmetic is that of `ℚ`. Reading a normalized decimal and building exact curves are left
to crates that are not part of this code and are the parameters `DecimalParser` and
`ExactCurves`. The source is a list of bytes; sizes and counts are natural numbers.
-/

namespace Alumina.Cnc

open Except (failIf)
open Alumina.Graph (Digest Sha256)

/-! ## Parameters -/

/-- Why a decimal was rejected; `other` stands for the variants nothing here names. -/
inductive Problem where
  | badDecimal
  | other (code : UInt8)
  deriving DecidableEq, Repr

/-- `Rational::from_str` -/
class DecimalParser where
  parse : String → Except Problem ℚ

structure Point where
  x : ℚ
  y : ℚ
  deriving DecidableEq

/-- Exact lines, arcs and paths of the curve crate. -/
class ExactCurves where
  CurveError : Type
  PathError : Type
  Curve : Type
  /-- `LineSeg2::try_new` -/
  lineSegment : Point → Point → Except CurveError Curve
  /-- `CircularArc2::try_from_center` -/
  circularArc : Point → Point → Point → Bool → Except CurveError Curve
  start : Curve → Point
  finish : Curve → Point
  /-- The check of `CurvePath2::try_new`. -/
  validatePath : List Curve → Except PathError Unit

/-- A curve runs between the points it was built from. -/
class LawfulExactCurves [ExactCurves] : Prop where
  lineSegment_ends {start finish : Point} {curve : ExactCurves.Curve} :
    ExactCurves.lineSegment start finish = .ok curve →
      ExactCurves.start curve = start ∧ ExactCurves.finish curve = finish
  circularArc_ends {start finish center : Point} {clockwise : Bool} {curve : ExactCurves.Curve} :
    ExactCurves.circularArc start finish center clockwise = .ok curve →
      ExactCurves.start curve = start ∧ ExactCurves.finish curve = finish

/-! ## Modes -/

inductive CncUnitMode where
  | millimetres | inches
  deriving DecidableEq, Repr

def CncUnitMode.millimetresPerSourceUnit : CncUnitMode → ℚ
  | .millimetres => 1
  | .inches => 127 / 5

inductive CncDistanceMode where
  | absolute | incremental
  deriving DecidableEq, Repr

inductive CncArcCenterMode where
  | absolute | incremental
  deriving DecidableEq, Repr

inductive CncMotionKind where
  | linear | clockwiseArc | counterClockwiseArc
  deriving DecidableEq, Repr

inductive MotionMode where
  | rapid | linear | clockwiseArc | counterClockwiseArc
  deriving DecidableEq, Repr

/-! ## Limits, errors and results -/

variable [ExactCurves]

inductive CncGeometryImportError where
  | invalidLimits
  | sourceTooLarge (actual maximum : Nat)
  | invalidSourceByte (offset : Nat) (byte : UInt8)
  | tooManyLines (actual maximum : Nat)
  | lineTooLong (line actual maximum : Nat)
  | nestedComment (line column : Nat)
  | unexpectedCommentEnd (line column : Nat)
  | unclosedComment (line : Nat)
  | unexpectedEnvelope (line : Nat)
  | unclosedEnvelope
  | malformedWord (line column : Nat)
  | decimalTooLong (line : Nat) (letter : Char) (actual maximum : Nat)
  | invalidDecimal (line : Nat) (letter : Char) (source : Problem)
  | tooManyWords (actual maximum : Nat)
  | duplicateWord (line : Nat) (letter : Char)
  | conflictingModalGroup (line : Nat) (group : String)
  | unsupportedWord (line : Nat) (letter : Char)
  | unsupportedGCode (line : Nat) (code : ℚ)
  | unsupportedMCode (line : Nat) (code : ℚ)
  | invalidBlockNumber (line : Nat)
  | missingModalState (line : Nat) (modal : String)
  | missingInitialPosition (line : Nat)
  | incompleteInitialPosition (line : Nat)
  | missingEndpoint (line : Nat)
  | missingArcCenter (line : Nat)
  | unexpectedArcCenter (line : Nat)
  | disconnectedRapid (line : Nat)
  | fullCircleUnsupported (line : Nat)
  | programEndMixed (line : Nat)
  | wordsAfterProgramEnd (line : Nat)
  | missingProgramEnd
  | emptyPath
  | tooManyCurves (required maximum : Nat)
  | geometry (line : Nat) (source : ExactCurves.CurveError)
  | path (source : ExactCurves.PathError)

abbrev CncGeometryImportResult := Except CncGeometryImportError

/-- Caller-owned admission limits for a CNC geometry source. -/
structure CncGeometryImportLimits where
  maximumSourceBytes : Nat
  maximumLineBytes : Nat
  maximumLines : Nat
  maximumWords : Nat
  maximumCurves : Nat
  maximumDecimalCharacters : Nat

/-- Construct a complete caller-owned import policy. -/
def CncGeometryImportLimits.tryNew (maximumSourceBytes maximumLineBytes maximumLines maximumWords
    maximumCurves maximumDecimalCharacters : Nat) :
    CncGeometryImportResult CncGeometryImportLimits := do
  failIf (maximumSourceBytes = 0 ∨ maximumLineBytes = 0 ∨ maximumLines = 0 ∨ maximumWords = 0 ∨
    maximumCurves = 0 ∨ maximumDecimalCharacters = 0 ∨ maximumSourceBytes < maximumLineBytes)
    .invalidLimits
  pure ⟨maximumSourceBytes, maximumLineBytes, maximumLines, maximumWords, maximumCurves,
    maximumDecimalCharacters⟩

/-- Source provenance for one retained curve. -/
structure CncSourceSpan where
  curveIndex : Nat
  sourceLine : Nat
  blockNumber : Option Nat
  motion : CncMotionKind
  units : CncUnitMode
  distanceMode : CncDistanceMode
  arcCenterMode : Option CncArcCenterMode
  deriving DecidableEq, Repr

structure CncGeometryImportReport where
  rawSourceDigest : Digest
  sourceBytes : Nat
  sourceLines : Nat
  parsedWords : Nat
  positioningBlocks : Nat
  programEndLine : Nat
  startMm : Point
  endMm : Point
  spans : List CncSourceSpan

/-- The curves of the exact path, together with the source report. -/
structure ImportedCncGeometry where
  path : List ExactCurves.Curve
  report : CncGeometryImportReport

/-! ## Bytes and comments -/

def lineFeed : UInt8 := 10

def carriageReturn : UInt8 := 13

/-- `b'('` -/
def commentStart : UInt8 := 40

/-- `b')'` -/
def commentEnd : UInt8 := 41

/-- `b';'` -/
def lineComment : UInt8 := 59

/-- `b'%'` -/
def envelopeMark : UInt8 := 37

def isBlank (byte : UInt8) : Bool := byte = 32 || byte = 9

def isAlphabetic (byte : UInt8) : Bool :=
  (65 ≤ byte && byte ≤ 90) || (97 ≤ byte && byte ≤ 122)

def isDigit (byte : UInt8) : Bool := 48 ≤ byte && byte ≤ 57

/-- `to_ascii_uppercase` -/
def toUpper (byte : UInt8) : UInt8 := if 97 ≤ byte && byte ≤ 122 then byte - 32 else byte

def isSourceByte (byte : UInt8) : Bool :=
  byte = lineFeed || byte = carriageReturn || byte = 9 || (32 ≤ byte && byte ≤ 126)

def validateSourceBytes (source : List UInt8) : CncGeometryImportResult Unit :=
  Except.forEach (fun (byte, offset) => failIf (¬ isSourceByte byte) (.invalidSourceByte offset byte))
    source.zipIdx

/-- Drop the comments of a line, from one of its columns on. -/
def stripFrom (line : Nat) : Nat → Bool → List UInt8 → CncGeometryImportResult (List UInt8)
  | _, inParentheses, [] => if inParentheses then .error (.unclosedComment line) else .ok []
  | column, inParentheses, byte :: rest =>
    if byte = commentStart then
      if inParentheses then .error (.nestedComment line column)
      else stripFrom line (column + 1) true rest
    else if byte = commentEnd then
      if inParentheses then stripFrom line (column + 1) false rest
      else .error (.unexpectedCommentEnd line column)
    else if inParentheses then stripFrom line (column + 1) true rest
    else if byte = lineComment then .ok []
    else (byte :: ·) <$> stripFrom line (column + 1) false rest

def stripComments (bytes : List UInt8) (line : Nat) : CncGeometryImportResult (List UInt8) :=
  stripFrom line 1 false bytes

def trimAsciiWhitespace (bytes : List UInt8) : List UInt8 :=
  (bytes.dropWhile isBlank).rdropWhile isBlank

/-- `raw_line.strip_suffix(b"\r")` -/
def stripCarriageReturn (line : List UInt8) : List UInt8 :=
  if line.getLast? = some carriageReturn then line.dropLast else line

/-! ## Words -/

structure ParsedWord where
  letter : Char
  value : ℚ
  deriving DecidableEq

variable [DecimalParser]

omit [ExactCurves] in
/-- The exact value of a sign, digits and at most one point. -/
def parseExactDecimal (raw : List UInt8) : Except Problem ℚ := do
  let negative := raw.head? = some 45
  let magnitude := if raw.head? = some 43 ∨ raw.head? = some 45 then raw.tail else raw
  failIf (1 < magnitude.count 46 ∨ magnitude.any (fun byte => !isDigit byte && byte ≠ 46) ∨
    ¬ magnitude.any isDigit) .badDecimal
  let needsLeadingZero := magnitude.head? = some 46
  let magnitude := if magnitude.getLast? = some 46 then magnitude.dropLast else magnitude
  DecimalParser.parse (String.ofList
    ((if negative then ['-'] else []) ++ (if needsLeadingZero then ['0'] else []) ++
      magnitude.map Char.ofUInt8))

/-- Bytes that belong to the value of a word. -/
def isValueByte (byte : UInt8) : Bool := !isAlphabetic byte && !isBlank byte

/-- Read words off the rest of a trimmed line of `length` bytes. Every word consumes its letter, so
`fuel` for as many words as bytes is enough. -/
def lexFrom (line maximumDecimalCharacters length : Nat) :
    Nat → List UInt8 → CncGeometryImportResult (List ParsedWord)
  | 0, _ => .ok []
  | fuel + 1, bytes =>
    match bytes.dropWhile isBlank with
    | [] => .ok []
    | byte :: rest => do
      let letter := Char.ofUInt8 (toUpper byte)
      let rawValue := rest.takeWhile isValueByte
      failIf (¬ isAlphabetic byte) (.malformedWord line (length - rest.length))
      failIf (maximumDecimalCharacters < rawValue.length)
        (.decimalTooLong line letter rawValue.length maximumDecimalCharacters)
      let value ← (parseExactDecimal rawValue).mapError (.invalidDecimal line letter)
      let words ← lexFrom line maximumDecimalCharacters length fuel (rest.dropWhile isValueByte)
      pure (⟨letter, value⟩ :: words)

def lexWords (bytes : List UInt8) (line maximumDecimalCharacters : Nat) :
    CncGeometryImportResult (List ParsedWord) :=
  lexFrom line maximumDecimalCharacters bytes.length bytes.length bytes

/-! ## Blocks -/

structure ParsedBlock where
  blockNumber : Option Nat
  units : Option CncUnitMode
  distanceMode : Option CncDistanceMode
  planeXy : Bool
  arcCenterMode : Option CncArcCenterMode
  motion : Option MotionMode
  programEnd : Bool
  x : Option ℚ
  y : Option ℚ
  i : Option ℚ
  j : Option ℚ
  deriving DecidableEq

def ParsedBlock.empty : ParsedBlock :=
  ⟨none, none, none, false, none, none, false, none, none, none, none⟩

namespace ParsedBlock

def hasCoordinates (block : ParsedBlock) : Bool :=
  block.x.isSome || block.y.isSome || block.i.isSome || block.j.isSome

def onlyProgramEnd (block : ParsedBlock) : Bool :=
  block.programEnd && block.units.isNone && block.distanceMode.isNone && !block.planeXy &&
    block.arcCenterMode.isNone && block.motion.isNone && !block.hasCoordinates

end ParsedBlock

/-- `u32::try_from`: the number must be a whole one below `2^32`. -/
def blockNumberOf (value : ℚ) : Option Nat :=
  if value.den = 1 ∧ 0 ≤ value.num ∧ value.num < 2 ^ 32 then some value.num.toNat else none

omit [DecimalParser] in
/-- Set a part of a block that may be set once. -/
def setOnce {α : Type} (target : Option α) (value : α) (error : CncGeometryImportError) :
    CncGeometryImportResult (Option α) :=
  if target.isSome then .error error else .ok (some value)

def setModal {α : Type} (target : Option α) (value : α) (line : Nat) (group : String) :
    CncGeometryImportResult (Option α) :=
  setOnce target value (.conflictingModalGroup line group)

def setCoordinate (target : Option ℚ) (value : ℚ) (line : Nat) (letter : Char) :
    CncGeometryImportResult (Option ℚ) :=
  setOnce target value (.duplicateWord line letter)

def applyGCode (block : ParsedBlock) (code : ℚ) (line : Nat) :
    CncGeometryImportResult ParsedBlock :=
  let motion (mode : MotionMode) : CncGeometryImportResult ParsedBlock := do
    let motion ← setModal block.motion mode line "motion"
    pure { block with motion }
  let units (mode : CncUnitMode) : CncGeometryImportResult ParsedBlock := do
    let units ← setModal block.units mode line "units"
    pure { block with units }
  let distance (mode : CncDistanceMode) : CncGeometryImportResult ParsedBlock := do
    let distanceMode ← setModal block.distanceMode mode line "endpoint distance"
    pure { block with distanceMode }
  let arcCenter (mode : CncArcCenterMode) : CncGeometryImportResult ParsedBlock := do
    let arcCenterMode ← setModal block.arcCenterMode mode line "arc centre"
    pure { block with arcCenterMode }
  if code = 0 then motion .rapid
  else if code = 1 then motion .linear
  else if code = 2 then motion .clockwiseArc
  else if code = 3 then motion .counterClockwiseArc
  else if code = 17 then
    if block.planeXy then .error (.conflictingModalGroup line "plane")
    else .ok { block with planeXy := true }
  else if code = 20 then units .inches
  else if code = 21 then units .millimetres
  else if code = 90 then distance .absolute
  else if code = 91 then distance .incremental
  else if code = 901 / 10 then arcCenter .absolute
  else if code = 911 / 10 then arcCenter .incremental
  else .error (.unsupportedGCode line code)

/-- Add one word to a block and to the machine code seen so far. -/
def applyWord (line : Nat) (parsed : ParsedBlock × Option ℚ) (word : ParsedWord) :
    CncGeometryImportResult (ParsedBlock × Option ℚ) := do
  let (block, mCode) := parsed
  if word.letter = 'N' then
    failIf block.blockNumber.isSome (.duplicateWord line 'N')
    let blockNumber ← (blockNumberOf word.value).okOr (.invalidBlockNumber line)
    pure ({ block with blockNumber }, mCode)
  else if word.letter = 'G' then
    let block ← applyGCode block word.value line
    pure (block, mCode)
  else if word.letter = 'M' then
    let mCode ← setOnce mCode word.value (.duplicateWord line 'M')
    pure (block, mCode)
  else if word.letter = 'X' then
    let x ← setCoordinate block.x word.value line 'X'
    pure ({ block with x }, mCode)
  else if word.letter = 'Y' then
    let y ← setCoordinate block.y word.value line 'Y'
    pure ({ block with y }, mCode)
  else if word.letter = 'I' then
    let i ← setCoordinate block.i word.value line 'I'
    pure ({ block with i }, mCode)
  else if word.letter = 'J' then
    let j ← setCoordinate block.j word.value line 'J'
    pure ({ block with j }, mCode)
  else .error (.unsupportedWord line word.letter)

def parseBlock (words : List ParsedWord) (line : Nat) : CncGeometryImportResult ParsedBlock := do
  let (block, mCode) ← words.foldlM (applyWord line) (ParsedBlock.empty, none)
  match mCode with
  | none => pure block
  | some code =>
    if code = 2 ∨ code = 30 then pure { block with programEnd := true }
    else .error (.unsupportedMCode line code)

/-! ## Geometry -/

def coordinateComponent (current : ℚ) (source : Option ℚ) (distanceMode : CncDistanceMode)
    (scale : ℚ) : ℚ :=
  match source, distanceMode with
  | none, _ => current
  | some source, .absolute => source * scale
  | some source, .incremental => current + source * scale

def endpointFromBlock (start : Point) (block : ParsedBlock) (distanceMode : CncDistanceMode)
    (scale : ℚ) (line : Nat) : CncGeometryImportResult Point := do
  failIf (block.x.isNone ∧ block.y.isNone) (.missingEndpoint line)
  pure ⟨coordinateComponent start.x block.x distanceMode scale,
    coordinateComponent start.y block.y distanceMode scale⟩

def arcCenterFromBlock (start : Point) (block : ParsedBlock) (centerMode : CncArcCenterMode)
    (scale : ℚ) (line : Nat) : CncGeometryImportResult Point := do
  let i ← block.i.okOr (.missingArcCenter line)
  let j ← block.j.okOr (.missingArcCenter line)
  pure (match centerMode with
    | .absolute => ⟨i * scale, j * scale⟩
    | .incremental => ⟨start.x + i * scale, start.y + j * scale⟩)

/-! ## The import -/

structure ModalState where
  units : Option CncUnitMode
  distanceMode : Option CncDistanceMode
  planeXy : Bool
  arcCenterMode : Option CncArcCenterMode
  motion : Option MotionMode
  currentMm : Option Point

/-- The modes a block sets replace those in force. -/
def ModalState.apply (state : ModalState) (block : ParsedBlock) : ModalState :=
  { state with
    units := block.units.or state.units
    distanceMode := block.distanceMode.or state.distanceMode
    planeXy := block.planeXy || state.planeXy
    arcCenterMode := block.arcCenterMode.or state.arcCenterMode
    motion := block.motion.or state.motion }

/-- What the import knows after some lines. -/
structure ImportState where
  modal : ModalState
  curves : List ExactCurves.Curve
  spans : List CncSourceSpan
  parsedWords : Nat
  sourceLines : Nat
  positioningBlocks : Nat
  programEndLine : Option Nat
  envelopeOpen : Bool

def ImportState.initial : ImportState :=
  ⟨⟨none, none, false, none, none, none⟩, [], [], 0, 0, 0, none, false⟩

/-- The kind of a drawn motion with the curve it draws and the arc centre mode it used. -/
def drawCurve (state : ModalState) (block : ParsedBlock) (motion : MotionMode)
    (start endpoint : Point) (scale : ℚ) (line : Nat) :
    CncGeometryImportResult (ExactCurves.Curve × CncMotionKind × Option CncArcCenterMode) :=
  let arc (kind : CncMotionKind) (clockwise : Bool) :
      CncGeometryImportResult (ExactCurves.Curve × CncMotionKind × Option CncArcCenterMode) := do
    failIf (start = endpoint) (.fullCircleUnsupported line)
    let centerMode ← state.arcCenterMode.okOr (.missingModalState line "G90.1/G91.1 arc centre")
    let center ← arcCenterFromBlock start block centerMode scale line
    let curve ← (ExactCurves.circularArc start endpoint center clockwise).mapError (.geometry line)
    pure (curve, kind, some centerMode)
  match motion with
  | .clockwiseArc => arc .clockwiseArc true
  | .counterClockwiseArc => arc .counterClockwiseArc false
  -- A rapid was handled before any curve is drawn.
  | .rapid | .linear => do
    failIf (block.i.isSome ∨ block.j.isSome) (.unexpectedArcCenter line)
    let curve ← (ExactCurves.lineSegment start endpoint).mapError (.geometry line)
    pure (curve, .linear, none)

/-- Move or draw to the coordinates of a block whose modes are already in force. -/
def importCoordinates (limits : CncGeometryImportLimits) (state : ImportState)
    (block : ParsedBlock) (line : Nat) : CncGeometryImportResult ImportState := do
  let units ← state.modal.units.okOr (.missingModalState line "G20/G21 units")
  let distanceMode ←
    state.modal.distanceMode.okOr (.missingModalState line "G90/G91 endpoint distance")
  failIf (¬ state.modal.planeXy) (.missingModalState line "G17 XY plane")
  let motion ← state.modal.motion.okOr (.missingModalState line "G0/G1/G2/G3 motion")
  let scale := units.millimetresPerSourceUnit
  match state.modal.currentMm with
  | none =>
    failIf (motion ≠ .rapid ∨ distanceMode ≠ .absolute) (.missingInitialPosition line)
    let x ← block.x.okOr (.incompleteInitialPosition line)
    let y ← block.y.okOr (.incompleteInitialPosition line)
    failIf (block.i.isSome ∨ block.j.isSome) (.unexpectedArcCenter line)
    pure { state with
      modal := { state.modal with currentMm := some ⟨x * scale, y * scale⟩ }
      positioningBlocks := state.positioningBlocks + 1 }
  | some start =>
    let endpoint ← endpointFromBlock start block distanceMode scale line
    let modal := { state.modal with currentMm := some endpoint }
    if motion = .rapid then
      failIf (state.curves ≠ []) (.disconnectedRapid line)
      failIf (block.i.isSome ∨ block.j.isSome) (.unexpectedArcCenter line)
      pure { state with modal, positioningBlocks := state.positioningBlocks + 1 }
    else
      failIf (limits.maximumCurves < state.curves.length + 1)
        (.tooManyCurves (state.curves.length + 1) limits.maximumCurves)
      let (curve, kind, arcCenterMode) ←
        drawCurve state.modal block motion start endpoint scale line
      let span : CncSourceSpan :=
        ⟨state.curves.length, line, block.blockNumber, kind, units, distanceMode, arcCenterMode⟩
      pure { state with modal, curves := state.curves ++ [curve], spans := state.spans ++ [span] }

/-- Import a line that is neither blank nor an envelope mark. -/
def importBlock (limits : CncGeometryImportLimits) (state : ImportState) (trimmed : List UInt8)
    (line : Nat) : CncGeometryImportResult ImportState := do
  failIf state.programEndLine.isSome (.wordsAfterProgramEnd line)
  let words ← lexWords trimmed line limits.maximumDecimalCharacters
  let state := { state with parsedWords := state.parsedWords + words.length }
  failIf (limits.maximumWords < state.parsedWords)
    (.tooManyWords state.parsedWords limits.maximumWords)
  let block ← parseBlock words line
  if block.programEnd then
    failIf (¬ block.onlyProgramEnd) (.programEndMixed line)
    pure { state with programEndLine := some line }
  else
    let state := { state with modal := state.modal.apply block }
    if block.hasCoordinates then importCoordinates limits state block line else pure state

/-- Import a `%` line: it opens an envelope before the first position and closes it after the
program end. -/
def importEnvelope (state : ImportState) (line : Nat) : CncGeometryImportResult ImportState :=
  if state.programEndLine.isSome then
    if state.envelopeOpen then .ok { state with envelopeOpen := false }
    else .error (.unexpectedEnvelope line)
  else if ¬ state.envelopeOpen ∧ state.curves = [] ∧ state.modal.currentMm.isNone then
    .ok { state with envelopeOpen := true }
  else .error (.unexpectedEnvelope line)

/-- Import the next physical line. -/
def importLine (limits : CncGeometryImportLimits) (state : ImportState) (rawLine : List UInt8) :
    CncGeometryImportResult ImportState := do
  let line := state.sourceLines + 1
  let state := { state with sourceLines := line }
  failIf (limits.maximumLines < line) (.tooManyLines line limits.maximumLines)
  let rawLine := stripCarriageReturn rawLine
  failIf (limits.maximumLineBytes < rawLine.length)
    (.lineTooLong line rawLine.length limits.maximumLineBytes)
  let uncommented ← stripComments rawLine line
  let trimmed := trimAsciiWhitespace uncommented
  if trimmed = [] then pure state
  else if trimmed = [envelopeMark] then importEnvelope state line
  else importBlock limits state trimmed line

/-- Parse one bounded CNC source into a connected exact path. -/
def importExactCncGeometry [Sha256] (source : List UInt8) (limits : CncGeometryImportLimits) :
    CncGeometryImportResult ImportedCncGeometry := do
  failIf (limits.maximumSourceBytes < source.length)
    (.sourceTooLarge source.length limits.maximumSourceBytes)
  validateSourceBytes source
  let state ← (source.splitOn lineFeed).foldlM (importLine limits) .initial
  let programEndLine ← state.programEndLine.okOr .missingProgramEnd
  failIf state.envelopeOpen .unclosedEnvelope
  let first ← state.curves.head?.okOr .emptyPath
  let last ← state.curves.getLast?.okOr .emptyPath
  (ExactCurves.validatePath state.curves).mapError .path
  pure ⟨state.curves, ⟨Sha256.sha256 source, source.length, state.sourceLines, state.parsedWords,
    state.positioningBlocks, programEndLine, ExactCurves.start first, ExactCurves.finish last,
    state.spans⟩⟩

end Alumina.Cnc
