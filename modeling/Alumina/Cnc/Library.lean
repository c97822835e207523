import Alumina.Cnc.Import

/-!
# Concrete curve library

The import takes the decimal parser and the exact curves as parameters. This file supplies
executable ones that behave as the crates do on their documented inputs: a parser of
`[-]digits[.digits]`, and curves that keep the points they were built from.
-/

namespace Alumina.Cnc.Library

open Except (failIf)

/-! ## Decimals -/

def parseMagnitude (text : List Char) : Except Problem ℚ := do
  let whole := text.takeWhile (· != '.')
  let fraction := (text.dropWhile (· != '.')).tail
  failIf (whole = [] ∨ ¬ whole.all Char.isDigit ∨ ¬ fraction.all Char.isDigit) .badDecimal
  pure (Nat.ofDigitChars 10 (whole ++ fraction) 0 / 10 ^ fraction.length)

def parse (text : String) : Except Problem ℚ :=
  match text.toList with
  | '-' :: magnitude => (- ·) <$> parseMagnitude magnitude
  | magnitude => parseMagnitude magnitude

/-- A parser of decimals without an exponent. -/
scoped instance decimalParser : DecimalParser := ⟨parse⟩

/-! ## Curves -/

/-- A line, or an arc with its centre and direction. -/
structure Curve where
  start : Point
  finish : Point
  arc : Option (Point × Bool)
  deriving DecidableEq

def distanceSquared (a b : Point) : ℚ := (a.x - b.x) ^ 2 + (a.y - b.y) ^ 2

inductive CurveError where
  | degenerate | unequalRadii
  deriving DecidableEq, Repr

inductive PathError where
  | empty | disconnected
  deriving DecidableEq, Repr

def lineSegment (start finish : Point) : Except CurveError Curve := do
  failIf (start = finish) .degenerate
  pure ⟨start, finish, none⟩

def circularArc (start finish center : Point) (clockwise : Bool) : Except CurveError Curve := do
  failIf (distanceSquared start center = 0) .degenerate
  failIf (distanceSquared start center ≠ distanceSquared finish center) .unequalRadii
  pure ⟨start, finish, some (center, clockwise)⟩

def validatePath (curves : List Curve) : Except PathError Unit := do
  failIf (curves = []) .empty
  failIf (¬ curves.IsChain (fun curve next => curve.finish = next.start)) .disconnected

/-- Curves that keep their end points. -/
@[reducible] scoped instance exactCurves : ExactCurves where
  CurveError := CurveError
  PathError := PathError
  Curve := Curve
  lineSegment := lineSegment
  circularArc := circularArc
  start := Curve.start
  finish := Curve.finish
  validatePath := validatePath

scoped instance lawfulExactCurves : LawfulExactCurves where
  lineSegment_ends h := by
    simp only [ExactCurves.lineSegment, lineSegment, Except.bind_eq_ok, Except.exists_unit,
      Except.pure_eq_ok] at h
    obtain ⟨-, rfl⟩ := h
    exact ⟨rfl, rfl⟩
  circularArc_ends h := by
    simp only [ExactCurves.circularArc, circularArc, Except.bind_eq_ok, Except.exists_unit,
      Except.pure_eq_ok] at h
    obtain ⟨-, -, rfl⟩ := h
    exact ⟨rfl, rfl⟩

end Alumina.Cnc.Library
