import Mathlib
import Alumina.Graph.Wire

/-!
# Concrete host libraries

The model takes the rational parser and the digest as parameters. This file supplies
executable ones that behave as the libraries do: a parser of `[-]numerator/denominator`
and SHA-256. Concrete runs use them; no result about all documents does.
-/

namespace Alumina.Graph.HostLibrary

/-! ## Rational text -/

/-- The value of `numerator/denominator` in decimal digits. -/
def parseMagnitude (cs : List Char) : Option ℚ :=
  let numerator := cs.takeWhile (· != '/')
  match cs.dropWhile (· != '/') with
  | '/' :: denominator =>
    if numerator.isEmpty || denominator.isEmpty || !numerator.all Char.isDigit ||
        !denominator.all Char.isDigit || Nat.ofDigitChars 10 denominator 0 = 0 then none
    else some (Nat.ofDigitChars 10 numerator 0 / Nat.ofDigitChars 10 denominator 0)
  | _ => none

def parseRational (s : String) : Option ℚ :=
  match s.toList with
  | '-' :: cs => (parseMagnitude cs).map (- ·)
  | cs => parseMagnitude cs

/-- Magnitudes of decimal digits parse to their quotient. -/
private theorem parseMagnitude_toDigits (n : Nat) {d : Nat} (hd : d ≠ 0) :
    parseMagnitude (Nat.toDigits 10 n ++ '/' :: Nat.toDigits 10 d) = some ((n : ℚ) / d) := by
  have hdigit : ∀ m, ∀ c ∈ Nat.toDigits 10 m, c.isDigit = true := fun m c hc =>
    Nat.isDigit_of_mem_toDigits (by decide) (by decide) hc
  have hslash : ∀ c ∈ Nat.toDigits 10 n, (c != '/') = true := by
    intro c hc
    rw [bne_iff_ne]
    rintro rfl
    exact absurd (hdigit n _ hc) (by decide)
  unfold parseMagnitude
  rw [List.takeWhile_append_of_pos hslash, List.dropWhile_append_of_pos hslash]
  have hall : ∀ m, (Nat.toDigits 10 m).all Char.isDigit = true := fun m =>
    List.all_eq_true.2 (hdigit m)
  simp [List.isEmpty_iff, Nat.toDigits_ne_nil, hd, Nat.ofDigitChars_ten_toDigits, hall]

private theorem parseRational_rationalText (q : ℚ) :
    parseRational (rationalText q) = some q := by
  have habs : ((q.num.natAbs : ℕ) : ℚ) / q.den = |q| := by
    rw [Rat.abs_def, Rat.divInt_eq_div]
    simp
  have htext : (numeratorText q ++ "/" ++ denominatorText q).toList =
      Nat.toDigits 10 q.num.natAbs ++ '/' :: Nat.toDigits 10 q.den := by
    simp [numeratorText, denominatorText, String.toList_append, Nat.toList_repr]
  have hmagnitude := parseMagnitude_toDigits q.num.natAbs q.den_nz
  rw [habs] at hmagnitude
  by_cases hneg : q < 0
  · have hlist : (rationalText q).toList =
        '-' :: (Nat.toDigits 10 q.num.natAbs ++ '/' :: Nat.toDigits 10 q.den) := by
      rw [rationalText, if_pos hneg, String.append_assoc, String.append_assoc,
        String.toList_append, ← String.append_assoc, htext]
      rfl
    simp only [parseRational, hlist, hmagnitude, Option.map_some, abs_of_neg hneg, neg_neg]
  · have hlist : (rationalText q).toList =
        Nat.toDigits 10 q.num.natAbs ++ '/' :: Nat.toDigits 10 q.den := by
      rw [rationalText, if_neg hneg, String.empty_append, htext]
    rw [abs_of_nonneg (not_lt.1 hneg)] at hmagnitude
    -- a digit is never the sign character
    have hsign : ∀ cs, Nat.toDigits 10 q.num.natAbs ++ '/' :: Nat.toDigits 10 q.den ≠ '-' :: cs := by
      intro cs hcs
      cases hd : Nat.toDigits 10 q.num.natAbs with
      | nil => exact Nat.toDigits_ne_nil hd
      | cons c ds =>
        rw [hd, List.cons_append, List.cons.injEq] at hcs
        have hdigit : c.isDigit = true :=
          Nat.isDigit_of_mem_toDigits (by decide) (by decide) (hd ▸ List.mem_cons_self)
        rw [hcs.1] at hdigit
        exact absurd hdigit (by decide)
    rw [parseRational, hlist]
    split
    · rename_i cs hcs
      exact absurd hcs (hsign cs)
    · exact hmagnitude

/-- A parser with the law the model asks for. -/
scoped instance rationalParser : RationalParser := ⟨parseRational, parseRational_rationalText⟩

/-! ## SHA-256 -/

def roundConstants : List UInt32 := [
    0x428a2f98, 0x71374491, 0xb5c0fbcf, 0xe9b5dba5, 0x3956c25b, 0x59f111f1, 0x923f82a4,
    0xab1c5ed5, 0xd807aa98, 0x12835b01, 0x243185be, 0x550c7dc3, 0x72be5d74, 0x80deb1fe,
    0x9bdc06a7, 0xc19bf174, 0xe49b69c1, 0xefbe4786, 0x0fc19dc6, 0x240ca1cc, 0x2de92c6f,
    0x4a7484aa, 0x5cb0a9dc, 0x76f988da, 0x983e5152, 0xa831c66d, 0xb00327c8, 0xbf597fc7,
    0xc6e00bf3, 0xd5a79147, 0x06ca6351, 0x14292967, 0x27b70a85, 0x2e1b2138, 0x4d2c6dfc,
    0x53380d13, 0x650a7354, 0x766a0abb, 0x81c2c92e, 0x92722c85, 0xa2bfe8a1, 0xa81a664b,
    0xc24b8b70, 0xc76c51a3, 0xd192e819, 0xd6990624, 0xf40e3585, 0x106aa070, 0x19a4c116,
    0x1e376c08, 0x2748774c, 0x34b0bcb5, 0x391c0cb3, 0x4ed8aa4a, 0x5b9cca4f, 0x682e6ff3,
    0x748f82ee, 0x78a5636f, 0x84c87814, 0x8cc70208, 0x90befffa, 0xa4506ceb, 0xbef9a3f7,
    0xc67178f2]

def initialState : List UInt32 := [
    0x6a09e667, 0xbb67ae85, 0x3c6ef372, 0xa54ff53a, 0x510e527f, 0x9b05688c, 0x1f83d9ab,
    0x5be0cd19]

def rotateRight (x : UInt32) (n : UInt32) : UInt32 := (x >>> n) ||| (x <<< (32 - n))

/-- One compression round on the eight working variables. -/
def compressRound (state : List UInt32) (input : UInt32 × UInt32) : List UInt32 :=
  match state with
  | [a, b, c, d, e, f, g, h] =>
    let s1 := rotateRight e 6 ^^^ rotateRight e 11 ^^^ rotateRight e 25
    let t1 := h + s1 + ((e &&& f) ^^^ (~~~e &&& g)) + input.1 + input.2
    let s0 := rotateRight a 2 ^^^ rotateRight a 13 ^^^ rotateRight a 22
    let t2 := s0 + ((a &&& b) ^^^ (a &&& c) ^^^ (b &&& c))
    [t1 + t2, a, b, c, d + t1, e, f, g]
  | _ => state

/-- The message schedule, newest word first, extended `n` times. -/
def extendSchedule : Nat → List UInt32 → List UInt32
  | 0, words => words
  | n + 1, words =>
    let w15 := words.getD 14 0
    let w2 := words.getD 1 0
    let s0 := rotateRight w15 7 ^^^ rotateRight w15 18 ^^^ (w15 >>> 3)
    let s1 := rotateRight w2 17 ^^^ rotateRight w2 19 ^^^ (w2 >>> 10)
    extendSchedule n ((words.getD 15 0 + s0 + words.getD 6 0 + s1) :: words)

/-- The number a big-endian byte list spells. -/
def ofBigEndian (bytes : List UInt8) : Nat := Codec.ofLeBytes bytes.reverse

/-- The chunks of a list, `size` members each. -/
def chunks (size : Nat) : Nat → List UInt8 → List (List UInt8)
  | 0, _ => []
  | n + 1, bytes => bytes.take size :: chunks size n (bytes.drop size)

def compress (state : List UInt32) (block : List UInt8) : List UInt32 :=
  let words := (chunks 4 16 block).map fun word => UInt32.ofNat (ofBigEndian word)
  let schedule := (extendSchedule 48 words.reverse).reverse
  List.zipWith (· + ·) state ((roundConstants.zip schedule).foldl compressRound state)

def pad (message : List UInt8) : List UInt8 :=
  message ++ [0x80] ++ List.replicate ((119 - message.length % 64) % 64) 0 ++
    (Codec.leBytes 8 (8 * message.length)).reverse

def digestBytes (message : List UInt8) : List UInt8 :=
  let padded := pad message
  let state := (chunks 64 (padded.length / 64) padded).foldl compress initialState
  state.flatMap fun word => (Codec.leBytes 4 word.toNat).reverse

/-- SHA-256 of a byte list. -/
scoped instance sha256 : Sha256 where
  sha256 message :=
    if h : (digestBytes message).length = 32 then ⟨digestBytes message, h⟩
    else .replicate 32 0

end Alumina.Graph.HostLibrary
