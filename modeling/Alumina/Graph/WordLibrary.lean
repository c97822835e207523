import Alumina.Graph.HostLibrary

/-!
# SHA-256 on natural numbers

The digest of `HostLibrary`, on natural numbers instead of machine words and with every word
evaluated before it is used. Concrete runs that hash many documents use it.
-/

namespace Alumina.Graph.WordLibrary

/-- Evaluate a word before it is used. -/
def withWord {α : Type} (word : Nat) (use : Nat → α) : α :=
  Nat.casesOn word (use 0) fun n => use (Nat.succ n)

/-- The last sixteen words of the message schedule, oldest first. -/
inductive Window where
  | mk (w0 w1 w2 w3 w4 w5 w6 w7 w8 w9 w10 w11 w12 w13 w14 w15 : Nat)

/-- The eight working variables. -/
inductive State where
  | mk (a b c d e f g h : Nat)

/-- Rotate right by `n`, where `shift` is `2 ^ (32 - n)`. -/
def rotate (x n shift : Nat) : Nat :=
  Nat.lor (Nat.shiftRight x n) (Nat.mod (Nat.mul x shift) 0x100000000)

def sum (x y : Nat) : Nat := Nat.mod (Nat.add x y) 0x100000000

def xor3 (x y z : Nat) : Nat := Nat.xor (Nat.xor x y) z

/-- One compression round, and one more word of the message schedule. -/
def round (constant : Nat) (window : Window) (state : State) (next : Window → State → State) :
    State :=
  Window.casesOn window fun w0 w1 w2 w3 w4 w5 w6 w7 w8 w9 w10 w11 w12 w13 w14 w15 =>
  State.casesOn state fun a b c d e f g h =>
  withWord (sum (sum (sum h (xor3 (rotate e 6 67108864) (rotate e 11 2097152) (rotate e 25 128)))
    (Nat.xor (Nat.land e f) (Nat.land (Nat.sub 0xffffffff e) g))) (sum constant w0)) fun t1 =>
  withWord (sum t1 (sum (xor3 (rotate a 2 1073741824) (rotate a 13 524288) (rotate a 22 1024))
    (xor3 (Nat.land a b) (Nat.land a c) (Nat.land b c)))) fun top =>
  withWord (sum d t1) fun middle =>
  withWord (sum (sum w0 (xor3 (rotate w1 7 33554432) (rotate w1 18 16384) (Nat.shiftRight w1 3)))
    (sum w9 (xor3 (rotate w14 17 32768) (rotate w14 19 8192) (Nat.shiftRight w14 10)))) fun w16 =>
  next (.mk w1 w2 w3 w4 w5 w6 w7 w8 w9 w10 w11 w12 w13 w14 w15 w16) (.mk top a b c middle e f g)

def rounds : List Nat → Window → State → State
  | [], _, state => state
  | constant :: constants, window, state => round constant window state (rounds constants)

def constants : List Nat := HostLibrary.roundConstants.map UInt32.toNat

def addStates (left right : State) : State :=
  State.casesOn left fun a b c d e f g h => State.casesOn right fun a' b' c' d' e' f' g' h' =>
  withWord (sum a a') fun a => withWord (sum b b') fun b => withWord (sum c c') fun c =>
  withWord (sum d d') fun d => withWord (sum e e') fun e => withWord (sum f f') fun f =>
  withWord (sum g g') fun g => withWord (sum h h') fun h => .mk a b c d e f g h

/-- Read big-endian words. -/
def readWords : Nat → List UInt8 → (List UInt8 → List Nat → State) → State
  | 0, bytes, use => use bytes []
  | n + 1, b0 :: b1 :: b2 :: b3 :: bytes, use =>
    withWord (HostLibrary.ofBigEndian [b0, b1, b2, b3]) fun word =>
    readWords n bytes fun rest words => use rest (word :: words)
  | _ + 1, _, use => use [] []

def window : List Nat → Window
  | [w0, w1, w2, w3, w4, w5, w6, w7, w8, w9, w10, w11, w12, w13, w14, w15] =>
    .mk w0 w1 w2 w3 w4 w5 w6 w7 w8 w9 w10 w11 w12 w13 w14 w15
  | _ => .mk 0 0 0 0 0 0 0 0 0 0 0 0 0 0 0 0

def compressBlocks : Nat → List UInt8 → State → State
  | 0, _, state => state
  | n + 1, bytes, state => readWords 16 bytes fun rest words =>
    compressBlocks n rest (addStates state (rounds constants (window words) state))

def wordBytes (word : Nat) : List UInt8 :=
  [.ofNat (Nat.div word 16777216), .ofNat (Nat.div word 65536), .ofNat (Nat.div word 256),
    .ofNat word]

def digestBytes (message : List UInt8) : List UInt8 :=
  let padded := HostLibrary.pad message
  let initial := State.mk 0x6a09e667 0xbb67ae85 0x3c6ef372 0xa54ff53a 0x510e527f 0x9b05688c
    0x1f83d9ab 0x5be0cd19
  State.casesOn (compressBlocks (padded.length / 64) padded initial) fun a b c d e f g h =>
    [a, b, c, d, e, f, g, h].flatMap wordBytes

/-- SHA-256 of a byte list. -/
scoped instance sha256 : Sha256 where
  sha256 message :=
    if h : (digestBytes message).length = 32 then ⟨digestBytes message, h⟩
    else .replicate 32 0

-- the digest of the bytes of "abc"
example : (Sha256.sha256 [97, 98, 99]).val =
    [0xba, 0x78, 0x16, 0xbf, 0x8f, 0x01, 0xcf, 0xea, 0x41, 0x41, 0x40, 0xde, 0x5d, 0xae, 0x22,
      0x23, 0xb0, 0x03, 0x61, 0xa3, 0x96, 0x17, 0x7a, 0x9c, 0xb4, 0x10, 0xff, 0x61, 0xf2, 0x00,
      0x15, 0xad] := by
  decide +kernel

end Alumina.Graph.WordLibrary
