import Mathlib
import Alumina.ForStd.Except

/-!
# Prefix codecs over byte lists

A decoder is a state transformer on the bytes that remain. `Codec.Reads d bytes a`
says that `d` consumes exactly `bytes`, whatever follows them, and returns `a`: the
unit in which the round trip of a whole format is proved. An encoder is a function
that returns the bytes it appends, or the rejection it raises.

Key results:
- `ofLeBytes_leBytes`: little-endian words round trip below their width
- `Reads.bind`: a decoder in sequence reads the concatenation
- `Reads.replicate`: counted repetition reads what `encodeAll` wrote
-/

namespace Codec

variable {ε : Type} {α β σ : Type}

/-! ## Little-endian words -/

/-- The low `w` bytes of `n`, least significant first. -/
def leBytes : Nat → Nat → List UInt8
  | 0, _ => []
  | w + 1, n => UInt8.ofNat (n % 256) :: leBytes w (n / 256)

/-- The number a little-endian byte list spells. -/
def ofLeBytes : List UInt8 → Nat
  | [] => 0
  | b :: bs => b.toNat + 256 * ofLeBytes bs

@[simp] theorem length_leBytes (w n : Nat) : (leBytes w n).length = w := by
  induction w generalizing n with
  | zero => rfl
  | succ w ih => simp [leBytes, ih]

/-- Words below their width are recovered from their bytes. -/
theorem ofLeBytes_leBytes (w n : Nat) (h : n < 256 ^ w) : ofLeBytes (leBytes w n) = n := by
  induction w generalizing n with
  | zero => simp at h; simp [leBytes, ofLeBytes, h]
  | succ w ih =>
    have hdiv : n / 256 < 256 ^ w := by
      rw [Nat.div_lt_iff_lt_mul (by decide)]
      rwa [pow_succ] at h
    have hbyte : (UInt8.ofNat (n % 256)).toNat = n % 256 := by
      simp
    rw [leBytes, ofLeBytes, ih _ hdiv, hbyte]
    omega

/-! ## Encoders -/

/-- Encode the members of a list one after the other. -/
def encodeAll (encode : α → Except ε (List UInt8)) : List α → Except ε (List UInt8)
  | [] => .ok []
  | x :: xs => do
    let first ← encode x
    let rest ← encodeAll encode xs
    return first ++ rest

@[simp] theorem encodeAll_nil (encode : α → Except ε (List UInt8)) :
    encodeAll encode [] = .ok [] := rfl

theorem encodeAll_cons_eq_ok {encode : α → Except ε (List UInt8)} {x : α} {xs : List α}
    {bytes : List UInt8} :
    encodeAll encode (x :: xs) = .ok bytes ↔
      ∃ first, encode x = .ok first ∧
        ∃ rest, encodeAll encode xs = .ok rest ∧ bytes = first ++ rest := by
  simp only [encodeAll, Except.bind_eq_ok, Except.pure_eq_ok, @eq_comm _ bytes]

/-! ## Decoders -/

/-- A decoder returns its value and the bytes it left. -/
abbrev Decoder (ε α : Type) := StateT (List UInt8) (Except ε) α

/-- Split off the next `n` bytes, or reject with `truncated`. -/
def take (truncated : ε) (n : Nat) : Decoder ε (List UInt8) := fun remaining =>
  if n > remaining.length then .error truncated
  else .ok (remaining.take n, remaining.drop n)

/-- Whether every byte has been consumed. -/
def isEmpty : Decoder ε Bool := fun remaining => .ok (remaining.isEmpty, remaining)

/-- Run a decoder `n` times and collect the results. -/
def replicate (n : Nat) (d : Decoder ε α) : Decoder ε (List α) :=
  match n with
  | 0 => pure []
  | n + 1 => do
    let x ← d
    let xs ← replicate n d
    return x :: xs

/-- Run a decoder once for each member of a list, threading a state through the runs. -/
def traverse (d : σ → β → Decoder ε (α × σ)) : σ → List β → Decoder ε (List α × σ)
  | state, [] => pure ([], state)
  | state, b :: bs => do
    let (x, state) ← d state b
    let (xs, state) ← traverse d state bs
    return (x :: xs, state)

/-- `d` consumes exactly `bytes` and returns `a`, whatever follows. -/
def Reads (d : Decoder ε α) (bytes : List UInt8) (a : α) : Prop :=
  ∀ rest, d (bytes ++ rest) = .ok (a, rest)

/-- A decoder in sequence succeeds when both parts do. -/
theorem bind_eq_ok {d : Decoder ε α} {f : α → Decoder ε β} {bytes : List UInt8}
    {result : β × List UInt8} :
    (d >>= f) bytes = .ok result ↔ ∃ a rest, d bytes = .ok (a, rest) ∧ f a rest = .ok result := by
  change (d bytes >>= fun p => f p.1 p.2) = _ ↔ _
  cases d bytes with
  | error e => simp [bind, Except.bind]
  | ok p => simp [bind, Except.bind, Prod.ext_iff]

/-- A check inside a decoder consumes nothing. -/
theorem lift_eq_ok {x : Except ε α} {bytes : List UInt8} {result : α × List UInt8} :
    (liftM x : Decoder ε α) bytes = .ok result ↔ x = .ok result.1 ∧ bytes = result.2 := by
  cases x with
  | error e => simp [liftM, monadLift, MonadLift.monadLift, StateT.lift, bind, Except.bind]
  | ok a =>
    simp [liftM, monadLift, MonadLift.monadLift, StateT.lift, bind, Except.bind, pure, Except.pure,
      Prod.ext_iff]

theorem Reads.pure (a : α) : Reads (Pure.pure a : Decoder ε α) [] a := fun _ => rfl

/-- Running a decoder in front of a continuation hands the rest of the input on. -/
theorem Reads.bind_apply {d : Decoder ε α} {f : α → Decoder ε β} {bytes : List UInt8} {a : α}
    (hd : Reads d bytes a) (rest : List UInt8) : (d >>= f) (bytes ++ rest) = f a rest := by
  change (d (bytes ++ rest) >>= fun p => f p.1 p.2) = _
  rw [hd rest]
  rfl

theorem Reads.bind {d : Decoder ε α} {f : α → Decoder ε β} {bytes₁ bytes₂ : List UInt8}
    {a : α} {b : β} (hd : Reads d bytes₁ a) (hf : Reads (f a) bytes₂ b) :
    Reads (d >>= f) (bytes₁ ++ bytes₂) b := by
  intro rest
  rw [List.append_assoc, hd.bind_apply]
  exact hf rest

/-- A continuation that reads nothing adds no bytes. -/
theorem Reads.bind_nil {d : Decoder ε α} {f : α → Decoder ε β} {bytes : List UInt8} {a : α}
    {b : β} (hd : Reads d bytes a) (hf : Reads (f a) [] b) : Reads (d >>= f) bytes b := by
  have h := hd.bind hf
  rwa [List.append_nil] at h

/-- A last step that only transforms the value reads no further bytes. -/
theorem Reads.map {d : Decoder ε α} {f : α → β} {bytes : List UInt8} {a : α}
    (hd : Reads d bytes a) : Reads (do return f (← d)) bytes (f a) :=
  hd.bind_nil (Reads.pure (f a))

/-- A check or lookup on values already read consumes nothing. -/
theorem Reads.lift {x : Except ε α} {a : α} (h : x = .ok a) :
    Reads (liftM x : Decoder ε α) [] a := by
  intro rest
  subst h
  rfl

/-- A passed check in front of a decoder changes nothing. -/
theorem Reads.lift_bind {x : Except ε α} {a : α} {f : α → Decoder ε β} {bytes : List UInt8}
    {b : β} (h : x = .ok a) (hf : Reads (f a) bytes b) :
    Reads ((liftM x : Decoder ε α) >>= f) bytes b :=
  (Reads.lift h).bind hf

theorem Reads.of_eq {d : Decoder ε α} {bytes bytes' : List UInt8} {a a' : α}
    (h : Reads d bytes a) (hbytes : bytes' = bytes) (ha : a' = a) : Reads d bytes' a' := by
  rw [hbytes, ha]
  exact h

theorem Reads.take (truncated : ε) (bytes : List UInt8) :
    Reads (take truncated bytes.length) bytes bytes := by
  intro rest
  simp [Codec.take]

/-- At the end of the input nothing remains. -/
theorem Reads.run_nil {d : Decoder ε α} {bytes : List UInt8} {a : α} (h : Reads d bytes a) :
    d bytes = .ok (a, []) := by
  simpa using h []

/-- Counted repetition reads back what `encodeAll` wrote. -/
theorem Reads.replicate {d : Decoder ε α} {encode : α → Except ε' (List UInt8)}
    (xs : List α) {bytes : List UInt8} (henc : encodeAll encode xs = .ok bytes)
    (hread : ∀ x ∈ xs, ∀ b, encode x = .ok b → Reads d b x) :
    Reads (replicate xs.length d) bytes xs := by
  induction xs generalizing bytes with
  | nil =>
    simp only [encodeAll_nil, Except.ok.injEq] at henc
    subst henc
    exact Reads.pure []
  | cons x xs ih =>
    obtain ⟨first, hfirst, rest, hrest, rfl⟩ := encodeAll_cons_eq_ok.1 henc
    refine (hread x (by simp) first hfirst).bind ?_
    exact (ih hrest fun y hy => hread y (by simp [hy])).map (f := fun ys => x :: ys)

end Codec
