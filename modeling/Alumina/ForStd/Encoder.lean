import Alumina.ForStd.Codec

/-!
# Append-only encoders

An encoder appends to the bytes written so far, or rejects. `ReadBy w d a` says that a decoder `d`
reads back the value `a` from whatever `w` appends; it composes with sequencing and repetition, so
a format that is written step by step is read step by step.
-/

namespace Codec

open Except (failIf)

variable {ε ε' α β : Type}

/-- An encoder extends the bytes written so far. -/
abbrev Encoder (ε α : Type) := StateT (List UInt8) (Except ε) α

namespace Encoder

/-- Append bytes, under a check of the length that results. -/
def append (check : Nat → Except ε Unit) (bytes : List UInt8) : Encoder ε Unit := fun written => do
  check (written.length + bytes.length)
  pure ((), written ++ bytes)

/-- What `w` appends, `d` reads as `a`. -/
def ReadBy (w : Encoder ε Unit) (d : Decoder ε' α) (a : α) : Prop :=
  ∀ written written', w written = .ok ((), written') →
    ∃ bytes, written' = written ++ bytes ∧ Reads d bytes a

theorem ReadBy.append {check : Nat → Except ε Unit} {bytes : List UInt8} {d : Decoder ε' α} {a : α}
    (h : Reads d bytes a) : ReadBy (append check bytes) d a := by
  intro written written' hwrite
  unfold Encoder.append at hwrite
  simp only [Except.bind_eq_ok, Except.pure_eq_ok, Prod.mk.injEq, true_and] at hwrite
  obtain ⟨-, -, rfl⟩ := hwrite
  exact ⟨bytes, rfl, h⟩

theorem ReadBy.pure (a : α) : ReadBy (Pure.pure () : Encoder ε Unit) (Pure.pure a : Decoder ε' α) a := by
  rintro written _ ⟨⟩
  exact ⟨[], (List.append_nil written).symm, Reads.pure a⟩

/-- What is written in sequence is read in sequence. -/
theorem ReadBy.bind {w : Encoder ε Unit} {w' : Unit → Encoder ε Unit} {d : Decoder ε' α}
    {d' : α → Decoder ε' β} {a : α} {b : β} (h : ReadBy w d a) (h' : ReadBy (w' ()) (d' a) b) :
    ReadBy (w >>= w') (d >>= d') b := by
  intro written written'' hwrite
  rw [bind_eq_ok] at hwrite
  obtain ⟨⟨⟩, written', hfirst, hsecond⟩ := hwrite
  obtain ⟨bytes, rfl, hreads⟩ := h written written' hfirst
  obtain ⟨bytes', rfl, hreads'⟩ := h' _ written'' hsecond
  exact ⟨bytes ++ bytes', List.append_assoc _ _ _, hreads.bind hreads'⟩

/-- A continuation of the reader that consumes nothing needs nothing to be written. -/
theorem ReadBy.bind_nil {w : Encoder ε Unit} {d : Decoder ε' α} {d' : α → Decoder ε' β} {a : α}
    {b : β} (h : ReadBy w d a) (h' : Reads (d' a) [] b) : ReadBy w (d >>= d') b := by
  intro written written' hwrite
  obtain ⟨bytes, rfl, hreads⟩ := h written written' hwrite
  exact ⟨bytes, rfl, hreads.bind_nil h'⟩

/-- A value computed from what was read is read as well. -/
theorem ReadBy.map {w : Encoder ε Unit} {d : Decoder ε' α} {a : α} (h : ReadBy w d a) (f : α → β) :
    ReadBy w (do return f (← d)) (f a) := h.bind_nil (Reads.pure (f a))

/-- A fallible conversion in front of an encoder appends nothing. -/
theorem ReadBy.lift_bind {x : Except ε β} {w : β → Encoder ε Unit} {d : Decoder ε' α} {a : α}
    (h : ∀ b, x = .ok b → ReadBy (w b) d a) : ReadBy ((liftM x : Encoder ε β) >>= w) d a := by
  intro written written' hwrite
  have hbind := (bind_eq_ok (d := (liftM x : Decoder ε β)) (f := w)).1 hwrite
  obtain ⟨b, rest, hx, hwrite⟩ := hbind
  obtain ⟨hx, rfl⟩ := lift_eq_ok.1 hx
  exact h b hx _ _ hwrite

/-- What is written for each member of a list is read as often as it has members. -/
theorem ReadBy.forM {w : α → Encoder ε Unit} {d : Decoder ε' β} {f : α → β} {xs : List α}
    (h : ∀ x ∈ xs, ReadBy (w x) d (f x)) :
    ReadBy (xs.forM w) (replicate xs.length d) (xs.map f) := by
  induction xs with
  | nil => exact ReadBy.pure []
  | cons x xs ih =>
    apply ReadBy.bind (h x List.mem_cons_self)
    exact ReadBy.map (ih fun y hy => h y (List.mem_cons_of_mem x hy)) (f x :: ·)

/-- Two runs of one format that append the same bytes wrote the same value. -/
theorem ReadBy.unique {w w' : Encoder ε Unit} {d : Decoder ε' α} {a a' : α} (h : ReadBy w d a)
    (h' : ReadBy w' d a') {bytes : List UInt8} (hw : w [] = .ok ((), bytes))
    (hw' : w' [] = .ok ((), bytes)) : a = a' := by
  obtain ⟨appended, happended, hreads⟩ := h [] bytes hw
  obtain ⟨appended', happended', hreads'⟩ := h' [] bytes hw'
  obtain rfl : appended = appended' := happended.symm.trans happended'
  have hboth := hreads.run_nil.symm.trans hreads'.run_nil
  exact congrArg Prod.fst (Except.ok.inj hboth)

end Encoder

end Codec
