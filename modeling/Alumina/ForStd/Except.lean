import Mathlib

/-!
# Except lemmas for the standard library

Early-return checks (`failIf`, `Option.okOr`, `Except.attest`) and the lemmas that
invert a successful run of a sequence of them. Nothing here names the program that
is modelled. The inversion lemmas are simp lemmas, so that
`simp only [Except.bind_eq_ok, ...] at h` turns one successful `do` block into the
list of facts its checks established.
-/

namespace Except

/-- Reject with `e` when `c` holds, and continue otherwise. -/
def failIf (c : Prop) [Decidable c] (e : ε) : Except ε Unit :=
  if c then .error e else .ok ()

/-- Run a check and keep the proof that it passed. -/
def attest (x : Except ε Unit) : Except ε (PLift (x = .ok ())) :=
  match x with
  | .ok () => .ok ⟨rfl⟩
  | .error e => .error e

/-! ## Inversion of a successful run -/

@[simp] theorem bind_eq_ok {x : Except ε α} {f : α → Except ε β} {b : β} :
    x >>= f = .ok b ↔ ∃ a, x = .ok a ∧ f a = .ok b := by
  cases x with
  | error e => simp [bind, Except.bind]
  | ok a => simp [bind, Except.bind]

/-- A check returns nothing, so there is only one result to name. -/
@[simp] theorem exists_unit {p : Unit → Prop} : (∃ u, p u) ↔ p () :=
  ⟨fun ⟨_, h⟩ => h, fun h => ⟨_, h⟩⟩

@[simp] theorem map_eq_ok {x : Except ε α} {f : α → β} {b : β} :
    f <$> x = .ok b ↔ ∃ a, x = .ok a ∧ f a = b := by
  cases x with
  | error e => simp [Functor.map, Except.map]
  | ok a => simp [Functor.map, Except.map]

@[simp] theorem pure_eq_ok {a b : α} : (pure a : Except ε α) = .ok b ↔ a = b := by
  simp [pure, Except.pure]

@[simp] theorem failIf_eq_ok {c : Prop} [Decidable c] {e : ε} :
    failIf c e = .ok () ↔ ¬ c := by
  unfold failIf
  split <;> simp_all

/-- A passed `failIf` is transparent. -/
theorem failIf_of_not {c : Prop} [Decidable c] {e : ε} (h : ¬ c) : failIf c e = .ok () :=
  failIf_eq_ok.2 h

@[simp] theorem failIf_eq_error {c : Prop} [Decidable c] {e e' : ε} :
    failIf c e = .error e' ↔ c ∧ e = e' := by
  unfold failIf
  split <;> simp_all

@[simp] theorem mapError_eq_ok {x : Except ε α} {f : ε → ε'} {a : α} :
    x.mapError f = .ok a ↔ x = .ok a := by
  cases x <;> simp [Except.mapError]

theorem toOption_eq_some {x : Except ε α} {a : α} : x.toOption = some a ↔ x = .ok a := by
  cases x <;> simp [Except.toOption]

theorem bind_eq_error {x : Except ε α} {f : α → Except ε β} {e : ε} :
    x >>= f = .error e ↔ x = .error e ∨ ∃ a, x = .ok a ∧ f a = .error e := by
  cases x with
  | error e' => simp [bind, Except.bind]
  | ok a => simp [bind, Except.bind]

theorem map_eq_error {x : Except ε α} {f : α → β} {e : ε} :
    f <$> x = .error e ↔ x = .error e := by
  cases x with
  | error e' => simp [Functor.map, Except.map]
  | ok a => simp [Functor.map, Except.map]

theorem mapError_eq_error {x : Except ε α} {f : ε → ε'} {e : ε'} :
    x.mapError f = .error e ↔ ∃ e', x = .error e' ∧ f e' = e := by
  cases x <;> simp [Except.mapError]

/-- A passed check attests itself. -/
theorem attest_of_ok {x : Except ε Unit} (h : x = .ok ()) : x.attest = .ok ⟨h⟩ := by
  subst h
  rfl

@[simp] theorem attest_eq_ok {x : Except ε Unit} {p : PLift (x = .ok ())} :
    x.attest = .ok p ↔ True := by
  obtain ⟨h⟩ := p
  simp [attest_of_ok h]

/-- Binding through a computed success continues with its value. -/
theorem bind_of_ok {x : Except ε α} {f : α → Except ε β} {a : α} (h : x = .ok a) :
    x >>= f = f a := by
  subst h
  rfl

/-- The value of a computed success is its result. -/
theorem eq_ok_get {x : Except ε α} (h : x.toOption.isSome = true) :
    x = .ok (x.toOption.get h) := by
  cases x with
  | error e => cases h
  | ok a => rfl

/-- A computation that is not an error is a success. -/
theorem isOk_iff_exists {x : Except ε α} : x.isOk = true ↔ ∃ a, x = .ok a := by
  cases x <;> simp [Except.isOk, Except.toBool]

/-! ## Checks over a list -/

/-- Run a check at every member of a list, in order. -/
def forEach (f : α → Except ε Unit) : List α → Except ε Unit
  | [] => .ok ()
  | x :: xs => do
    f x
    forEach f xs

/-- A check passes over a whole list exactly when it passes at every member. -/
theorem forEach_eq_ok {f : α → Except ε Unit} {xs : List α} :
    forEach f xs = .ok () ↔ ∀ x ∈ xs, f x = .ok () := by
  induction xs with
  | nil => simp [forEach]
  | cons x xs ih => simp [forEach, ih]

/-- A check that fails over a list fails at a member. -/
theorem forEach_eq_error {f : α → Except ε Unit} {xs : List α} {e : ε}
    (h : forEach f xs = .error e) : ∃ x ∈ xs, f x = .error e := by
  induction xs with
  | nil => cases h
  | cons x xs ih =>
    rw [forEach, bind_eq_error] at h
    rcases h with hx | ⟨_, -, hxs⟩
    · exact ⟨x, by simp, hx⟩
    · obtain ⟨y, hy, herror⟩ := ih hxs
      exact ⟨y, by simp [hy], herror⟩

/-! ## Folds that append -/

/-- A fold whose every step appends to one component of the state appends, over a whole
list, what the single steps appended. -/
theorem foldlM_append {f : σ → α → Except ε σ} {g : σ → List β} {R : α → List β → Prop}
    (hstep : ∀ s a s', f s a = .ok s' → ∃ new, g s' = g s ++ new ∧ R a new) {xs : List α}
    {s s' : σ} (h : xs.foldlM f s = .ok s') :
    ∃ news : List (List β), g s' = g s ++ news.flatten ∧ List.Forall₂ R xs news := by
  induction xs generalizing s with
  | nil =>
    obtain rfl : s = s' := by simpa using h
    exact ⟨[], by simp, .nil⟩
  | cons x xs ih =>
    rw [List.foldlM_cons, bind_eq_ok] at h
    obtain ⟨middle, hx, hxs⟩ := h
    obtain ⟨new, hnew, hR⟩ := hstep s x middle hx
    obtain ⟨news, hnews, hRs⟩ := ih hxs
    exact ⟨new :: news, by simp [hnews, hnew], .cons hR hRs⟩

/-- A fold keeps what each of its steps keeps. -/
theorem foldlM_invariant {f : σ → α → Except ε σ} {P : σ → Prop} {xs : List α}
    (hstep : ∀ s, ∀ a ∈ xs, ∀ s', P s → f s a = .ok s' → P s') {s s' : σ} (hs : P s)
    (h : xs.foldlM f s = .ok s') : P s' := by
  induction xs generalizing s with
  | nil =>
    obtain rfl : s = s' := by simpa using h
    exact hs
  | cons x xs ih =>
    rw [List.foldlM_cons, bind_eq_ok] at h
    obtain ⟨middle, hx, hxs⟩ := h
    have hmiddle := hstep s x (by simp) middle hs hx
    exact ih (fun s a ha => hstep s a (by simp [ha])) hmiddle hxs

/-- A fold establishes at every member what one step establishes. -/
theorem foldlM_forall {f : σ → α → Except ε σ} {Q : α → Prop}
    (hstep : ∀ s a s', f s a = .ok s' → Q a) {xs : List α} {s s' : σ}
    (h : xs.foldlM f s = .ok s') : ∀ a ∈ xs, Q a := by
  induction xs generalizing s with
  | nil => simp
  | cons x xs ih =>
    rw [List.foldlM_cons, bind_eq_ok] at h
    obtain ⟨middle, hx, hxs⟩ := h
    exact List.forall_mem_cons.mpr ⟨hstep s x middle hx, ih hxs⟩

/-- A successful traversal pairs each member with its result. -/
theorem mapM_eq_ok {f : α → Except ε β} {xs : List α} {ys : List β} (h : xs.mapM f = .ok ys) :
    List.Forall₂ (fun x y => f x = .ok y) xs ys := by
  induction xs generalizing ys with
  | nil =>
    obtain rfl : [] = ys := by simpa using h
    exact .nil
  | cons x xs ih =>
    simp only [List.mapM_cons, bind_eq_ok, pure_eq_ok] at h
    obtain ⟨y, hy, ys, hys, rfl⟩ := h
    exact .cons hy (ih hys)

/-- A traversal that fails fails at one of its members. -/
theorem mapM_eq_error {f : α → Except ε β} {xs : List α} {e : ε} (h : xs.mapM f = .error e) :
    ∃ x ∈ xs, f x = .error e := by
  induction xs with
  | nil => cases h
  | cons x xs ih =>
    rw [List.mapM_cons, bind_eq_error] at h
    obtain hx | ⟨y, -, h⟩ := h
    · exact ⟨x, by simp, hx⟩
    · rw [bind_eq_error] at h
      obtain hxs | ⟨ys, -, h⟩ := h
      · obtain ⟨x', hx', hfails⟩ := ih hxs
        exact ⟨x', by simp [hx'], hfails⟩
      · cases h

end Except

namespace Option

/-- The value, or the given rejection when there is none. -/
def okOr (o : Option α) (e : ε) : Except ε α :=
  match o with
  | some a => .ok a
  | none => .error e

@[simp] theorem okOr_some {a : α} {e : ε} : (some a).okOr e = .ok a := rfl

@[simp] theorem okOr_none {e : ε} : (none : Option α).okOr e = .error e := rfl

@[simp] theorem okOr_eq_ok {o : Option α} {e : ε} {a : α} :
    o.okOr e = .ok a ↔ o = some a := by
  cases o <;> simp

theorem okOr_eq_error {o : Option α} {e e' : ε} :
    o.okOr e = .error e' ↔ o = none ∧ e = e' := by
  cases o <;> simp

end Option
