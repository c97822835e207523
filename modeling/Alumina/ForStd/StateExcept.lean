import Alumina.ForStd.Except

/-!
# Runs of a fallible state machine

A reader with a state is a `StateT σ (Except ε)` computation. `Runs x before a after` says that it
succeeds from one state with a value in another. The rules follow the `do` block: a run of a
sequence is a run of its first step and then of the rest.

## Key results

- `runs_bind`: the rule of sequence
- `Runs.passed`: a passed check is transparent
-/

variable {σ ε α β : Type}

/-- A run of a reader, from one state to another. -/
def Runs (reader : StateT σ (Except ε) α) (before : σ) (value : α) (after : σ) : Prop :=
  reader before = .ok (value, after)

/-- Reject, whatever the state. -/
def StateT.reject (error : ε) : StateT σ (Except ε) α := fun _ => .error error

/-- Reject when `c` holds, and continue otherwise. -/
def StateT.rejectIf (c : Prop) [Decidable c] (error : ε) : StateT σ (Except ε) Unit :=
  if c then StateT.reject error else pure ()

/-- The value of an option, or a rejection. -/
def StateT.require (value : Option α) (error : ε) : StateT σ (Except ε) α :=
  value.elim (StateT.reject error) pure

section Rules

variable {x : StateT σ (Except ε) α} {f : α → StateT σ (Except ε) β} {before middle after : σ}
  {a : α} {b : β} {error : ε}

@[simp] theorem runs_pure {value : α} :
    Runs (ε := ε) (pure value) before a after ↔ value = a ∧ before = after := by
  change (Except.ok (value, before) : Except ε (α × σ)) = .ok (a, after) ↔ _
  rw [Except.ok.injEq, Prod.mk.injEq]

theorem runs_bind :
    Runs (x >>= f) before b after ↔
      ∃ a middle, Runs x before a middle ∧ Runs (f a) middle b after := by
  change (x before >>= fun result => f result.1 result.2) = .ok (b, after) ↔ _
  rw [Except.bind_eq_ok]
  exact Prod.exists

theorem Runs.bind (hx : Runs x before a middle) (hf : Runs (f a) middle b after) :
    Runs (x >>= f) before b after :=
  runs_bind.2 ⟨a, middle, hx, hf⟩

@[simp] theorem not_runs_reject : ¬ Runs (StateT.reject error) before a after := by
  unfold Runs StateT.reject
  exact fun h => by cases h

@[simp] theorem runs_get {value : σ} :
    Runs (ε := ε) get before value after ↔ before = value ∧ before = after := by
  change (Except.ok (before, before) : Except ε (σ × σ)) = .ok (value, after) ↔ _
  rw [Except.ok.injEq, Prod.mk.injEq]

@[simp] theorem runs_set {state : σ} {value : PUnit} :
    Runs (ε := ε) (set state) before value after ↔ state = after := by
  unfold Runs
  exact ⟨fun h => congrArg Prod.snd (Except.ok.inj h), fun h => by rw [← h]; rfl⟩

theorem Runs.set (state : σ) : Runs (ε := ε) (set state) before PUnit.unit state := rfl

@[simp] theorem runs_modify {g : σ → σ} {value : PUnit} :
    Runs (ε := ε) (modify g) before value after ↔ g before = after := by
  unfold Runs
  exact ⟨fun h => congrArg Prod.snd (Except.ok.inj h), fun h => by rw [← h]; rfl⟩

theorem Runs.modify (g : σ → σ) :
    Runs (ε := ε) (modify g) before PUnit.unit (g before) := rfl

@[simp] theorem runs_rejectIf {c : Prop} [Decidable c] {value : Unit} :
    Runs (StateT.rejectIf c error) before value after ↔ ¬ c ∧ before = after := by
  unfold StateT.rejectIf
  split <;> simp [*]

/-- A passed check is transparent. -/
theorem Runs.passed {c : Prop} [Decidable c] (h : ¬ c) :
    Runs (StateT.rejectIf c error) before () before :=
  runs_rejectIf.2 ⟨h, rfl⟩

@[simp] theorem runs_require {value : Option α} :
    Runs (StateT.require value error) before a after ↔ value = some a ∧ before = after := by
  cases value <;> simp [StateT.require]

theorem runs_ite {c : Prop} [Decidable c] {y : StateT σ (Except ε) α} :
    Runs (if c then x else y) before a after ↔
      (c ∧ Runs x before a after) ∨ (¬ c ∧ Runs y before a after) := by
  split <;> simp [*]

end Rules
