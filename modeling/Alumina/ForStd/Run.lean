import Mathlib

/-!
# Runs of a labelled step relation

A `Run` is a finite sequence of steps, each carrying an event. The event list is the
history of the run, so a statement about what happened earlier is a statement about a
prefix of that list.

## Key results

- `Run.invariant`: what every step preserves holds at the end of a run
- `Run.along_history`: the same for a property of the state and of the history so far
- `Run.settled_between`: a step that needs an idle state comes after whatever freed it
- `Run.of_append`: a run splits at any point of its history
- `Run.last_entry`: a predicate that holds at the end and not at the start was entered
  by a step and has held ever since
-/

/-- `Run step s es t`: the events `es` lead from `s` to `t`. -/
inductive Run {σ ε : Type*} (step : σ → ε → σ → Prop) : σ → List ε → σ → Prop
  | nil (s : σ) : Run step s [] s
  | cons {s t u : σ} {e : ε} {es : List ε} (head : step s e t) (tail : Run step t es u) :
      Run step s (e :: es) u

namespace Run

variable {σ ε : Type*} {step : σ → ε → σ → Prop} {s t u : σ} {e : ε} {es fs : List ε}

@[simp] theorem nil_iff : Run step s [] t ↔ s = t := by
  constructor
  · intro h
    cases h
    rfl
  · rintro rfl
    exact .nil s

@[simp] theorem cons_iff : Run step s (e :: es) u ↔ ∃ t, step s e t ∧ Run step t es u := by
  constructor
  · intro h
    cases h with
    | cons head tail => exact ⟨_, head, tail⟩
  · rintro ⟨t, head, tail⟩
    exact .cons head tail

theorem append (h : Run step s es t) (h' : Run step t fs u) : Run step s (es ++ fs) u := by
  induction h with
  | nil s => exact h'
  | cons head tail ih => exact .cons head (ih h')

theorem snoc (h : Run step s es t) (last : step t e u) : Run step s (es ++ [e]) u :=
  h.append (.cons last (.nil u))

/-- A run splits at any point of its history. -/
theorem of_append (h : Run step s (es ++ fs) u) : ∃ t, Run step s es t ∧ Run step t fs u := by
  induction es generalizing s with
  | nil => exact ⟨s, .nil s, h⟩
  | cons e es ih =>
    rw [List.cons_append, cons_iff] at h
    obtain ⟨r, head, tail⟩ := h
    obtain ⟨t, first, second⟩ := ih tail
    exact ⟨t, .cons head first, second⟩

/-- The last step of a run and the run before it. -/
theorem of_snoc (h : Run step s (es ++ [e]) u) : ∃ t, Run step s es t ∧ step t e u := by
  obtain ⟨t, first, second⟩ := h.of_append
  rw [cons_iff] at second
  obtain ⟨v, last, rest⟩ := second
  rw [nil_iff] at rest
  exact ⟨t, first, rest ▸ last⟩

/-- What every step preserves holds at the end of a run. -/
theorem invariant {p : σ → Prop} (hstep : ∀ s e t, step s e t → p s → p t)
    (h : Run step s es t) (hs : p s) : p t := by
  induction h with
  | nil s => exact hs
  | cons head tail ih => exact ih (hstep _ _ _ head hs)

/-- What every step preserves of the history and the state holds of the whole history. -/
theorem along_history {p : List ε → σ → Prop}
    (hstep : ∀ past s e t, step s e t → p past s → p (past ++ [e]) t) (h : Run step s es t)
    {past : List ε} (hs : p past s) : p (past ++ es) t := by
  induction h generalizing past with
  | nil s => simpa using hs
  | cons head tail ih =>
    have hlater := ih (hstep _ _ _ _ head hs)
    rwa [List.append_assoc] at hlater

/-- A busy state stays busy until something settles. -/
private theorem busy_of_unsettled {busy : σ → Prop} {settles : ε → Prop}
    (hkeep : ∀ s e t, step s e t → busy s → ¬ settles e → busy t) (h : Run step s es t)
    (hbusy : busy s) (hnone : ∀ e ∈ es, ¬ settles e) : busy t := by
  induction h with
  | nil s => exact hbusy
  | cons head tail ih =>
    have hnext := hkeep _ _ _ head hbusy (hnone _ List.mem_cons_self)
    exact ih hnext fun e he => hnone e (List.mem_cons_of_mem _ he)

/-- An emission leaves the state busy and needs an idle one, so something settled the first
emission before the second. -/
theorem settled_between {busy : σ → Prop} {emits settles : ε → Prop}
    (hemit : ∀ s e t, step s e t → emits e → ¬ busy s ∧ busy t)
    (hkeep : ∀ s e t, step s e t → busy s → ¬ settles e → busy t) {first second : ε}
    {before between after : List ε}
    (h : Run step s (before ++ first :: (between ++ second :: after)) t)
    (hfirst : emits first) (hsecond : emits second) : ∃ e ∈ between, settles e := by
  obtain ⟨r, -, h⟩ := h.of_append
  obtain ⟨u, hr, h⟩ := cons_iff.1 h
  obtain ⟨v, hu, h⟩ := h.of_append
  obtain ⟨w, hv, -⟩ := cons_iff.1 h
  by_contra hnone
  have hquiet : ∀ e ∈ between, ¬ settles e := fun e he hsettles => hnone ⟨e, he, hsettles⟩
  have hbusy : busy v := busy_of_unsettled hkeep hu (hemit _ _ _ hr hfirst).2 hquiet
  exact (hemit _ _ _ hv hsecond).1 hbusy

theorem mono {step' : σ → ε → σ → Prop} (hstep : ∀ s e t, step s e t → step' s e t)
    (h : Run step s es t) : Run step' s es t := by
  induction h with
  | nil s => exact .nil s
  | cons head tail ih => exact .cons (hstep _ _ _ head) ih

/-- A run whose every step ends in `p`. -/
abbrev Staying (step : σ → ε → σ → Prop) (p : σ → Prop) : σ → List ε → σ → Prop :=
  Run fun a e b => step a e b ∧ p b

/-- The last step of a run into `p`, with the run before it and the run since. -/
structure Entry (step : σ → ε → σ → Prop) (p : σ → Prop) (s : σ) (es : List ε) (t : σ) where
  before : List ε
  event : ε
  since : List ε
  source : σ
  target : σ
  history : es = before ++ event :: since
  run_before : Run step s before source
  outside : ¬ p source
  entered : step source event target
  inside : p target
  run_since : Staying step p target since t

/-- An entry is still one with more history in front of it. -/
def Entry.push {p : σ → Prop} {r : σ} (head : step s e r) (h : Entry step p r es t) :
    Entry step p s (e :: es) t :=
  { h with
    before := e :: h.before
    history := congrArg (e :: ·) h.history
    run_before := .cons head h.run_before }

private theorem entry_of_staying {p : σ → Prop} (hs : ¬ p s) (ht : p t)
    (h : Staying step p s es t) : Nonempty (Entry step p s es t) := by
  cases h with
  | nil s => exact absurd ht hs
  | @cons _ r _ e es head tail =>
    exact ⟨⟨[], e, es, s, r, rfl, .nil s, hs, head.1, head.2, tail⟩⟩

/-- A predicate that holds at the end and not at the start was entered by a step and has
held ever since. -/
theorem last_entry {p : σ → Prop} (h : Run step s es t) (hs : ¬ p s) (ht : p t) :
    Nonempty (Entry step p s es t) := by
  suffices Staying step p s es t ∨ Nonempty (Entry step p s es t) by
    rcases this with hstay | hentry
    · exact entry_of_staying hs ht hstay
    · exact hentry
  clear hs
  induction h with
  | nil s => exact Or.inl (.nil s)
  | @cons s r t e es head tail ih =>
    rcases ih ht with hstay | hlater
    · by_cases hr : p r
      · exact Or.inl (.cons ⟨head, hr⟩ hstay)
      · obtain ⟨hfirst⟩ := entry_of_staying hr ht hstay
        exact Or.inr ⟨hfirst.push head⟩
    · obtain ⟨hlater⟩ := hlater
      exact Or.inr ⟨hlater.push head⟩

/-! ## Progress -/

/-! ## Machines that are called -/

variable {κ ω : Type*}

/-- The step relation of a machine whose calls return an outcome and a next state. The
event is the call with its outcome. -/
def Calls (perform : σ → κ → σ × ω) (s : σ) (e : κ × ω) (t : σ) : Prop :=
  perform s e.1 = (t, e.2)

/-- Perform a list of calls, keeping each with its outcome. -/
def execute (perform : σ → κ → σ × ω) : σ → List κ → σ × List (κ × ω)
  | s, [] => (s, [])
  | s, call :: calls =>
    let (t, outcome) := perform s call
    let (u, events) := execute perform t calls
    (u, (call, outcome) :: events)

/-- Folding a total step function over a list of events is a run. -/
theorem run_foldl (f : σ → ε → σ) (s : σ) (es : List ε) :
    Run (fun a e b => b = f a e) s es (es.foldl f s) := by
  induction es generalizing s with
  | nil => exact .nil s
  | cons e es ih => exact .cons rfl (ih _)

/-- Performing a list of calls is a run. -/
theorem run_execute (perform : σ → κ → σ × ω) (s : σ) (calls : List κ) :
    Run (Calls perform) s (execute perform s calls).2 (execute perform s calls).1 := by
  induction calls generalizing s with
  | nil => exact .nil s
  | cons call calls ih => exact .cons rfl (ih _)

/-- The events of performing calls are those calls. -/
theorem calls_of_execute (perform : σ → κ → σ × ω) (s : σ) (calls : List κ) :
    (execute perform s calls).2.map Prod.fst = calls := by
  induction calls generalizing s with
  | nil => rfl
  | cons call calls ih => rw [execute, List.map_cons, ih]

/-- A run of a machine that is called is what performing its calls computes. -/
theorem execute_of_run {perform : σ → κ → σ × ω} {events : List (κ × ω)}
    (h : Run (Calls perform) s events t) :
    execute perform s (events.map Prod.fst) = (t, events) := by
  induction h with
  | nil s => rfl
  | @cons a b c event events head tail ih =>
    have hhead : perform a event.1 = (b, event.2) := head
    rw [List.map_cons, execute, hhead]
    simp only [ih]

/-- Every call of a list meets a condition on the state it is made in. -/
def Along (perform : σ → κ → σ × ω) (p : σ → κ → Prop) : σ → List κ → Prop
  | _, [] => True
  | s, call :: calls => p s call ∧ Along perform p (perform s call).1 calls

instance decidableAlong (perform : σ → κ → σ × ω) (p : σ → κ → Prop)
    [∀ s call, Decidable (p s call)] : ∀ s calls, Decidable (Along perform p s calls)
  | _, [] => .isTrue trivial
  | s, call :: calls =>
    have := decidableAlong perform p (perform s call).1 calls
    inferInstanceAs (Decidable (_ ∧ _))

/-- Performing calls that all meet a condition is a run of such steps. -/
theorem run_execute_along {perform : σ → κ → σ × ω} {p : σ → κ → Prop} {s : σ} {calls : List κ}
    (h : Along perform p s calls) :
    Run (fun a e b => Calls perform a e b ∧ p a e.1) s (execute perform s calls).2
      (execute perform s calls).1 := by
  induction calls generalizing s with
  | nil => exact .nil s
  | cons call calls ih => exact .cons ⟨rfl, h.1⟩ (ih h.2)

end Run
