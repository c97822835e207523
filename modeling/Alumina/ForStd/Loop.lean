import Alumina.ForStd.Except

/-!
# Loops that end

A `while` loop whose body may fail, with a measure that every successful pass lowers. The two rules
speak of what a loop ends in: an invariant of the passes holds at the end, together with the negated
condition, or at the pass that failed. Bisection between two bounds is such a loop.

## Key results

- `Except.loop_eq_ok`, `Except.loop_eq_error`: the rules of a loop
- `Except.wellFounded_pass`: no run takes infinitely many passes
- `Bisection.bisect_eq_ok`, `Bisection.bisect_eq_error`: bisection ends at an accepted number
  before a refused one
-/

namespace Except

section Loop

variable {ε σ : Type} {measure : σ → Nat} {condition : σ → Prop} [DecidablePred condition]
  {body : σ → Except ε σ}

/-- Repeat the body while the condition holds. -/
def loop (measure : σ → Nat) (condition : σ → Prop) [DecidablePred condition]
    (body : σ → Except ε σ)
    (decreases : ∀ s s', condition s → body s = .ok s' → measure s' < measure s) (s : σ) :
    Except ε σ :=
  if _ : condition s then
    match _ : body s with
    | .ok s' => loop measure condition body decreases s'
    | .error e => .error e
  else .ok s
termination_by measure s
decreasing_by exact decreases s s' ‹_› ‹_›

variable {decreases : ∀ s s', condition s → body s = .ok s' → measure s' < measure s}

theorem loop_of_not {s : σ} (h : ¬ condition s) :
    loop measure condition body decreases s = .ok s := by
  rw [loop, dif_neg h]

theorem loop_of_ok {s s' : σ} (h : condition s) (hbody : body s = .ok s') :
    loop measure condition body decreases s = loop measure condition body decreases s' := by
  rw [loop, dif_pos h]
  split
  · next hfound =>
    rw [hbody] at hfound
    cases hfound
    rfl
  · next hfound =>
    rw [hbody] at hfound
    cases hfound

theorem loop_of_error {s : σ} {e : ε} (h : condition s) (hbody : body s = .error e) :
    loop measure condition body decreases s = .error e := by
  rw [loop, dif_pos h]
  split
  · next hfound =>
    rw [hbody] at hfound
    cases hfound
  · next hfound =>
    rw [hbody] at hfound
    cases hfound
    rfl

variable (decreases) in
/-- A loop that ends has an outcome: it stopped at a state where the condition fails, or at a pass
that failed, and an invariant of the passes holds there. -/
theorem loop_outcome {P : σ → Prop} (hpass : ∀ s s', P s → condition s → body s = .ok s' → P s')
    {s : σ} (hs : P s) :
    (∃ s', loop measure condition body decreases s = .ok s' ∧ P s' ∧ ¬ condition s') ∨
      ∃ s' e, loop measure condition body decreases s = .error e ∧ P s' ∧ condition s' ∧
        body s' = .error e := by
  -- strong induction on the measure of the state
  induction hmeasure : measure s using Nat.strong_induction_on generalizing s with
  | _ n ih =>
    by_cases hcondition : condition s
    · cases hbody : body s with
      | error e => exact .inr ⟨s, e, loop_of_error hcondition hbody, hs, hcondition, hbody⟩
      | ok s' =>
        rw [loop_of_ok hcondition hbody]
        have hlower : measure s' < n := hmeasure ▸ decreases s s' hcondition hbody
        exact ih _ hlower (hpass s s' hs hcondition hbody) rfl
    · exact .inl ⟨s, loop_of_not hcondition, hs, hcondition⟩

/-- A loop that succeeds ends where its condition fails, and keeps what its passes keep. -/
theorem loop_eq_ok {P : σ → Prop} (hpass : ∀ s s', P s → condition s → body s = .ok s' → P s')
    {s s' : σ} (hs : P s) (h : loop measure condition body decreases s = .ok s') :
    P s' ∧ ¬ condition s' := by
  rcases loop_outcome decreases hpass hs with hok | herror
  · obtain ⟨found, hfound, hend⟩ := hok
    rw [h] at hfound
    cases hfound
    exact hend
  · obtain ⟨_, e, hfound, -⟩ := herror
    rw [h] at hfound
    cases hfound

/-- A loop that fails does so at a pass, and its passes kept their invariant until then. -/
theorem loop_eq_error {P : σ → Prop}
    (hpass : ∀ s s', P s → condition s → body s = .ok s' → P s') {s : σ} {e : ε} (hs : P s)
    (h : loop measure condition body decreases s = .error e) :
    ∃ s', P s' ∧ condition s' ∧ body s' = .error e := by
  rcases loop_outcome decreases hpass hs with hok | herror
  · obtain ⟨found, hfound, -⟩ := hok
    rw [h] at hfound
    cases hfound
  · obtain ⟨s', _, hfound, hend⟩ := herror
    rw [h] at hfound
    cases hfound
    exact ⟨s', hend⟩

omit [DecidablePred condition] in
/-- When every pass lowers a measure, no run takes infinitely many. -/
theorem wellFounded_pass
    (hdecreases : ∀ s s', condition s → body s = .ok s' → measure s' < measure s) :
    WellFounded fun s' s => condition s ∧ body s = .ok s' := by
  apply Subrelation.wf _ (InvImage.wf measure Nat.lt_wfRel.wf)
  intro s' s h
  exact hdecreases s s' h.1 h.2

end Loop

end Except

/-! ## Bisection -/

namespace Bisection

variable {ε : Type}

/-- Move the bound that the middle replaces. -/
def narrow (test : Nat → Except ε Bool) (bounds : Nat × Nat) : Except ε (Nat × Nat) := do
  let middle := bounds.1 + (bounds.2 - bounds.1) / 2
  if ← test middle then pure (middle, bounds.2) else pure (bounds.1, middle)

variable {test : Nat → Except ε Bool}

theorem narrow_eq_ok {bounds bounds' : Nat × Nat} (h : narrow test bounds = .ok bounds')
    (hlt : bounds.1 + 1 < bounds.2) :
    ∃ middle, bounds.1 < middle ∧ middle < bounds.2 ∧
      (test middle = .ok true ∧ bounds' = (middle, bounds.2) ∨
        test middle = .ok false ∧ bounds' = (bounds.1, middle)) := by
  simp only [narrow, Except.bind_eq_ok] at h
  obtain ⟨accepted, htest, h⟩ := h
  refine ⟨bounds.1 + (bounds.2 - bounds.1) / 2, by omega, by omega, ?_⟩
  cases accepted with
  | true => exact .inl ⟨htest, (Except.ok.inj h).symm⟩
  | false => exact .inr ⟨htest, (Except.ok.inj h).symm⟩

theorem narrow_eq_error {bounds : Nat × Nat} {e : ε} (h : narrow test bounds = .error e)
    (hlt : bounds.1 + 1 < bounds.2) :
    ∃ middle, bounds.1 < middle ∧ middle < bounds.2 ∧ test middle = .error e := by
  simp only [narrow, Except.bind_eq_error] at h
  refine ⟨bounds.1 + (bounds.2 - bounds.1) / 2, by omega, by omega, ?_⟩
  rcases h with h | ⟨accepted, -, h⟩
  · exact h
  · cases accepted <;> cases h

/-- Narrow two bounds to neighbours, in as many halvings as it takes. -/
def bisect (test : Nat → Except ε Bool) (valid invalid : Nat) : Except ε Nat :=
  Prod.fst <$> Except.loop (fun bounds => bounds.2 - bounds.1)
    (fun bounds => bounds.1 + 1 < bounds.2) (narrow test)
    (fun bounds bounds' hlt h => by
      obtain ⟨middle, hlow, hhigh, ⟨-, rfl⟩ | ⟨-, rfl⟩⟩ := narrow_eq_ok h hlt
      · show bounds.2 - middle < bounds.2 - bounds.1
        omega
      · show middle - bounds.1 < bounds.2 - bounds.1
        omega)
    (valid, invalid)

/-- The bounds of a bisection: the lower one is accepted and the upper one refused, within the
bounds of the start. -/
private structure Bracketed (test : Nat → Except ε Bool) (start bounds : Nat × Nat) : Prop where
  low : start.1 ≤ bounds.1
  lt : bounds.1 < bounds.2
  high : bounds.2 ≤ start.2
  accepted : test bounds.1 = .ok true
  refused : test bounds.2 = .ok false

private theorem Bracketed.narrowed {start bounds bounds' : Nat × Nat}
    (h : Bracketed test start bounds) (hlt : bounds.1 + 1 < bounds.2)
    (hnarrow : narrow test bounds = .ok bounds') : Bracketed test start bounds' := by
  have hlow := h.low
  have hhigh := h.high
  obtain ⟨middle, hmin, hmax, ⟨htest, rfl⟩ | ⟨htest, rfl⟩⟩ := narrow_eq_ok hnarrow hlt
  · exact ⟨by show start.1 ≤ middle; omega, hmax, hhigh, htest, h.refused⟩
  · exact ⟨hlow, hmin, by show middle ≤ start.2; omega, h.accepted, htest⟩

variable {valid invalid : Nat}

/-- Bisection between an accepted and a refused number ends at an accepted one before a refused
one. -/
theorem bisect_eq_ok {found : Nat} (h : bisect test valid invalid = .ok found)
    (hlt : valid < invalid) (haccepted : test valid = .ok true)
    (hrefused : test invalid = .ok false) :
    valid ≤ found ∧ found < invalid ∧ test found = .ok true ∧ test (found + 1) = .ok false := by
  rw [bisect, Except.map_eq_ok] at h
  obtain ⟨bounds, hloop, rfl⟩ := h
  obtain ⟨hbracketed, hend⟩ := Except.loop_eq_ok
    (P := Bracketed test (valid, invalid)) (fun _ _ hs hlt hpass => hs.narrowed hlt hpass)
    ⟨le_rfl, hlt, le_rfl, haccepted, hrefused⟩ hloop
  have hadjacent : bounds.2 = bounds.1 + 1 := by
    have := hbracketed.lt
    omega
  have hlow := hbracketed.low
  have hhigh := hbracketed.high
  refine ⟨hlow, ?_, hbracketed.accepted, hadjacent ▸ hbracketed.refused⟩
  show bounds.1 < (valid, invalid).2
  omega

/-- Bisection fails at a number between its bounds. -/
theorem bisect_eq_error {e : ε} (h : bisect test valid invalid = .error e)
    (hlt : valid < invalid) (haccepted : test valid = .ok true)
    (hrefused : test invalid = .ok false) :
    ∃ middle, valid < middle ∧ middle < invalid ∧ test middle = .error e := by
  rw [bisect, Except.map_eq_error] at h
  obtain ⟨bounds, hbracketed, hcondition, hfail⟩ := Except.loop_eq_error
    (P := Bracketed test (valid, invalid)) (fun _ _ hs hlt hpass => hs.narrowed hlt hpass)
    ⟨le_rfl, hlt, le_rfl, haccepted, hrefused⟩ h
  obtain ⟨middle, hlow, hhigh, htest⟩ := narrow_eq_error hfail hcondition
  have hfirst : valid ≤ bounds.1 := hbracketed.low
  have hlast : bounds.2 ≤ invalid := hbracketed.high
  exact ⟨middle, by omega, by omega, htest⟩

end Bisection
