import Alumina.ForStd.Except

/-!
# Worklists

Repeated passes over a list of pending items. An attempt at an item either changes the
state or defers the item to the next pass; a pass that defers every item is stuck.

Key results:
- `steps_of_solve`: a solved worklist has attempted every item once, in some order
- `solve_of_progress`: a worklist whose pending items always include one that is ready is solved
-/

namespace Worklist

variable {α σ ε : Type}

section Runs

variable (attempt : σ → α → Except ε (Option σ)) (stuck : α → ε)

/-- Attempt every item once, in order, and return the deferred ones. -/
def pass : List α → σ → Except ε (List α × σ)
  | [], state => .ok ([], state)
  | item :: items, state => do
    match ← attempt state item with
    | some state => pass items state
    | none =>
      let (deferred, state) ← pass items state
      return (item :: deferred, state)

/-- Make passes until nothing is deferred. -/
def run : Nat → List α → σ → Except ε σ
  | _, [], state => .ok state
  | 0, item :: _, _ => .error (stuck item)
  | passes + 1, item :: items, state => do
    let (deferred, state) ← pass attempt (item :: items) state
    Except.failIf (deferred.length = (item :: items).length) (stuck item)
    run passes deferred state

/-- Every pass but the last shortens the list, so there are no more passes than items. -/
def solve (items : List α) (state : σ) : Except ε σ := run attempt stuck items.length items state

/-- The state after successful attempts at a list of items, in order. -/
inductive Steps : σ → List α → σ → Prop
  | nil {state : σ} : Steps state [] state
  | cons {state next final : σ} {item : α} {items : List α}
      (hattempt : attempt state item = .ok (some next)) (hrest : Steps next items final) :
      Steps state (item :: items) final

end Runs

variable {attempt : σ → α → Except ε (Option σ)} {stuck : α → ε}

theorem Steps.append {first middle last : σ} {xs ys : List α}
    (hx : Steps attempt first xs middle) (hy : Steps attempt middle ys last) :
    Steps attempt first (xs ++ ys) last := by
  induction hx with
  | nil => exact hy
  | cons hattempt _ ih => exact .cons hattempt (ih hy)

/-- A state property that attempts keep holds after any number of them. -/
theorem Steps.invariant {P : σ → Prop}
    (hstep : ∀ state item next, P state → attempt state item = .ok (some next) → P next)
    {first last : σ} {items : List α} (h : Steps attempt first items last) (hfirst : P first) :
    P last := by
  induction h with
  | nil => exact hfirst
  | cons hattempt _ ih => exact ih (hstep _ _ _ hfirst hattempt)

/-! ## Solved worklists -/

/-- A pass splits its items into those it attempted and those it deferred. -/
theorem steps_of_pass {items deferred : List α} {state next : σ}
    (h : pass attempt items state = .ok (deferred, next)) :
    ∃ done, Steps attempt state done next ∧ (done ++ deferred).Perm items := by
  induction items generalizing state deferred with
  | nil =>
    simp only [pass, Except.ok.injEq, Prod.mk.injEq] at h
    obtain ⟨rfl, rfl⟩ := h
    exact ⟨[], .nil, .nil⟩
  | cons item items ih =>
    rw [pass, Except.bind_eq_ok] at h
    obtain ⟨result, hattempt, h⟩ := h
    cases result with
    | some middle =>
      obtain ⟨done, hsteps, hperm⟩ := ih h
      exact ⟨item :: done, .cons hattempt hsteps, hperm.cons item⟩
    | none =>
      simp only [Except.bind_eq_ok, Except.pure_eq_ok, Prod.mk.injEq] at h
      obtain ⟨⟨rest, last⟩, hpass, rfl, rfl⟩ := h
      obtain ⟨done, hsteps, hperm⟩ := ih hpass
      exact ⟨done, hsteps, List.perm_middle.trans (hperm.cons item)⟩

theorem steps_of_run {passes : Nat} {items : List α} {state final : σ}
    (h : run attempt stuck passes items state = .ok final) :
    ∃ order, order.Perm items ∧ Steps attempt state order final := by
  induction passes generalizing items state with
  | zero =>
    cases items with
    | nil =>
      obtain rfl : state = final := by simpa [run] using h
      exact ⟨[], .nil, .nil⟩
    | cons item items => cases h
  | succ passes ih =>
    cases items with
    | nil =>
      obtain rfl : state = final := by simpa [run] using h
      exact ⟨[], .nil, .nil⟩
    | cons item items =>
      simp only [run, Except.bind_eq_ok, Except.exists_unit] at h
      obtain ⟨⟨deferred, next⟩, hpass, -, hrun⟩ := h
      obtain ⟨done, hsteps, hperm⟩ := steps_of_pass hpass
      obtain ⟨order, horder, hrest⟩ := ih hrun
      exact ⟨done ++ order, (horder.append_left done).trans hperm, hsteps.append hrest⟩

/-- A solved worklist has attempted every item exactly once. -/
theorem steps_of_solve {items : List α} {state final : σ}
    (h : solve attempt stuck items state = .ok final) :
    ∃ order, order.Perm items ∧ Steps attempt state order final :=
  steps_of_run h

/-! ## Progress -/

/-- A pass that defers every item has not changed the state. -/
theorem eq_of_pass_stuck {items deferred : List α} {state next : σ}
    (h : pass attempt items state = .ok (deferred, next))
    (hlength : deferred.length = items.length) :
    ∀ item ∈ items, attempt state item = .ok none := by
  induction items generalizing state deferred with
  | nil => simp
  | cons item items ih =>
    rw [pass, Except.bind_eq_ok] at h
    obtain ⟨result, hattempt, h⟩ := h
    cases result with
    | some middle =>
      obtain ⟨done, -, hperm⟩ := steps_of_pass h
      have hcount := hperm.length_eq
      rw [List.length_append] at hcount
      rw [List.length_cons] at hlength
      omega
    | none =>
      simp only [Except.bind_eq_ok, Except.pure_eq_ok, Prod.mk.injEq] at h
      obtain ⟨⟨rest, last⟩, hpass, rfl, rfl⟩ := h
      intro other hother
      rcases List.mem_cons.mp hother with rfl | hother
      · exact hattempt
      · exact ih hpass (by simpa using hlength) other hother

section Progress

variable {items : List α} {first : σ}
  (hok : ∀ done pending state, Steps attempt first done state → (done ++ pending).Perm items →
    ∀ item ∈ pending, ∃ result, attempt state item = .ok result)
  (hready : ∀ done pending state, Steps attempt first done state → (done ++ pending).Perm items →
    pending ≠ [] → ∃ item ∈ pending, attempt state item ≠ .ok none)

include hok in
private theorem pass_isOk {done : List α} (kept : List α) {pending : List α} {state : σ}
    (hsteps : Steps attempt first done state) (hperm : (done ++ (kept ++ pending)).Perm items) :
    ∃ result, pass attempt pending state = .ok result := by
  induction pending generalizing done state kept with
  | nil => exact ⟨_, rfl⟩
  | cons item pending ih =>
    obtain ⟨result, hattempt⟩ := hok done (kept ++ item :: pending) state hsteps hperm item
      (by simp)
    rw [pass, Except.bind_of_ok hattempt]
    cases result with
    | some next =>
      refine ih kept (hsteps.append (.cons hattempt .nil)) (.trans ?_ hperm)
      have hmiddle : (item :: (kept ++ pending)).Perm (kept ++ item :: pending) :=
        List.perm_middle.symm
      rw [List.append_assoc]
      exact hmiddle.append_left done
    | none =>
      have hperm' : (done ++ ((kept ++ [item]) ++ pending)).Perm items := by simpa using hperm
      obtain ⟨⟨deferred, next⟩, hpass⟩ := ih (kept ++ [item]) hsteps hperm'
      exact ⟨(item :: deferred, next), by simp [hpass]⟩

include hok hready in
private theorem run_of_progress {passes : Nat} {done pending : List α} {state : σ}
    (hsteps : Steps attempt first done state) (hperm : (done ++ pending).Perm items)
    (hpasses : pending.length ≤ passes) :
    ∃ final, run attempt stuck passes pending state = .ok final := by
  induction passes generalizing done pending state with
  | zero =>
    obtain rfl : pending = [] := List.length_eq_zero_iff.mp (by omega)
    exact ⟨state, rfl⟩
  | succ passes ih =>
    cases pending with
    | nil => exact ⟨state, rfl⟩
    | cons item pending =>
      obtain ⟨⟨deferred, next⟩, hpass⟩ := pass_isOk hok [] hsteps hperm
      obtain ⟨more, hmore, hsplit⟩ := steps_of_pass hpass
      -- a pass that defers everything contradicts the item that was ready
      have hprogress : deferred.length ≠ (item :: pending).length := by
        intro hlength
        obtain ⟨ready, hmem, hne⟩ := hready done (item :: pending) state hsteps hperm (by simp)
        exact hne (eq_of_pass_stuck hpass hlength ready hmem)
      have hcount := hsplit.length_eq
      rw [List.length_append] at hcount
      have hperm' : ((done ++ more) ++ deferred).Perm items := by
        rw [List.append_assoc]
        exact (hsplit.append_left done).trans hperm
      obtain ⟨final, hfinal⟩ := ih (hsteps.append hmore) hperm' (by omega)
      refine ⟨final, ?_⟩
      rw [run, Except.bind_of_ok hpass]
      dsimp only
      rw [Except.bind_of_ok (Except.failIf_of_not hprogress), hfinal]

include hok hready in
/-- A worklist is solved when no attempt is rejected and some pending item is always ready. -/
theorem solve_of_progress : ∃ final, solve attempt stuck items first = .ok final :=
  run_of_progress hok hready .nil .rfl le_rfl

end Progress

end Worklist
