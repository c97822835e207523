import Mathlib

/-!
# Greedy splitting of an interval

An interval of naturals is split into consecutive pieces that all satisfy a property. When the
property passes to shorter pieces from either side, taking the largest piece each time splits with
the fewest pieces: after every piece the greedy split is at least as far as any other one.

## Key results

- `Split.le`: a split only moves forward
- `Greedy.length_le`: no split has fewer pieces than the greedy one
- `Greedy.length_le_groups`: no way to group a list has fewer groups than the greedy one
-/

/-- `Split piece stop start ends`: the pieces that end at `ends`, one after the other, lead from
`start` to `stop`. -/
inductive Split (piece : Nat → Nat → Prop) (stop : Nat) : Nat → List Nat → Prop
  | nil : Split piece stop stop []
  | cons {start next : Nat} {ends : List Nat} (forward : start < next) (head : piece start next)
      (tail : Split piece stop next ends) : Split piece stop start (next :: ends)

/-- A split whose every piece is as long as it can be. -/
inductive Greedy (piece : Nat → Nat → Prop) (stop : Nat) : Nat → List Nat → Prop
  | nil : Greedy piece stop stop []
  | cons {start next : Nat} {ends : List Nat} (forward : start < next) (head : piece start next)
      (largest : ∀ other, other ≤ stop → piece start other → other ≤ next)
      (tail : Greedy piece stop next ends) : Greedy piece stop start (next :: ends)

variable {piece : Nat → Nat → Prop} {stop start : Nat} {ends others : List Nat}

theorem Split.le (h : Split piece stop start ends) : start ≤ stop := by
  induction h with
  | nil => exact le_refl _
  | cons forward _ _ ih => exact forward.le.trans ih

theorem Greedy.split (h : Greedy piece stop start ends) : Split piece stop start ends := by
  induction h with
  | nil => exact .nil
  | cons forward head _ _ ih => exact .cons forward head ih

/-- A greedy split that starts no earlier than another one has no more pieces. -/
theorem Greedy.length_le_of_le
    (hsuffix : ∀ {a b c : Nat}, piece a c → a ≤ b → b < c → piece b c) {other : Nat}
    (hother : Split piece stop other others) (hle : other ≤ start)
    (h : Greedy piece stop start ends) : ends.length ≤ others.length := by
  induction hother generalizing start ends with
  | nil =>
    cases h with
    | nil => exact le_refl _
    | cons forward _ _ tail =>
      have hstop := tail.split.le
      omega
  | @cons other next others forward head tail ih =>
    by_cases hnext : next ≤ start
    · have hlength := ih hnext h
      rw [List.length_cons]
      omega
    · cases h with
      | nil => exact Nat.zero_le _
      | @cons _ reached ends _ _ largest rest =>
        -- the other split's piece, cut on the left, is one the greedy split could have taken
        have hpiece := hsuffix head hle (not_le.1 hnext)
        have hlength := ih (largest next tail.le hpiece) rest
        rw [List.length_cons, List.length_cons]
        omega

/-- No split of an interval has fewer pieces than the greedy one. -/
theorem Greedy.length_le
    (hsuffix : ∀ {a b c : Nat}, piece a c → a ≤ b → b < c → piece b c)
    (h : Greedy piece stop start ends) (hother : Split piece stop start others) :
    ends.length ≤ others.length :=
  h.length_le_of_le hsuffix hother (le_refl _)

/-! ## Groups of a list -/

section Groups

variable {α : Type*} {l : List α} {good : List α → Prop} {groups : List (List α)}

/-- The groups into which a list falls at some places. -/
def groupsAt (l : List α) : Nat → List Nat → List (List α)
  | _, [] => []
  | start, next :: ends => l.extract start next :: groupsAt l next ends

theorem length_groupsAt (l : List α) (start : Nat) (ends : List Nat) :
    (groupsAt l start ends).length = ends.length := by
  induction ends generalizing start with
  | nil => rfl
  | cons next ends ih => simp [groupsAt, ih]

theorem Split.flatten_groupsAt (h : Split piece l.length start ends) :
    (groupsAt l start ends).flatten = l.drop start := by
  generalize hstop : l.length = stop at h
  induction h with
  | nil =>
    subst hstop
    simp [groupsAt]
  | @cons start next ends forward _ _ ih =>
    have hnext : l.drop next = (l.drop start).drop (next - start) := by
      rw [List.drop_drop]
      congr 1
      omega
    simp only [groupsAt, List.flatten_cons, ih, List.extract_eq_take_drop]
    rw [hnext, List.take_append_drop]

theorem Split.forall_groupsAt (h : Split (fun start next => good (l.extract start next)) stop start
    ends) : ∀ group ∈ groupsAt l start ends, good group := by
  induction h with
  | nil =>
    intro group hgroup
    cases hgroup
  | cons _ head _ ih =>
    intro group hgroup
    obtain rfl | hgroup := List.mem_cons.mp hgroup
    · exact head
    · exact ih group hgroup

theorem Split.forall_groupsAt_ne_nil (h : Split piece l.length start ends) :
    ∀ group ∈ groupsAt l start ends, group ≠ [] := by
  generalize hstop : l.length = stop at h
  induction h with
  | nil =>
    intro group hgroup
    cases hgroup
  | cons forward _ tail ih =>
    intro group hgroup
    obtain rfl | hgroup := List.mem_cons.mp hgroup
    · have hle := tail.le
      rw [List.extract_eq_take_drop, Ne, ← List.length_eq_zero_iff, List.length_take,
        List.length_drop]
      omega
    · exact ih group hgroup

/-- The places at which the groups end. -/
def endsOf : Nat → List (List α) → List Nat
  | _, [] => []
  | start, group :: groups => (start + group.length) :: endsOf (start + group.length) groups

theorem length_endsOf (start : Nat) (groups : List (List α)) :
    (endsOf start groups).length = groups.length := by
  induction groups generalizing start with
  | nil => rfl
  | cons group groups ih => simp [endsOf, ih]

/-- Good groups of a list are a split. -/
theorem split_endsOf (hflatten : groups.flatten = l.drop start) (hstart : start ≤ l.length)
    (hgroups : ∀ group ∈ groups, group ≠ [] ∧ good group) :
    Split (fun start next => good (l.extract start next)) l.length start (endsOf start groups) := by
  induction groups generalizing start with
  | nil =>
    have hstop : start = l.length := by
      rw [List.flatten_nil, eq_comm, List.drop_eq_nil_iff] at hflatten
      omega
    rw [endsOf, hstop]
    exact .nil
  | cons group groups ih =>
    obtain ⟨hnonempty, hgood⟩ := hgroups group List.mem_cons_self
    rw [List.flatten_cons] at hflatten
    have hlength : group.length + groups.flatten.length = l.length - start := by
      rw [← List.length_append, hflatten, List.length_drop]
    have hgroup : l.extract start (start + group.length) = group := by
      rw [List.extract_eq_take_drop, Nat.add_sub_cancel_left, ← hflatten, List.take_left]
    have hrest : groups.flatten = l.drop (start + group.length) := by
      rw [← List.drop_drop, ← hflatten, List.drop_left]
    have hpos := List.length_pos_iff.mpr hnonempty
    refine .cons (by omega) ?_ (ih hrest (by omega) fun other hother =>
      hgroups other (List.mem_cons_of_mem _ hother))
    rw [hgroup]
    exact hgood

/-- No way to group a list has fewer groups than the greedy one. -/
theorem Greedy.length_le_groups
    (hsuffix : ∀ {a b c : Nat}, good (l.extract a c) → a ≤ b → b < c → good (l.extract b c))
    (h : Greedy (fun start next => good (l.extract start next)) l.length 0 ends)
    (hflatten : groups.flatten = l) (hgroups : ∀ group ∈ groups, group ≠ [] ∧ good group) :
    ends.length ≤ groups.length := by
  rw [← length_endsOf 0 groups]
  exact h.length_le hsuffix (split_endsOf hflatten (Nat.zero_le _) hgroups)

end Groups
