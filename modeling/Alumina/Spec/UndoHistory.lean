import Alumina.ForStd.Run
import Alumina.Graph.SnapshotHistory

/-!
# Undo history: bounded, accounted, and how far reversible

Every eviction loop keeps a suffix of its stack and lowers the counter by what it dropped, so from an
exact counter the unchecked subtractions cannot underflow. What an operation pushes is the newest
entry of its stack. On the redo side it stays, since it alone fits the budget. On the undo side the
byte loop comes first, so it stays exactly when it fits together with the redo entries that remain.

Key results:
- `evictWhile_spec`: one eviction loop
- `SnapshotHistory.enforceLimits_spec`: the loops together
- `SnapshotHistory.undoHistory`: the laws of every sequence of operations
-/

namespace Alumina.Graph

open Except (failIf)

/-! ## One eviction loop -/

section Eviction

variable {ε : Type} {exceeds : Nat → Nat → Bool}

/-- Combined length of the snapshots of a stack. -/
def byteTotal (stack : List Snapshot) : Nat := (stack.map List.length).sum

@[simp] theorem byteTotal_nil : byteTotal [] = 0 := rfl

@[simp] theorem byteTotal_cons (snapshot : Snapshot) (stack : List Snapshot) :
    byteTotal (snapshot :: stack) = snapshot.length + byteTotal stack := by
  rw [byteTotal, List.map_cons, List.sum_cons, byteTotal]

@[simp] theorem byteTotal_append (left right : List Snapshot) :
    byteTotal (left ++ right) = byteTotal left + byteTotal right := by
  rw [byteTotal, List.map_append, List.sum_append, byteTotal, byteTotal]

/-- The newest snapshot is one part of the total. -/
theorem byteTotal_of_getLast {stack : List Snapshot} {last : Snapshot}
    (h : stack.getLast? = some last) :
    byteTotal stack = byteTotal stack.dropLast + last.length := by
  obtain ⟨rest, rfl⟩ := List.getLast?_eq_some_iff.1 h
  simp

/-- What is left of a stack ends in the same newest snapshot. -/
theorem getLast_of_suffix {kept stack : List Snapshot} (h : kept <:+ stack) (hne : kept ≠ []) :
    kept.getLast? = stack.getLast? := by
  obtain ⟨dropped, rfl⟩ := h
  rw [List.getLast?_append_of_ne_nil _ hne]

/-- A loop that starts within its bound does nothing. -/
theorem evictWhile_of_within {stack : List Snapshot} {retained : Nat}
    (h : exceeds stack.length retained = false) :
    evictWhile exceeds stack retained = (.ok (stack, retained) : Except (HistoryStop ε) _) := by
  cases stack with
  | nil => rfl
  | cons oldest stack => rw [evictWhile, if_neg (Bool.not_eq_true _ ▸ h)]

/-- A loop keeps a suffix and an exact counter. It empties the stack only when the newest snapshot
alone exceeds the bound. -/
theorem evictWhile_spec (exceeds : Nat → Nat → Bool) (stack : List Snapshot) (other : Nat) :
    ∃ kept, evictWhile exceeds stack (byteTotal stack + other) =
        (.ok (kept, byteTotal kept + other) : Except (HistoryStop ε) _) ∧
      kept <:+ stack ∧ (kept = [] ∨ exceeds kept.length (byteTotal kept + other) = false) ∧
      (kept = [] → ∀ last, stack.getLast? = some last →
        exceeds 1 (last.length + other) = true) := by
  induction stack with
  | nil => exact ⟨[], rfl, List.suffix_refl _, Or.inl rfl, by simp⟩
  | cons oldest stack ih =>
    by_cases hexceeds : exceeds (oldest :: stack).length (byteTotal (oldest :: stack) + other)
    · obtain ⟨kept, hloop, hsuffix, hstop, hempty⟩ := ih
      have hsub : Usize.checkedSub (byteTotal (oldest :: stack) + other) oldest.length =
          some (byteTotal stack + other) := by
        rw [byteTotal_cons, Usize.checkedSub, if_pos (by omega)]
        congr 1
        omega
      refine ⟨kept, ?_, hsuffix.trans (List.suffix_cons _ _), hstop, ?_⟩
      · rw [evictWhile, if_pos hexceeds, hsub]
        exact hloop
      · intro hkept last hlast
        cases stack with
        | nil =>
          obtain rfl : oldest = last := by simpa using hlast
          simpa using hexceeds
        | cons next stack => exact hempty hkept last (by simpa using hlast)
    · refine ⟨oldest :: stack, ?_, List.suffix_refl _, Or.inr (by simpa using hexceeds), by simp⟩
      rw [evictWhile, if_neg hexceeds]

/-- The loop of a count bound. -/
theorem evictExcess_spec (maximum : Nat) (stack : List Snapshot) (other : Nat) :
    ∃ kept, evictWhile (fun count _ => decide (count > maximum)) stack (byteTotal stack + other) =
        (.ok (kept, byteTotal kept + other) : Except (HistoryStop ε) _) ∧
      kept <:+ stack ∧ kept.length ≤ maximum ∧ (stack.length ≤ maximum → kept = stack) ∧
      (0 < maximum → kept = [] → stack = []) := by
  obtain ⟨kept, hloop, hsuffix, hstop, hempty⟩ :=
    evictWhile_spec (ε := ε) (fun count _ => decide (count > maximum)) stack other
  refine ⟨kept, hloop, hsuffix, ?_, ?_, ?_⟩
  · rcases hstop with rfl | hstop
    · exact Nat.zero_le _
    · simpa using hstop
  · intro hwithin
    have hnone : evictWhile (fun count _ => decide (count > maximum)) stack
        (byteTotal stack + other) = (.ok (stack, _) : Except (HistoryStop ε) _) :=
      evictWhile_of_within (by simpa using hwithin)
    rw [hloop] at hnone
    exact congrArg Prod.fst (Except.ok.inj hnone)
  · intro hmaximum hkept
    cases hlast : stack.getLast? with
    | none => exact List.getLast?_eq_none_iff.1 hlast
    | some last =>
      have hone := hempty hkept last hlast
      rw [decide_eq_true_eq] at hone
      omega

/-- The loop of the byte bound. -/
theorem evictOverBudget_spec (budget : Nat) (stack : List Snapshot) (other : Nat) :
    ∃ kept, evictWhile (fun _ retained => decide (retained > budget)) stack
        (byteTotal stack + other) =
          (.ok (kept, byteTotal kept + other) : Except (HistoryStop ε) _) ∧
      kept <:+ stack ∧ (kept = [] ∨ byteTotal kept + other ≤ budget) ∧
      (kept = [] → ∀ last, stack.getLast? = some last → budget < last.length + other) := by
  obtain ⟨kept, hloop, hsuffix, hstop, hempty⟩ :=
    evictWhile_spec (ε := ε) (fun _ retained => decide (retained > budget)) stack other
  refine ⟨kept, hloop, hsuffix, ?_, ?_⟩
  · simpa using hstop
  · intro hkept last hlast
    simpa using hempty hkept last hlast

end Eviction

namespace SnapshotHistory

variable [Usize] {Current Admission Replay ε : Type}

/-! ## All loops -/

/-- The counter is the total of all retained snapshots. -/
def Accounted (history : SnapshotHistory) : Prop :=
  history.retainedBytes = byteTotal history.undo + byteTotal history.redo

/-- Both stacks and the counter are within the policy. -/
structure Bounded (history : SnapshotHistory) : Prop where
  undo : history.undo.length ≤ history.limits.maximumSnapshotsPerDirection
  redo : history.redo.length ≤ history.limits.maximumSnapshotsPerDirection
  bytes : history.retainedBytes ≤ history.limits.maximumHistoryBytes

/-- What the loops leave of a history. -/
structure Settled (history settled : SnapshotHistory) : Prop where
  limits : settled.limits = history.limits
  accounted : settled.Accounted
  bounded : settled.Bounded
  undo : settled.undo <:+ history.undo
  redo : settled.redo <:+ history.redo
  /-- The redo side loses to the byte budget only once the undo side is empty. -/
  redo_eq : settled.undo ≠ [] →
    history.redo.length ≤ history.limits.maximumSnapshotsPerDirection → settled.redo = history.redo
  undo_empty : settled.undo = [] → 0 < history.limits.maximumSnapshotsPerDirection →
    history.redo.length ≤ history.limits.maximumSnapshotsPerDirection →
    ∀ last, history.undo.getLast? = some last →
      history.limits.maximumHistoryBytes < last.length + byteTotal history.redo
  redo_empty : settled.redo = [] → 0 < history.limits.maximumSnapshotsPerDirection →
    ∀ last, history.redo.getLast? = some last → history.limits.maximumHistoryBytes < last.length

theorem enforceLimits_spec {history : SnapshotHistory} (h : history.Accounted) :
    ∃ settled, history.enforceLimits = (.ok settled : Except (HistoryStop ε) SnapshotHistory) ∧
      Settled history settled := by
  rw [Accounted] at h
  -- the two count loops
  obtain ⟨undo, hundo, hundoSuffix, hundoCount, hundoSame, hundoEmpty⟩ := evictExcess_spec (ε := ε)
    history.limits.maximumSnapshotsPerDirection history.undo (byteTotal history.redo)
  obtain ⟨redo, hredo, hredoSuffix, hredoCount, hredoSame, hredoEmpty⟩ := evictExcess_spec (ε := ε)
    history.limits.maximumSnapshotsPerDirection history.redo (byteTotal undo)
  -- the byte loop, undo side first
  obtain ⟨kept, hkept, hkeptSuffix, hkeptStop, hkeptEmpty⟩ := evictOverBudget_spec (ε := ε)
    history.limits.maximumHistoryBytes undo (byteTotal redo)
  have hkeptUndo := hkeptSuffix.trans hundoSuffix
  have hkeptCount := hkeptSuffix.length_le.trans hundoCount
  rw [← h] at hundo
  rw [Nat.add_comm] at hredo
  rw [Nat.add_comm (byteTotal redo)] at hredo
  by_cases hnone : kept = []
  · obtain ⟨left, hleft, hleftSuffix, hleftStop, hleftEmpty⟩ := evictOverBudget_spec (ε := ε)
      history.limits.maximumHistoryBytes redo 0
    subst hnone
    rw [byteTotal_nil, Nat.zero_add] at hkept
    rw [Nat.add_zero, Nat.add_zero] at hleft
    have hloops : history.enforceLimits = (.ok { history with
        undo := [], redo := left, retainedBytes := byteTotal left } :
          Except (HistoryStop ε) SnapshotHistory) :=
      (Except.bind_of_ok hundo).trans ((Except.bind_of_ok hredo).trans
        ((Except.bind_of_ok hkept).trans (Except.bind_of_ok hleft)))
    refine ⟨_, hloops, rfl, ?_, ⟨hkeptCount, hleftSuffix.length_le.trans hredoCount, ?_⟩,
      List.nil_suffix, hleftSuffix.trans hredoSuffix, ?_, ?_, ?_⟩
    · exact (Nat.zero_add _).symm
    · rcases hleftStop with rfl | hleftStop
      · exact Nat.zero_le _
      · exact hleftStop
    · intro hne
      exact absurd rfl hne
    · intro _ hmaximum hwithin last hlast
      have hundoNe : undo ≠ [] := by
        intro hempty
        rw [hundoEmpty hmaximum hempty] at hlast
        cases hlast
      rw [← hredoSame hwithin]
      exact hkeptEmpty rfl last ((getLast_of_suffix hundoSuffix hundoNe).trans hlast)
    · intro hempty hmaximum last hlast
      have hredoNe : redo ≠ [] := by
        intro hnil
        rw [hredoEmpty hmaximum hnil] at hlast
        cases hlast
      exact hleftEmpty hempty last ((getLast_of_suffix hredoSuffix hredoNe).trans hlast)
  · have hloops : history.enforceLimits = (.ok { history with
        undo := kept, redo, retainedBytes := byteTotal kept + byteTotal redo } :
          Except (HistoryStop ε) SnapshotHistory) := by
      refine (Except.bind_of_ok hundo).trans ((Except.bind_of_ok hredo).trans
        ((Except.bind_of_ok hkept).trans ?_))
      change (if kept.isEmpty = true then _ else _) = _
      rw [if_neg (by rwa [List.isEmpty_iff])]
      rfl
    refine ⟨_, hloops, rfl, rfl, ⟨hkeptCount, hredoCount, hkeptStop.resolve_left hnone⟩,
      hkeptUndo, hredoSuffix, ?_, ?_, ?_⟩
    · intro _ hwithin
      exact hredoSame hwithin
    · intro hempty
      exact absurd hempty hnone
    · intro hempty hmaximum last hlast
      rw [hredoEmpty hmaximum hempty] at hlast
      cases hlast

/-! ## The snapshot that an operation pushes -/

section Pushed

variable {history settled : SnapshotHistory} {last : Snapshot}

/-- On the redo side the newest snapshot stays if it fits the budget alone. -/
theorem Settled.redo_last (h : Settled history settled)
    (hpositive : 0 < history.limits.maximumSnapshotsPerDirection)
    (hlast : history.redo.getLast? = some last)
    (hfits : last.length ≤ history.limits.maximumHistoryBytes) :
    settled.redo.getLast? = some last := by
  have hne : settled.redo ≠ [] := by
    intro hempty
    have hlarge := h.redo_empty hempty hpositive last hlast
    omega
  exact (getLast_of_suffix h.redo hne).trans hlast

/-- On the undo side it stays exactly when it fits together with the redo side. -/
theorem Settled.undo_last_iff (h : Settled history settled)
    (hpositive : 0 < history.limits.maximumSnapshotsPerDirection)
    (hwithin : history.redo.length ≤ history.limits.maximumSnapshotsPerDirection)
    (hlast : history.undo.getLast? = some last) :
    settled.undo.getLast? = some last ↔
      last.length + byteTotal history.redo ≤ history.limits.maximumHistoryBytes := by
  constructor
  · intro hkept
    have hne : settled.undo ≠ [] := by
      intro hempty
      rw [hempty] at hkept
      cases hkept
    have haccounted := h.accounted
    have hbytes := h.bounded.bytes
    have htotal := byteTotal_of_getLast hkept
    rw [Accounted, h.redo_eq hne hwithin] at haccounted
    rw [h.limits] at hbytes
    omega
  · intro hfits
    have hne : settled.undo ≠ [] := by
      intro hempty
      have hlarge := h.undo_empty hempty hpositive hwithin last hlast
      omega
    exact (getLast_of_suffix h.undo hne).trans hlast

omit [Usize] in
theorem byteTotal_le_of_suffix {kept stack : List Snapshot} (h : kept <:+ stack) :
    byteTotal kept ≤ byteTotal stack := by
  obtain ⟨dropped, rfl⟩ := h
  rw [byteTotal_append]
  omega

end Pushed

/-! ## Operations -/

section Operations

variable {codec : SnapshotCodec Current Admission Replay ε} {history next : SnapshotHistory}

/-- What every reachable history satisfies. -/
structure Sound (history : SnapshotHistory) : Prop where
  positive : 0 < history.limits.maximumSnapshotsPerDirection
  accounted : history.Accounted
  bounded : history.Bounded

theorem Settled.sound {settled : SnapshotHistory} (h : Settled history settled)
    (hpositive : 0 < history.limits.maximumSnapshotsPerDirection) : settled.Sound :=
  ⟨h.limits ▸ hpositive, h.accounted, h.bounded⟩

/-- The stack that a navigation takes its target from. -/
def side (history : SnapshotHistory) (redo : Bool) : List Snapshot :=
  if redo then history.redo else history.undo

/-- A history with the target taken and the current snapshot pushed, before eviction. -/
def moved (history : SnapshotHistory) (target snapshot : Snapshot) (redo : Bool) :
    SnapshotHistory :=
  if redo then
    { history with
      redo := history.redo.dropLast
      undo := history.undo ++ [snapshot]
      retainedBytes := history.retainedBytes - target.length + snapshot.length }
  else
    { history with
      undo := history.undo.dropLast
      redo := history.redo ++ [snapshot]
      retainedBytes := history.retainedBytes - target.length + snapshot.length }

theorem moved_accounted (h : history.Accounted) {target snapshot : Snapshot} {redo : Bool}
    (htarget : (history.side redo).getLast? = some target) :
    (history.moved target snapshot redo).Accounted := by
  have htotal := byteTotal_of_getLast htarget
  rw [Accounted] at h
  cases redo with
  | false =>
    have htotal : byteTotal history.undo = byteTotal history.undo.dropLast + target.length := htotal
    change history.retainedBytes - target.length + snapshot.length =
      byteTotal history.undo.dropLast + byteTotal (history.redo ++ [snapshot])
    rw [byteTotal_append, byteTotal_cons, byteTotal_nil]
    omega
  | true =>
    have htotal : byteTotal history.redo = byteTotal history.redo.dropLast + target.length := htotal
    change history.retainedBytes - target.length + snapshot.length =
      byteTotal (history.undo ++ [snapshot]) + byteTotal history.redo.dropLast
    rw [byteTotal_append, byteTotal_cons, byteTotal_nil]
    omega

/-- The newest snapshot of a side is part of the counter. -/
theorem length_le_retained (h : history.Accounted) {target : Snapshot} {redo : Bool}
    (htarget : (history.side redo).getLast? = some target) :
    target.length ≤ history.retainedBytes := by
  have htotal := byteTotal_of_getLast htarget
  rw [Accounted] at h
  cases redo with
  | false =>
    have htotal : byteTotal history.undo = byteTotal history.undo.dropLast + target.length := htotal
    omega
  | true =>
    have htotal : byteTotal history.redo = byteTotal history.redo.dropLast + target.length := htotal
    omega

/-- What a navigation that finds a target computes. -/
theorem navigate_eq (h : history.Accounted) {current : Current} {admission : Admission}
    {redo : Bool} {target : Snapshot} (htarget : (history.side redo).getLast? = some target) :
    history.navigate codec current admission redo = (do
      let replayed ← (codec.replay target admission).mapError fun error =>
        .rejected (.session error)
      let snapshot ← (codec.encode current).mapError fun error => .rejected (.session error)
      history.requireSnapshotSize snapshot
      failIf (Usize.maximum < history.retainedBytes - target.length + snapshot.length)
        (.rejected .byteAccounting)
      let settled ← enforceLimits (history.moved target snapshot redo)
      return (settled, some replayed)) := by
  have hscrutinee : (if redo then history.redo.getLast? else history.undo.getLast?) =
      some target := by
    cases redo <;> exact htarget
  have hsub : Usize.checkedSub history.retainedBytes target.length =
      some (history.retainedBytes - target.length) := if_pos (length_le_retained h htarget)
  rw [navigate, hscrutinee]
  refine congrArg (bind _) (funext fun replayed => congrArg (bind _) (funext fun snapshot =>
    congrArg (bind _) (funext fun _ => ?_)))
  rw [hsub]
  by_cases hcounts : history.retainedBytes - target.length + snapshot.length ≤ Usize.maximum
  · have hadd : Usize.checkedAdd (history.retainedBytes - target.length) snapshot.length =
        some (history.retainedBytes - target.length + snapshot.length) := if_pos hcounts
    rw [Except.failIf_of_not (not_lt.2 hcounts)]
    refine (Except.bind_of_ok rfl).trans ((Except.bind_of_ok (congrArg (Option.okOr · _) hadd)).trans
      ?_)
    cases redo <;> rfl
  · have hadd : Usize.checkedAdd (history.retainedBytes - target.length) snapshot.length = none :=
      if_neg hcounts
    rw [failIf, if_pos (not_le.1 hcounts)]
    refine (Except.bind_of_ok rfl).trans ?_
    rw [hadd]
    rfl

/-- A navigation that went through. -/
structure Navigated (codec : SnapshotCodec Current Admission Replay ε) (history : SnapshotHistory)
    (current : Current) (admission : Admission) (redo : Bool) (next : SnapshotHistory)
    (replayed : Replay) (target snapshot : Snapshot) : Prop where
  found : (history.side redo).getLast? = some target
  replays : codec.replay target admission = .ok replayed
  encodes : codec.encode current = .ok snapshot
  fits : snapshot.length ≤ history.limits.maximumHistoryBytes
  counts : history.retainedBytes - target.length + snapshot.length ≤ Usize.maximum
  settled : Settled (history.moved target snapshot redo) next

theorem enforceLimits_eq_ok (h : history.Accounted)
    (hsettles : history.enforceLimits = (.ok next : Except (HistoryStop ε) SnapshotHistory)) :
    Settled history next := by
  obtain ⟨settled, henforce, hsettled⟩ := enforceLimits_spec (ε := ε) h
  rw [henforce] at hsettles
  cases hsettles
  exact hsettled

theorem navigated_of_navigate (h : history.Accounted) {current : Current} {admission : Admission}
    {redo : Bool} {replayed : Replay}
    (hnavigate : history.navigate codec current admission redo = .ok (next, some replayed)) :
    ∃ target snapshot, Navigated codec history current admission redo next replayed target
      snapshot := by
  cases htarget : (history.side redo).getLast? with
  | none =>
    have hscrutinee : (if redo then history.redo.getLast? else history.undo.getLast?) = none := by
      cases redo <;> exact htarget
    rw [navigate, hscrutinee] at hnavigate
    cases hnavigate
  | some target =>
    rw [navigate_eq h htarget] at hnavigate
    simp only [Except.bind_eq_ok, Except.exists_unit, Except.mapError_eq_ok, requireSnapshotSize,
      Except.failIf_eq_ok, gt_iff_lt, not_lt, Except.pure_eq_ok, Prod.mk.injEq,
      Option.some.injEq] at hnavigate
    obtain ⟨_, hreplay, snapshot, hencode, hfits, hcounts, settled, hsettles, rfl, rfl⟩ := hnavigate
    exact ⟨target, snapshot, htarget, hreplay, hencode, hfits, hcounts,
      enforceLimits_eq_ok (moved_accounted h htarget) hsettles⟩

/-- A target that replays is reached when the current snapshot fits and the counter can hold it. -/
theorem navigate_eq_ok (h : history.Accounted) {current : Current} {admission : Admission}
    {redo : Bool} {replayed : Replay} {target snapshot : Snapshot}
    (htarget : (history.side redo).getLast? = some target)
    (hreplay : codec.replay target admission = .ok replayed)
    (hencode : codec.encode current = .ok snapshot)
    (hfits : snapshot.length ≤ history.limits.maximumHistoryBytes)
    (hcounts : history.retainedBytes - target.length + snapshot.length ≤ Usize.maximum) :
    ∃ next, history.navigate codec current admission redo = .ok (next, some replayed) := by
  have hmoved : (history.moved target snapshot redo).Accounted := moved_accounted h htarget
  obtain ⟨next, hnext, _⟩ := enforceLimits_spec (ε := ε) hmoved
  refine ⟨next, ?_⟩
  rw [navigate_eq h htarget]
  simp only [Except.bind_eq_ok, Except.exists_unit, Except.mapError_eq_ok, requireSnapshotSize,
    Except.failIf_eq_ok, gt_iff_lt, not_lt, Except.pure_eq_ok, Prod.mk.injEq, Option.some.injEq]
  exact ⟨replayed, hreplay, snapshot, hencode, hfits, hcounts, next, hnext, rfl, rfl⟩

/-- A navigation that replays nothing had no target and changes nothing. -/
theorem navigate_none (h : history.Accounted) {current : Current} {admission : Admission}
    {redo : Bool} (hnavigate : history.navigate codec current admission redo = .ok (next, none)) :
    next = history ∧ history.side redo = [] := by
  cases htarget : (history.side redo).getLast? with
  | none =>
    have hscrutinee : (if redo then history.redo.getLast? else history.undo.getLast?) = none := by
      cases redo <;> exact htarget
    rw [navigate, hscrutinee] at hnavigate
    cases hnavigate
    exact ⟨rfl, List.getLast?_eq_none_iff.1 htarget⟩
  | some target =>
    rw [navigate_eq h htarget] at hnavigate
    simp [Except.bind_eq_ok] at hnavigate

/-- The loops of an accounted history never stop. -/
theorem enforceLimits_ne_error (h : history.Accounted) {stop : HistoryStop ε} :
    history.enforceLimits ≠ (.error stop : Except (HistoryStop ε) SnapshotHistory) := by
  obtain ⟨settled, henforce, _⟩ := enforceLimits_spec (ε := ε) h
  rw [henforce]
  simp

theorem navigate_ne_underflow (h : history.Accounted) {current : Current} {admission : Admission}
    {redo : Bool} : history.navigate codec current admission redo ≠ .error .underflow := by
  intro hnavigate
  cases htarget : (history.side redo).getLast? with
  | none =>
    have hscrutinee : (if redo then history.redo.getLast? else history.undo.getLast?) = none := by
      cases redo <;> exact htarget
    rw [navigate, hscrutinee] at hnavigate
    cases hnavigate
  | some target =>
    rw [navigate_eq h htarget] at hnavigate
    simp only [Except.bind_eq_error, Except.mapError_eq_error, requireSnapshotSize,
      Except.failIf_eq_error, reduceCtorEq, and_false, exists_false, false_or] at hnavigate
    obtain ⟨_, _, snapshot, _, _, _, _, _, hstop⟩ := hnavigate
    rcases hstop with hstop | ⟨_, _, hstop⟩
    · exact enforceLimits_ne_error (moved_accounted h htarget) hstop
    · cases hstop

/-- The combined length of a stack, when it is computed at all. -/
theorem snapshotBytes_cases (snapshots : List Snapshot) :
    snapshotBytes snapshots = (.ok (byteTotal snapshots) : Except (HistoryStop ε) Nat) ∨
      snapshotBytes snapshots = (.error (.rejected .byteAccounting) : Except (HistoryStop ε) Nat) := by
  have hfold : ∀ total, snapshots.foldlM (fun total snapshot =>
        (Usize.checkedAdd total snapshot.length).okOr (HistoryStop.rejected .byteAccounting)) total =
          (.ok (total + byteTotal snapshots) : Except (HistoryStop ε) Nat) ∨
      snapshots.foldlM (fun total snapshot =>
        (Usize.checkedAdd total snapshot.length).okOr (HistoryStop.rejected .byteAccounting)) total =
          (.error (.rejected .byteAccounting) : Except (HistoryStop ε) Nat) := by
    induction snapshots with
    | nil => exact fun total => Or.inl rfl
    | cons snapshot snapshots ih =>
      intro total
      rw [List.foldlM_cons, byteTotal_cons, ← Nat.add_assoc]
      by_cases hfits : total + snapshot.length ≤ Usize.maximum
      · rw [Usize.checkedAdd, if_pos hfits]
        exact ih (total + snapshot.length)
      · rw [Usize.checkedAdd, if_neg hfits]
        exact Or.inr rfl
  have hzero := hfold 0
  rw [Nat.zero_add] at hzero
  exact hzero

/-- A history with the prior session pushed and the redo branch gone, before eviction. -/
def recorded (history : SnapshotHistory) (prior : Snapshot) : SnapshotHistory :=
  { history with
    redo := []
    retainedBytes := history.retainedBytes - byteTotal history.redo + prior.length
    undo := history.undo ++ [prior] }

theorem recorded_accounted (h : history.Accounted) (prior : Snapshot) :
    (history.recorded prior).Accounted := by
  rw [Accounted] at h
  change history.retainedBytes - byteTotal history.redo + prior.length =
    byteTotal (history.undo ++ [prior]) + byteTotal []
  rw [byteTotal_append, byteTotal_cons, byteTotal_nil]
  omega

/-- A prior session is recorded when it fits the budget; otherwise the call is rejected. -/
theorem record_cases (h : history.Accounted) (prior : Snapshot) :
    (∃ error, history.record prior = (.error (.rejected error) : Except (HistoryStop ε) _)) ∨
      ∃ next, history.record prior = (.ok next : Except (HistoryStop ε) _) ∧
        prior.length ≤ history.limits.maximumHistoryBytes ∧
        Settled (history.recorded prior) next := by
  obtain ⟨next, henforce, hsettled⟩ := enforceLimits_spec (ε := ε) (recorded_accounted h prior)
  have hle : byteTotal history.redo ≤ history.retainedBytes := by
    rw [Accounted] at h
    omega
  have hsub : Usize.checkedSub history.retainedBytes (byteTotal history.redo) =
    some (history.retainedBytes - byteTotal history.redo) := if_pos hle
  by_cases hfits : prior.length ≤ history.limits.maximumHistoryBytes
  · rcases snapshotBytes_cases (ε := ε) history.redo with htotal | htotal
    · by_cases hcounts :
        history.retainedBytes - byteTotal history.redo + prior.length ≤ Usize.maximum
      · refine Or.inr ⟨next, ?_, hfits, hsettled⟩
        have hadd : Usize.checkedAdd (history.retainedBytes - byteTotal history.redo)
          prior.length = some _ := if_pos hcounts
        refine (Except.bind_of_ok (Except.failIf_of_not (not_lt.2 hfits))).trans
          ((Except.bind_of_ok htotal).trans
          ((Except.bind_of_ok (congrArg (Option.okOr · _) hsub)).trans
          ((Except.bind_of_ok (congrArg (Option.okOr · _) hadd)).trans henforce)))
      · refine Or.inl ⟨.byteAccounting, ?_⟩
        have hadd : Usize.checkedAdd (history.retainedBytes - byteTotal history.redo)
          prior.length = none := if_neg hcounts
        refine (Except.bind_of_ok (Except.failIf_of_not (not_lt.2 hfits))).trans
          ((Except.bind_of_ok htotal).trans
          ((Except.bind_of_ok (congrArg (Option.okOr · _) hsub)).trans ?_))
        rw [hadd]
        rfl
    · refine Or.inl ⟨.byteAccounting, ?_⟩
      refine (Except.bind_of_ok (Except.failIf_of_not (not_lt.2 hfits))).trans ?_
      rw [htotal]
      rfl
  · refine Or.inl ⟨.snapshotTooLarge, ?_⟩
    rw [record, requireSnapshotSize, failIf, if_pos (not_le.1 hfits)]
    rfl

end Operations

/-! ## The laws of a reachable history -/

section Laws

variable {codec : SnapshotCodec Current Admission Replay ε} {history next : SnapshotHistory}

/-- A call that goes through, and what it answers. -/
theorem perform_eq_ok_iff {operation : HistoryOperation Current Admission}
    {answer : Option Replay} :
    history.perform codec operation = (next, .ok answer) ↔
      history.operated codec operation = .ok (next, answer) := by
  rw [perform]
  cases history.operated codec operation <;> simp [Prod.ext_iff]

/-- A call that stops leaves the history as it was. -/
theorem perform_eq_error {operation : HistoryOperation Current Admission} {stop : HistoryStop ε}
    (h : (history.perform codec operation).2 = .error stop) :
    (history.perform codec operation).1 = history ∧
      history.operated codec operation = .error stop := by
  rw [perform] at h ⊢
  cases hoperated : history.operated codec operation with
  | ok result =>
    rw [hoperated] at h
    cases h
  | error other =>
    rw [hoperated] at h
    cases h
    exact ⟨rfl, rfl⟩

/-- Whatever goes through, a sound history stays sound under its own policy. -/
theorem sound_operated (h : history.Sound) {operation : HistoryOperation Current Admission}
    {answer : Option Replay} (hoperated : history.operated codec operation = .ok (next, answer)) :
    next.Sound ∧ next.limits = history.limits := by
  have hnavigate : ∀ current admission redo,
      history.navigate codec current admission redo = .ok (next, answer) →
        next.Sound ∧ next.limits = history.limits := by
    intro current admission redo hresult
    cases answer with
    | none =>
      obtain ⟨rfl, _⟩ := navigate_none h.accounted hresult
      exact ⟨h, rfl⟩
    | some replayed =>
      obtain ⟨target, snapshot, hnavigated⟩ := navigated_of_navigate h.accounted hresult
      have hlimits : (history.moved target snapshot redo).limits = history.limits := by
        cases redo <;> rfl
      exact ⟨hnavigated.settled.sound (hlimits ▸ h.positive),
        hnavigated.settled.limits.trans hlimits⟩
  cases operation with
  | record prior =>
    simp only [operated, Except.bind_eq_ok, Except.pure_eq_ok, Prod.mk.injEq] at hoperated
    obtain ⟨settled, hrecord, rfl, rfl⟩ := hoperated
    rcases record_cases (ε := ε) h.accounted prior with ⟨error, hstop⟩ | ⟨other, hok, _, hsettled⟩
    · rw [hstop] at hrecord
      cases hrecord
    · rw [hok] at hrecord
      cases hrecord
      exact ⟨hsettled.sound h.positive, hsettled.limits⟩
  | undo current admission => exact hnavigate current admission false hoperated
  | redo current admission => exact hnavigate current admission true hoperated
  | previewUndo admission =>
    simp only [operated, Except.bind_eq_ok, Except.pure_eq_ok, Prod.mk.injEq] at hoperated
    obtain ⟨_, _, rfl, _⟩ := hoperated
    exact ⟨h, rfl⟩
  | previewRedo admission =>
    simp only [operated, Except.bind_eq_ok, Except.pure_eq_ok, Prod.mk.injEq] at hoperated
    obtain ⟨_, _, rfl, _⟩ := hoperated
    exact ⟨h, rfl⟩
  | clear =>
    cases hoperated
    exact ⟨⟨h.positive, rfl, Nat.zero_le _, Nat.zero_le _, Nat.zero_le _⟩, rfl⟩

/-- No call stops in an unchecked subtraction. -/
theorem operated_ne_underflow (h : history.Sound)
    (operation : HistoryOperation Current Admission) :
    history.operated codec operation ≠ .error .underflow := by
  intro hoperated
  have hpreview : ∀ (stack : List Snapshot) (admission : Admission),
      preview codec stack admission ≠ .error .underflow := by
    intro stack admission hstop
    rw [preview] at hstop
    split at hstop
    · cases hstop
    · rw [Except.bind_eq_error, Except.mapError_eq_error] at hstop
      rcases hstop with ⟨_, _, hstop⟩ | ⟨_, _, hstop⟩ <;> cases hstop
  cases operation with
  | record prior =>
    rw [operated, Except.bind_eq_error] at hoperated
    rcases hoperated with hrecord | ⟨_, _, hstop⟩
    · rcases record_cases (ε := ε) h.accounted prior with ⟨error, hstop⟩ | ⟨other, hok, _, _⟩
      · rw [hstop] at hrecord
        cases hrecord
      · rw [hok] at hrecord
        cases hrecord
    · cases hstop
  | undo current admission => exact navigate_ne_underflow h.accounted hoperated
  | redo current admission => exact navigate_ne_underflow h.accounted hoperated
  | previewUndo admission =>
    rw [operated, Except.bind_eq_error] at hoperated
    rcases hoperated with hstop | ⟨_, _, hstop⟩
    · exact hpreview _ _ hstop
    · cases hstop
  | previewRedo admission =>
    rw [operated, Except.bind_eq_error] at hoperated
    rcases hoperated with hstop | ⟨_, _, hstop⟩
    · exact hpreview _ _ hstop
    · cases hstop
  | clear => cases hoperated

/-- After a navigation whose pushed snapshot was kept, the opposite one replays that snapshot. -/
theorem navigate_back (h : history.Sound) {current : Current} {admission : Admission}
    {redo : Bool} {replayed : Replay} {target snapshot : Snapshot}
    (hnavigated : Navigated codec history current admission redo next replayed target snapshot)
    (hkept : (next.side !redo).getLast? = some snapshot) {other : Admission} {before : Replay}
    (hreplay : codec.replay snapshot other = .ok before) :
    ∃ further, next.navigate codec (codec.current replayed) other (!redo) =
      .ok (further, some before) := by
  have hlimits : next.limits = history.limits := by
    rw [hnavigated.settled.limits]
    cases redo <;> rfl
  have htarget := length_le_retained h.accounted hnavigated.found
  have hbudget := h.bounded.bytes
  refine navigate_eq_ok hnavigated.settled.accounted hkept hreplay
    (codec.canonical hnavigated.replays) ?_ ?_
  · rw [hlimits]
    omega
  · -- the counter returns to at most what it was
    have haccounted := hnavigated.settled.accounted
    have hundo := byteTotal_le_of_suffix hnavigated.settled.undo
    have hredo := byteTotal_le_of_suffix hnavigated.settled.redo
    have hmoved : (history.moved target snapshot redo).Accounted :=
      moved_accounted h.accounted hnavigated.found
    have hretained : (history.moved target snapshot redo).retainedBytes =
        history.retainedBytes - target.length + snapshot.length := by
      cases redo <;> rfl
    have hlast := length_le_retained haccounted hkept
    rw [Accounted] at haccounted hmoved
    have hmaximum := history.limits.bytes_le
    omega

/-- The snapshot that a call pushes is the newest of its stack afterwards, and the opposite call on
the session it returned gives back the session that was current before. -/
def Reverses (codec : SnapshotCodec Current Admission Replay ε) (history : SnapshotHistory) :
    HistoryOperation Current Admission → Prop
  | .record prior =>
    (history.perform codec (.record prior)).1.undo.getLast? = some prior
  | .undo current admission => ∀ next replayed snapshot,
    history.perform codec (.undo current admission) = (next, .ok (some replayed)) →
      codec.encode current = .ok snapshot → next.redo.getLast? = some snapshot ∧
        ∀ other before, codec.replay snapshot other = .ok before →
          (next.perform codec (.redo (codec.current replayed) other)).2 = .ok (some before)
  | .redo current admission => ∀ next replayed snapshot,
    history.perform codec (.redo current admission) = (next, .ok (some replayed)) →
      codec.encode current = .ok snapshot → next.undo.getLast? = some snapshot ∧
        ∀ other before, codec.replay snapshot other = .ok before →
          (next.perform codec (.undo (codec.current replayed) other)).2 = .ok (some before)
  | _ => True

/-- A redo that has a target finds room for the current session beside the redo entries that
remain. -/
def Fits (codec : SnapshotCodec Current Admission Replay ε) (history : SnapshotHistory) :
    HistoryOperation Current Admission → Prop
  | .redo current _ => history.redo ≠ [] → ∀ snapshot, codec.encode current = .ok snapshot →
    snapshot.length + byteTotal history.redo.dropLast ≤ history.limits.maximumHistoryBytes
  | _ => True

theorem record_reverses (h : history.Sound) {prior : Snapshot} {answer : Option Replay}
    (hoperated : history.operated codec (.record prior) = .ok (next, answer)) :
    next.undo.getLast? = some prior := by
  simp only [operated, Except.bind_eq_ok, Except.pure_eq_ok, Prod.mk.injEq] at hoperated
  obtain ⟨settled, hrecord, rfl, rfl⟩ := hoperated
  rcases record_cases (ε := ε) h.accounted prior with ⟨error, hstop⟩ | ⟨other, hok, hfits, hsettled⟩
  · rw [hstop] at hrecord
    cases hrecord
  · rw [hok] at hrecord
    cases hrecord
    refine (hsettled.undo_last_iff h.positive (Nat.zero_le _) List.getLast?_concat).2 ?_
    exact hfits

theorem undo_reverses (h : history.Sound) (current : Current) (admission : Admission) :
    Reverses codec history (.undo current admission) := by
  intro next replayed snapshot hperform hencode
  obtain ⟨target, other, hnavigated⟩ :=
    navigated_of_navigate h.accounted (perform_eq_ok_iff.1 hperform)
  obtain rfl : other = snapshot := Except.ok.inj (hnavigated.encodes.symm.trans hencode)
  have hkept : next.redo.getLast? = some other :=
    hnavigated.settled.redo_last h.positive List.getLast?_concat hnavigated.fits
  refine ⟨hkept, ?_⟩
  intro admission before hreplay
  obtain ⟨further, hfurther⟩ := navigate_back h hnavigated hkept hreplay
  have hredo : next.operated codec (.redo (codec.current replayed) admission) =
    .ok (further, some before) := hfurther
  exact congrArg Prod.snd (perform_eq_ok_iff.2 hredo)

theorem redo_reverses_iff (h : history.Sound) {current : Current} {admission : Admission}
    {answer : Option Replay}
    (hoperated : history.operated codec (.redo current admission) = .ok (next, answer)) :
    Reverses codec history (.redo current admission) ↔
      Fits codec history (.redo current admission) := by
  cases answer with
  | none =>
    have hempty : history.redo = [] := (navigate_none h.accounted hoperated).2
    refine iff_of_true ?_ ?_
    · intro other replayed snapshot hperform
      rw [perform_eq_ok_iff.2 hoperated] at hperform
      cases hperform
    · intro hne
      exact absurd hempty hne
  | some replayed =>
    obtain ⟨target, snapshot, hnavigated⟩ := navigated_of_navigate h.accounted hoperated
    have hundo : (history.moved target snapshot true).redo.length ≤
        (history.moved target snapshot true).limits.maximumSnapshotsPerDirection := by
      have hlength := h.bounded.redo
      change history.redo.dropLast.length ≤ history.limits.maximumSnapshotsPerDirection
      rw [List.length_dropLast]
      omega
    have hkept := hnavigated.settled.undo_last_iff h.positive hundo
      (List.getLast?_concat : (history.undo ++ [snapshot]).getLast? = some snapshot)
    constructor
    · intro hreverses _ other hother
      obtain rfl : snapshot = other := Except.ok.inj (hnavigated.encodes.symm.trans hother)
      exact hkept.1 (hreverses next replayed snapshot (perform_eq_ok_iff.2 hoperated)
        hnavigated.encodes).1
    · intro hfits other again pushed hperform hencode
      rw [perform_eq_ok_iff.2 hoperated] at hperform
      cases hperform
      obtain rfl : snapshot = pushed := Except.ok.inj (hnavigated.encodes.symm.trans hencode)
      have hne : history.redo ≠ [] := by
        intro hempty
        have hfound : history.redo.getLast? = some target := hnavigated.found
        rw [hempty] at hfound
        cases hfound
      have hlast := hkept.2 (hfits hne snapshot hencode)
      refine ⟨hlast, ?_⟩
      intro admission before hreplay
      obtain ⟨further, hfurther⟩ := navigate_back h hnavigated hlast hreplay
      have hundone : next.operated codec (.undo (codec.current replayed) admission) =
        .ok (further, some before) := hfurther
      exact congrArg Prod.snd (perform_eq_ok_iff.2 hundone)

/-- The call reverses exactly when it fits. -/
theorem reverses_iff_fits (h : history.Sound) {operation : HistoryOperation Current Admission}
    {answer : Option Replay}
    (hoperated : history.operated codec operation = .ok (next, answer)) :
    Reverses codec history operation ↔ Fits codec history operation := by
  cases operation with
  | record prior =>
    refine iff_of_true ?_ trivial
    rw [Reverses, perform_eq_ok_iff.2 hoperated]
    exact record_reverses h hoperated
  | undo current admission => exact iff_of_true (undo_reverses h current admission) trivial
  | redo current admission => exact redo_reverses_iff h hoperated
  | previewUndo admission => exact Iff.rfl
  | previewRedo admission => exact Iff.rfl
  | clear => exact Iff.rfl

/-- Eviction takes oldest snapshots only: what is left of each stack is a suffix of it as the call
moved it. -/
structure EvictsOldest (codec : SnapshotCodec Current Admission Replay ε)
    (history next : SnapshotHistory) (operation : HistoryOperation Current Admission) : Prop where
  record : ∀ prior, operation = .record prior →
    next.undo <:+ history.undo ++ [prior] ∧ next.redo = []
  undo : ∀ current admission, operation = .undo current admission →
    next = history ∨ ∃ snapshot, codec.encode current = .ok snapshot ∧
      next.undo <:+ history.undo.dropLast ∧ next.redo <:+ history.redo ++ [snapshot]
  redo : ∀ current admission, operation = .redo current admission →
    next = history ∨ ∃ snapshot, codec.encode current = .ok snapshot ∧
      next.redo <:+ history.redo.dropLast ∧ next.undo <:+ history.undo ++ [snapshot]
  preview : ∀ admission, operation = .previewUndo admission ∨ operation = .previewRedo admission →
    next = history

theorem evictsOldest_of_operated (h : history.Sound)
    {operation : HistoryOperation Current Admission} {answer : Option Replay}
    (hoperated : history.operated codec operation = .ok (next, answer)) :
    EvictsOldest codec history next operation := by
  constructor
  case record =>
    intro prior hoperation
    subst hoperation
    simp only [operated, Except.bind_eq_ok, Except.pure_eq_ok, Prod.mk.injEq] at hoperated
    obtain ⟨settled, hrecord, rfl, rfl⟩ := hoperated
    rcases record_cases (ε := ε) h.accounted prior with ⟨error, hstop⟩ | ⟨other, hok, _, hsettled⟩
    · rw [hstop] at hrecord
      cases hrecord
    · rw [hok] at hrecord
      cases hrecord
      exact ⟨hsettled.undo, List.suffix_nil.1 hsettled.redo⟩
  case undo =>
    intro current admission hoperation
    subst hoperation
    cases answer with
    | none => exact Or.inl (navigate_none h.accounted hoperated).1
    | some replayed =>
      obtain ⟨target, snapshot, hnavigated⟩ := navigated_of_navigate h.accounted hoperated
      exact Or.inr ⟨snapshot, hnavigated.encodes, hnavigated.settled.undo,
        hnavigated.settled.redo⟩
  case redo =>
    intro current admission hoperation
    subst hoperation
    cases answer with
    | none => exact Or.inl (navigate_none h.accounted hoperated).1
    | some replayed =>
      obtain ⟨target, snapshot, hnavigated⟩ := navigated_of_navigate h.accounted hoperated
      exact Or.inr ⟨snapshot, hnavigated.encodes, hnavigated.settled.redo,
        hnavigated.settled.undo⟩
  case preview =>
    intro admission hoperation
    rcases hoperation with rfl | rfl
    · simp only [operated, Except.bind_eq_ok, Except.pure_eq_ok, Prod.mk.injEq] at hoperated
      obtain ⟨_, _, rfl, _⟩ := hoperated
      rfl
    · simp only [operated, Except.bind_eq_ok, Except.pure_eq_ok, Prod.mk.injEq] at hoperated
      obtain ⟨_, _, rfl, _⟩ := hoperated
      rfl

/-- The history after a sequence of calls, stopped ones included. -/
def after (codec : SnapshotCodec Current Admission Replay ε) (start : SnapshotHistory)
    (operations : List (HistoryOperation Current Admission)) : SnapshotHistory :=
  (Run.execute (perform codec) start operations).1

/-- Every history that calls reach from an empty one is sound, under the same policy. -/
theorem sound_after {limits : SnapshotHistoryLimits} {start : SnapshotHistory}
    (hstart : tryNew limits = (.ok start : Except (SnapshotHistoryError ε) SnapshotHistory))
    (operations : List (HistoryOperation Current Admission)) :
    (after codec start operations).Sound ∧ (after codec start operations).limits = limits := by
  have hempty : start.Sound ∧ start.limits = limits := by
    simp only [tryNew, SnapshotHistoryLimits.validate, Except.bind_eq_ok, Except.exists_unit,
      Except.failIf_eq_ok, not_or, Except.pure_eq_ok] at hstart
    obtain ⟨⟨hpositive, _⟩, rfl⟩ := hstart
    exact ⟨⟨Nat.pos_of_ne_zero hpositive, rfl, Nat.zero_le _, Nat.zero_le _, Nat.zero_le _⟩, rfl⟩
  refine Run.invariant (p := fun history => history.Sound ∧ history.limits = limits) ?_
    (Run.run_execute (perform codec) start operations) hempty
  intro history event next hcall hsound
  change history.perform codec event.1 = (next, event.2) at hcall
  cases hanswer : event.2 with
  | ok answer =>
    rw [hanswer] at hcall
    obtain ⟨hnext, hlimits⟩ := sound_operated hsound.1 (perform_eq_ok_iff.1 hcall)
    exact ⟨hnext, hlimits.trans hsound.2⟩
  | error stop =>
    rw [hanswer] at hcall
    have hsame := (perform_eq_error (congrArg Prod.snd hcall)).1
    rw [hcall] at hsame
    change next = history at hsame
    rw [hsame]
    exact hsound

/-- The laws of one call on a history. -/
structure CallLaws (codec : SnapshotCodec Current Admission Replay ε) (history : SnapshotHistory)
    (operation : HistoryOperation Current Admission) : Prop where
  no_underflow : (history.perform codec operation).2 ≠ .error .underflow
  stopped : ∀ stop, (history.perform codec operation).2 = .error stop →
    (history.perform codec operation).1 = history
  evicts : ∀ answer, (history.perform codec operation).2 = .ok answer →
    EvictsOldest codec history (history.perform codec operation).1 operation
  reverses : ∀ answer, (history.perform codec operation).2 = .ok answer →
    (Reverses codec history operation ↔ Fits codec history operation)

theorem callLaws (h : history.Sound) (operation : HistoryOperation Current Admission) :
    CallLaws codec history operation := by
  constructor
  case no_underflow =>
    intro hstop
    exact operated_ne_underflow h operation (perform_eq_error hstop).2
  case stopped =>
    intro stop hstop
    exact (perform_eq_error hstop).1
  case evicts =>
    intro answer hanswer
    exact evictsOldest_of_operated h (perform_eq_ok_iff.1 (Prod.ext rfl hanswer))
  case reverses =>
    intro answer hanswer
    exact reverses_iff_fits h (perform_eq_ok_iff.1 (Prod.ext rfl hanswer))

/-- **Undo history is bounded and exactly accounted, and reversible exactly as far as it fits.**
After every sequence of calls on an empty history the counter is the total of the retained
snapshots and every bound holds. The next call never underflows the counter, leaves the history as
it was when it stops, and evicts oldest snapshots only. It keeps what it pushed and is undone by the
opposite call exactly when it is no redo whose current session does not fit the budget beside the
redo entries that remain. -/
theorem undoHistory (codec : SnapshotCodec Current Admission Replay ε)
    (limits : SnapshotHistoryLimits) (start : SnapshotHistory)
    (hstart : tryNew limits = (.ok start : Except (SnapshotHistoryError ε) SnapshotHistory))
    (operations : List (HistoryOperation Current Admission)) :
    (after codec start operations).Accounted ∧ (after codec start operations).Bounded ∧
    (after codec start operations).limits = limits ∧
    ∀ operation, CallLaws codec (after codec start operations) operation :=
  have hsound : (after codec start operations).Sound ∧
    (after codec start operations).limits = limits := sound_after hstart operations
  ⟨hsound.1.accounted, hsound.1.bounded, hsound.2, callLaws hsound.1⟩

end Laws

end SnapshotHistory

/-! ## A redo that loses the current session -/

/-- A 64-bit platform. -/
local instance usize64 : Usize := ⟨2 ^ 64 - 1⟩

/-- Encodings that are their own sessions. -/
def plainCodec : SnapshotCodec Snapshot Unit Snapshot Unit where
  encode := .ok
  replay := fun snapshot _ => .ok snapshot
  current := id
  canonical := by
    intro snapshot admission replayed h
    exact h.symm

/-- Two snapshots on each side and four bytes together. -/
def tightLimits : SnapshotHistoryLimits where
  maximumSnapshotsPerDirection := 2
  maximumHistoryBytes := 4
  bytes_le := by decide

def emptyHistory : SnapshotHistory := ⟨tightLimits, [], [], 0⟩

/-- Two sessions recorded and undone, the first time from a session of two bytes. -/
def undoneTwice : List (HistoryOperation Snapshot Unit) :=
  [.record [1], .record [2], .undo [3, 3] (), .undo [2] ()]

namespace SnapshotHistory

theorem undoHistory_undoneTwice :
    (after plainCodec emptyHistory undoneTwice).Accounted ∧
    (after plainCodec emptyHistory undoneTwice).Bounded ∧
    (after plainCodec emptyHistory undoneTwice).limits = tightLimits ∧
    ∀ operation, CallLaws plainCodec (after plainCodec emptyHistory undoneTwice) operation :=
  undoHistory plainCodec tightLimits emptyHistory rfl undoneTwice

/-- A redo from a session of three bytes goes through, but the session is evicted at once: an undo
finds nothing. -/
theorem undoHistory_fails :
    ((after plainCodec emptyHistory undoneTwice).perform plainCodec (.redo [4, 4, 4] ())).2 =
      .ok (some [2]) ∧
    ¬ Reverses plainCodec (after plainCodec emptyHistory undoneTwice) (.redo [4, 4, 4] ()) := by
  refine ⟨by decide, ?_⟩
  intro hreverses
  have hperform : (after plainCodec emptyHistory undoneTwice).perform plainCodec
      (.redo [4, 4, 4] ()) = (⟨tightLimits, [], [[3, 3]], 2⟩, .ok (some [2])) := rfl
  have hlast := (hreverses _ _ [4, 4, 4] hperform rfl).1
  cases hlast

end SnapshotHistory

end Alumina.Graph
