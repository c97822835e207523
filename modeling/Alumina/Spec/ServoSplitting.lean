import Alumina.ForStd.GreedySplit
import Alumina.Motion.ServoMotion

/-!
# The split into servo records is maximal

A record from one update to another is admissible when its states evaluate, every signal of every
axis goes one way over it, and every step keeps the limits of every axis. The scan for the end of a
record carries the signs that the record has shown: `Retained` says what a sign stands for, and a
step conflicts with it exactly when the record could not take the step in.

An admissible record stays admissible when it is cut from either side, since a signal that goes one
way is farthest from where it began. So the loop that takes the largest record each time splits a
span into the fewest.

## Key results

- `findRecordEnd_outcome`: the three ways in which the scan ends
- `Admissible.suffix`: a record stays admissible when it begins later
- `splitLoop_greedy`: the loop splits greedily
- `servoRecordSplitting`: the largest records, and the fewest
-/

namespace Alumina.Motion

/-! ## Retained signs -/

/-- Changes that all go one way, with zero allowed. -/
def OneWay (deltas : Set Int) : Prop :=
  (∀ delta ∈ deltas, 0 ≤ delta) ∨ ∀ delta ∈ deltas, delta ≤ 0

/-- The sign retained for a set of changes: zero while all of them are zero. -/
def Retained (sign : Int) (deltas : Set Int) : Prop :=
  (sign = 0 ∧ ∀ delta ∈ deltas, delta = 0) ∨
    (sign = 1 ∧ (∀ delta ∈ deltas, 0 ≤ delta) ∧ ∃ delta ∈ deltas, 0 < delta) ∨
    (sign = -1 ∧ (∀ delta ∈ deltas, delta ≤ 0) ∧ ∃ delta ∈ deltas, delta < 0)

theorem signOf_cases (delta : Int) :
    (delta = 0 ∧ signOf delta = 0) ∨ (0 < delta ∧ signOf delta = 1) ∨
      (delta < 0 ∧ signOf delta = -1) := by
  unfold signOf
  split
  · exact .inr (.inr ⟨‹_›, rfl⟩)
  · split
    · exact .inr (.inl ⟨‹_›, rfl⟩)
    · exact .inl ⟨by omega, rfl⟩

theorem retained_empty {sign : Int} : Retained sign ∅ ↔ sign = 0 := by
  simp [Retained]

/-- A change conflicts with the retained sign exactly when it goes against the changes so far. -/
theorem Retained.conflicts_iff {sign : Int} {deltas : Set Int} (h : Retained sign deltas)
    (delta : Int) :
    signConflicts sign (signOf delta) = true ↔ ¬ OneWay (insert delta deltas) := by
  unfold OneWay
  rw [Set.forall_mem_insert, Set.forall_mem_insert]
  obtain ⟨rfl, hzero⟩ | ⟨rfl, hup, witness, hmem, hpos⟩ | ⟨rfl, hdown, witness, hmem, hneg⟩ := h
  · have hup : ∀ change ∈ deltas, 0 ≤ change := fun change hchange => (hzero change hchange).ge
    have hdown : ∀ change ∈ deltas, change ≤ 0 := fun change hchange => (hzero change hchange).le
    simp only [signConflicts, ne_eq, not_true, decide_false, Bool.false_and, Bool.false_eq_true,
      false_iff, not_not, and_iff_left hup, and_iff_left hdown]
    exact le_total 0 delta
  · have hdown : ¬ ∀ change ∈ deltas, change ≤ 0 := fun hall => by
      have := hall witness hmem
      omega
    simp only [and_iff_left hup, hdown, and_false, or_false, not_le]
    obtain ⟨hdelta, hsign⟩ | ⟨hdelta, hsign⟩ | ⟨hdelta, hsign⟩ := signOf_cases delta <;>
      simp [signConflicts, hsign] <;> omega
  · have hup : ¬ ∀ change ∈ deltas, 0 ≤ change := fun hall => by
      have := hall witness hmem
      omega
    simp only [and_iff_left hdown, hup, and_false, false_or, not_le]
    obtain ⟨hdelta, hsign⟩ | ⟨hdelta, hsign⟩ | ⟨hdelta, hsign⟩ := signOf_cases delta <;>
      simp [signConflicts, hsign] <;> omega

/-- The sign kept after a change that goes with the others. -/
theorem Retained.insert {sign : Int} {deltas : Set Int} (h : Retained sign deltas) {delta : Int}
    (hone : OneWay (insert delta deltas)) :
    Retained (if signOf delta ≠ 0 then signOf delta else sign) (insert delta deltas) := by
  unfold Retained
  simp only [Set.forall_mem_insert, Set.exists_mem_insert]
  unfold OneWay at hone
  rw [Set.forall_mem_insert, Set.forall_mem_insert] at hone
  obtain ⟨hdelta, hsign⟩ | ⟨hdelta, hsign⟩ | ⟨hdelta, hsign⟩ := signOf_cases delta
  · rw [hsign, if_neg (by decide)]
    obtain ⟨rfl, hzero⟩ | ⟨rfl, hup, hwitness⟩ | ⟨rfl, hdown, hwitness⟩ := h
    · exact .inl ⟨rfl, hdelta, hzero⟩
    · exact .inr (.inl ⟨rfl, ⟨hdelta.ge, hup⟩, .inr hwitness⟩)
    · exact .inr (.inr ⟨rfl, ⟨hdelta.le, hdown⟩, .inr hwitness⟩)
  · rw [hsign, if_pos (by decide)]
    obtain hup | ⟨hdown, _⟩ := hone
    · exact .inr (.inl ⟨rfl, hup, .inl hdelta⟩)
    · omega
  · rw [hsign, if_pos (by decide)]
    obtain ⟨hup, _⟩ | hdown := hone
    · omega
    · exact .inr (.inr ⟨rfl, hdown, .inl hdelta⟩)

/-! ## Admissible records -/

section Admissible

variable {axes : Nat}

/-- A step keeps the rate, displacement and amplitude limits of an axis. -/
structure WithinLimits (limits : ServoSegmentLimits axes)
    (base current next : ServoFiniteDifferenceState axes) (axis : Fin axes) : Prop where
  rate : |(next.position.get axis).toInt - (current.position.get axis).toInt| ≤
    (limits.maximumAbsolutePositionFirstDifferenceBits.get axis).toNat
  displacement : |(next.position.get axis).toInt - (base.position.get axis).toInt| ≤
    (limits.maximumPositionDeltaBits.get axis).toNat
  velocity : ∀ state ∈ [next, current], |(state.velocityFeedForward.get axis).toInt| ≤
    (limits.maximumAbsoluteVelocityFeedForwardBits.get axis).toNat
  quadratureCurrent : ∀ state ∈ [next, current],
    |(state.quadratureCurrentFeedForward.get axis).toInt| ≤
      (limits.maximumAbsoluteQuadratureCurrentFeedForwardBits.get axis).toNat

theorem exceedsLimits_iff {limits : ServoSegmentLimits axes}
    {base current next : ServoFiniteDifferenceState axes} {axis : Fin axes} :
    exceedsLimits limits base current next axis = true ↔
      ¬ WithinLimits limits base current next axis := by
  rw [← Bool.not_eq_false, not_iff_not]
  simp only [exceedsLimits, signalDelta, Bool.or_eq_false_iff, decide_eq_false_iff_not, not_lt,
    gt_iff_lt, ← Int.ofNat_le, Int.natCast_natAbs]
  constructor
  · intro h
    exact ⟨h.1.1.1.1.1, h.1.1.1.1.2, by simp [h.1.1.1.2, h.1.1.2], by simp [h.1.2, h.2]⟩
  · intro h
    have hvelocity := h.velocity
    have hcurrent := h.quadratureCurrent
    simp only [List.forall_mem_cons, List.not_mem_nil, false_imp_iff, implies_true,
      and_true] at hvelocity hcurrent
    exact ⟨⟨⟨⟨⟨h.rate, h.displacement⟩, hvelocity.1⟩, hvelocity.2⟩, hcurrent.1⟩, hcurrent.2⟩

variable {ε : Type} [ServoMachine axes ε]

/-- Consecutive states of a source, from one update to another. -/
def IsStep (source : ServoFiniteDifferenceSegment axes) (start stop : Nat)
    (current next : ServoFiniteDifferenceState axes) : Prop :=
  ∃ update, start ≤ update ∧ update < stop ∧ ServoMachine.stateAt source update = .ok current ∧
    ServoMachine.stateAt source (update + 1) = .ok next

/-- The changes of one signal on one axis over a record. -/
def changes (source : ServoFiniteDifferenceSegment axes) (start stop : Nat) (axis : Fin axes)
    (signal : ServoSignal) : Set Int :=
  {delta | ∃ current next, IsStep source start stop current next ∧
    delta = signalDelta current next axis signal}

/-- A record that the hardware can take, from one update to another. -/
structure Admissible (source : ServoFiniteDifferenceSegment axes) (limits : ServoSegmentLimits axes)
    (start stop : Nat) : Prop where
  evaluates : ∀ update, start ≤ update → update ≤ stop →
    ∃ state, ServoMachine.stateAt source update = .ok state
  oneWay : ∀ axis signal, OneWay (changes source start stop axis signal)
  within : ∀ base current next, ServoMachine.stateAt source start = .ok base →
    IsStep source start stop current next → ∀ axis, WithinLimits limits base current next axis

variable {source : ServoFiniteDifferenceSegment axes} {limits : ServoSegmentLimits axes}
  {start update stop : Nat} {base current next : ServoFiniteDifferenceState axes}

theorem IsStep.mono {later earlier : Nat} (h : IsStep source start stop current next)
    (hstart : later ≤ start) (hstop : stop ≤ earlier) :
    IsStep source later earlier current next := by
  obtain ⟨update, hle, hlt, hcurrent, hnext⟩ := h
  exact ⟨update, hstart.trans hle, hlt.trans_le hstop, hcurrent, hnext⟩

/-- One more update adds one step. -/
theorem isStep_succ (hle : start ≤ update)
    (hcurrent : ServoMachine.stateAt source update = .ok current)
    (hnext : ServoMachine.stateAt source (update + 1) = .ok next)
    (before after : ServoFiniteDifferenceState axes) :
    IsStep source start (update + 1) before after ↔
      (before = current ∧ after = next) ∨ IsStep source start update before after := by
  constructor
  · intro h
    obtain ⟨reached, hstart, hstop, hbefore, hafter⟩ := h
    by_cases hlast : reached = update
    · subst hlast
      rw [hcurrent] at hbefore
      rw [hnext] at hafter
      exact .inl ⟨(Except.ok.inj hbefore).symm, (Except.ok.inj hafter).symm⟩
    · exact .inr ⟨reached, hstart, by omega, hbefore, hafter⟩
  · intro h
    obtain ⟨rfl, rfl⟩ | h := h
    · exact ⟨update, hle, by omega, hcurrent, hnext⟩
    · exact h.mono (le_refl _) (by omega)

theorem changes_empty (axis : Fin axes) (signal : ServoSignal) :
    changes source start start axis signal = ∅ := by
  refine Set.eq_empty_iff_forall_notMem.2 fun delta h => ?_
  obtain ⟨current, next, ⟨update, hle, hlt, _⟩, _⟩ := h
  omega

theorem changes_succ (hle : start ≤ update)
    (hcurrent : ServoMachine.stateAt source update = .ok current)
    (hnext : ServoMachine.stateAt source (update + 1) = .ok next) (axis : Fin axes)
    (signal : ServoSignal) :
    changes source start (update + 1) axis signal =
      insert (signalDelta current next axis signal) (changes source start update axis signal) := by
  ext delta
  simp only [changes, Set.mem_insert_iff, Set.mem_ofPred_eq, isStep_succ hle hcurrent hnext]
  constructor
  · intro h
    obtain ⟨before, after, ⟨rfl, rfl⟩ | hstep, rfl⟩ := h
    · exact .inl rfl
    · exact .inr ⟨before, after, hstep, rfl⟩
  · intro h
    obtain rfl | ⟨before, after, hstep, rfl⟩ := h
    · exact ⟨current, next, .inl ⟨rfl, rfl⟩, rfl⟩
    · exact ⟨before, after, .inr hstep, rfl⟩

/-- A record that has not begun. -/
theorem Admissible.empty (hbase : ServoMachine.stateAt source start = .ok base) :
    Admissible source limits start start := by
  constructor
  · intro update hle hge
    obtain rfl : start = update := le_antisymm hle hge
    exact ⟨base, hbase⟩
  · intro axis signal
    rw [changes_empty]
    exact .inl fun delta h => h.elim
  · intro _ _ _ _ hstep
    obtain ⟨update, hle, hlt, _⟩ := hstep
    omega

theorem OneWay.mono {deltas fewer : Set Int} (h : OneWay deltas) (hsubset : fewer ⊆ deltas) :
    OneWay fewer :=
  h.imp (fun hup delta hmem => hup delta (hsubset hmem))
    fun hdown delta hmem => hdown delta (hsubset hmem)

theorem changes_subset {later earlier : Nat} (hstart : start ≤ later) (hstop : earlier ≤ stop)
    (axis : Fin axes) (signal : ServoSignal) :
    changes source later earlier axis signal ⊆ changes source start stop axis signal := by
  intro delta h
  obtain ⟨before, after, hstep, rfl⟩ := h
  exact ⟨before, after, hstep.mono hstart hstop, rfl⟩

/-- A record stays admissible when it ends earlier. -/
theorem Admissible.shorter {earlier : Nat} (h : Admissible source limits start stop)
    (hle : earlier ≤ stop) : Admissible source limits start earlier where
  evaluates update hstart hstop := h.evaluates update hstart (hstop.trans hle)
  oneWay axis signal := (h.oneWay axis signal).mono (changes_subset (le_refl _) hle axis signal)
  within base current next hbase hstep :=
    h.within base current next hbase (hstep.mono (le_refl _) hle)

/-- What taking one more step in asks of the step. -/
theorem Admissible.succ_iff (h : Admissible source limits start update) (hle : start ≤ update)
    (hbase : ServoMachine.stateAt source start = .ok base)
    (hcurrent : ServoMachine.stateAt source update = .ok current)
    (hnext : ServoMachine.stateAt source (update + 1) = .ok next) :
    Admissible source limits start (update + 1) ↔
      (∀ axis signal, OneWay (insert (signalDelta current next axis signal)
        (changes source start update axis signal))) ∧
      ∀ axis, WithinLimits limits base current next axis := by
  constructor
  · intro hsucc
    constructor
    · intro axis signal
      rw [← changes_succ hle hcurrent hnext]
      exact hsucc.oneWay axis signal
    · exact hsucc.within base current next hbase ⟨update, hle, by omega, hcurrent, hnext⟩
  · intro hstep
    constructor
    · intro reached hstart hstop
      obtain rfl | hlt := hstop.eq_or_lt
      · exact ⟨next, hnext⟩
      · exact h.evaluates reached hstart (by omega)
    · intro axis signal
      rw [changes_succ hle hcurrent hnext]
      exact hstep.1 axis signal
    · intro base' before after hbase' hafter
      rw [isStep_succ hle hcurrent hnext] at hafter
      obtain ⟨rfl, rfl⟩ | hafter := hafter
      · rw [hbase] at hbase'
        cases hbase'
        exact hstep.2
      · exact h.within base' before after hbase' hafter

/-! ## Cutting a record on the left -/

/-- A position that only rises keeps the order of the updates. -/
theorem position_le {axis : Fin axes} {later : Nat}
    {first last : ServoFiniteDifferenceState axes}
    (heval : ∀ reached, start ≤ reached → reached ≤ stop →
      ∃ state, ServoMachine.stateAt source reached = .ok state)
    (hup : ∀ delta ∈ changes source start stop axis .position, 0 ≤ delta) (hstart : start ≤ update)
    (hle : update ≤ later) (hstop : later ≤ stop)
    (hfirst : ServoMachine.stateAt source update = .ok first)
    (hlast : ServoMachine.stateAt source later = .ok last) :
    (first.position.get axis).toInt ≤ (last.position.get axis).toInt := by
  induction later, hle using Nat.le_induction generalizing last with
  | base =>
    rw [hfirst] at hlast
    cases hlast
    exact le_refl _
  | succ later hle ih =>
    obtain ⟨middle, hmiddle⟩ := heval later (by omega) (by omega)
    have hbefore := ih (by omega) hmiddle
    have hstep := hup _ ⟨middle, last, ⟨later, by omega, by omega, hmiddle, hlast⟩, rfl⟩
    simp only [signalDelta] at hstep
    omega

/-- A position that only falls reverses the order of the updates. -/
theorem le_position {axis : Fin axes} {later : Nat}
    {first last : ServoFiniteDifferenceState axes}
    (heval : ∀ reached, start ≤ reached → reached ≤ stop →
      ∃ state, ServoMachine.stateAt source reached = .ok state)
    (hdown : ∀ delta ∈ changes source start stop axis .position, delta ≤ 0)
    (hstart : start ≤ update) (hle : update ≤ later) (hstop : later ≤ stop)
    (hfirst : ServoMachine.stateAt source update = .ok first)
    (hlast : ServoMachine.stateAt source later = .ok last) :
    (last.position.get axis).toInt ≤ (first.position.get axis).toInt := by
  induction later, hle using Nat.le_induction generalizing last with
  | base =>
    rw [hfirst] at hlast
    cases hlast
    exact le_refl _
  | succ later hle ih =>
    obtain ⟨middle, hmiddle⟩ := heval later (by omega) (by omega)
    have hbefore := ih (by omega) hmiddle
    have hstep := hdown _ ⟨middle, last, ⟨later, by omega, by omega, hmiddle, hlast⟩, rfl⟩
    simp only [signalDelta] at hstep
    omega

/-- A record stays admissible when it begins later: where a position goes one way, it is no farther
from a later beginning. -/
theorem Admissible.suffix {later : Nat} (h : Admissible source limits start stop)
    (hle : start ≤ later) (hlt : later < stop) : Admissible source limits later stop := by
  constructor
  · intro update hstart hstop
    exact h.evaluates update (hle.trans hstart) hstop
  · intro axis signal
    exact (h.oneWay axis signal).mono (changes_subset hle (le_refl _) axis signal)
  · intro base current next hbase hstep axis
    obtain ⟨initial, hinitial⟩ := h.evaluates start (le_refl _) (by omega)
    have hwithin := h.within initial current next hinitial (hstep.mono hle (le_refl _)) axis
    refine ⟨hwithin.rate, le_trans ?_ hwithin.displacement, hwithin.velocity,
      hwithin.quadratureCurrent⟩
    obtain ⟨update, hupdate, hstop, _, hnext⟩ := hstep
    obtain hup | hdown := h.oneWay axis .position
    · have hfirst := position_le h.evaluates hup (le_refl _) hle hlt.le hinitial hbase
      have hlast := position_le h.evaluates hup hle (by omega : later ≤ update + 1) hstop hbase
        hnext
      rw [abs_of_nonneg (by omega), abs_of_nonneg (by omega)]
      omega
    · have hfirst := le_position h.evaluates hdown (le_refl _) hle hlt.le hinitial hbase
      have hlast := le_position h.evaluates hdown hle (by omega : later ≤ update + 1) hstop hbase
        hnext
      rw [abs_of_nonpos (by omega), abs_of_nonpos (by omega)]
      omega

end Admissible

/-! ## One step of the scan -/

section Scan

variable {axes : Nat}

/-- The signs stand for the changes of the record so far. -/
theorem conflictsOn_iff {signs : RetainedSigns axes} {deltas : Fin axes → ServoSignal → Set Int}
    (hsigns : ∀ axis signal, Retained (signs axis signal) (deltas axis signal))
    {current next : ServoFiniteDifferenceState axes} {axis : Fin axes} :
    conflictsOn signs current next axis = true ↔
      ∃ signal, ¬ OneWay (insert (signalDelta current next axis signal) (deltas axis signal)) := by
  unfold conflictsOn
  rw [Bool.or_eq_true, Bool.or_eq_true, (hsigns axis _).conflicts_iff,
    (hsigns axis _).conflicts_iff, (hsigns axis _).conflicts_iff]
  constructor
  · intro h
    obtain (h | h) | h := h
    · exact ⟨_, h⟩
    · exact ⟨_, h⟩
    · exact ⟨_, h⟩
  · intro h
    obtain ⟨signal, h⟩ := h
    cases signal with
    | position => exact .inl (.inl h)
    | velocityFeedForward => exact .inl (.inr h)
    | quadratureCurrentFeedForward => exact .inr h

/-- Nothing conflicts with the signs of a record that has not begun. -/
theorem conflictsOn_zero (current next : ServoFiniteDifferenceState axes) (axis : Fin axes) :
    conflictsOn (fun _ _ => 0) current next axis = false := by
  simp [conflictsOn, signConflicts]

variable {limits : ServoSegmentLimits axes} {base current next : ServoFiniteDifferenceState axes}

/-- The first step of a record ends the scan on the first axis that it violates. -/
theorem scanAxes_first (remaining : List (Fin axes)) :
    scanAxes limits (fun _ _ => 0) base current next true false remaining =
      (remaining.find? (exceedsLimits limits base current next)).elim (.ok false) .error := by
  induction remaining with
  | nil => rfl
  | cons axis remaining ih =>
    unfold scanAxes
    simp only [conflictsOn_zero, Bool.or_self, Bool.not_true, Bool.and_false, Bool.false_eq_true,
      if_false, if_true, List.find?_cons]
    cases exceedsLimits limits base current next axis with
    | true => rfl
    | false => exact ih

/-- A later step conflicts on the axes that turn or leave their limits. -/
theorem scanAxes_later (signs : RetainedSigns axes) (remaining : List (Fin axes)) :
    scanAxes limits signs base current next false false remaining =
      .ok (remaining.any fun axis =>
        conflictsOn signs current next axis || exceedsLimits limits base current next axis) := by
  induction remaining with
  | nil => rfl
  | cons axis remaining ih =>
    unfold scanAxes
    simp only [Bool.false_or, Bool.not_false, Bool.and_true, List.any_cons, Bool.false_eq_true,
      if_false]
    cases conflictsOn signs current next axis with
    | true => rfl
    | false =>
      cases exceedsLimits limits base current next axis with
      | true => rfl
      | false => exact ih

/-- The signs after a step stand for the changes with the step. -/
theorem retainSigns_retained {signs : RetainedSigns axes}
    {deltas : Fin axes → ServoSignal → Set Int}
    (hsigns : ∀ axis signal, Retained (signs axis signal) (deltas axis signal))
    (hone : ∀ axis signal,
      OneWay (insert (signalDelta current next axis signal) (deltas axis signal)))
    (axis : Fin axes) (signal : ServoSignal) :
    Retained (retainSigns signs current next axis signal)
      (insert (signalDelta current next axis signal) (deltas axis signal)) :=
  (hsigns axis signal).insert (hone axis signal)

end Scan

/-! ## The scan for the end of a record -/

section Outcome

variable {axes : Nat} {ε : Type} [ServoMachine axes ε]

/-- The first step of a record violates the limits of an axis, and of no earlier one. -/
def FirstViolation (source : ServoFiniteDifferenceSegment axes) (limits : ServoSegmentLimits axes)
    (start : Nat) (axis : Fin axes) : Prop :=
  ∃ base next, ServoMachine.stateAt source start = .ok base ∧
    ServoMachine.stateAt source (start + 1) = .ok next ∧
    ¬ WithinLimits limits base base next axis ∧
    ∀ earlier < axis, WithinLimits limits base base next earlier

/-- How the scan from `start` to `cap` ends: at the largest end, with a violation of the first step,
or at a state that does not evaluate after admissible ones. -/
inductive ScanOutcome (source : ServoFiniteDifferenceSegment axes)
    (limits : ServoSegmentLimits axes) (span start cap : Nat) :
    Except (ServoMotionError ε) Nat → Prop
  | stopped {stop : Nat} (forward : start < stop) (within : stop ≤ cap)
      (admissible : Admissible source limits start stop)
      (largest : stop = cap ∨ ¬ Admissible source limits start (stop + 1)) :
      ScanOutcome source limits span start cap (.ok stop)
  | violated {axis : Fin axes} (violation : FirstViolation source limits start axis) :
      ScanOutcome source limits span start cap (.error (.hardwareLimit span axis))
  | unevaluated {update : Nat} {error : ε} (forward : start ≤ update) (within : update ≤ cap)
      (failure : ServoMachine.stateAt source update = .error error)
      (admissible : ∀ stop, start ≤ stop → stop < update → Admissible source limits start stop) :
      ScanOutcome source limits span start cap (.error (.machine span error))

variable {source : ServoFiniteDifferenceSegment axes} {limits : ServoSegmentLimits axes}
  {start span : Nat} {base : ServoFiniteDifferenceState axes}

/-- One pass over the axes finds out whether the record can take the step in. -/
theorem scanAxes_step {signs : RetainedSigns axes} {update : Nat}
    {current next : ServoFiniteDifferenceState axes} (hle : start ≤ update)
    (hbase : ServoMachine.stateAt source start = .ok base)
    (hcurrent : ServoMachine.stateAt source update = .ok current)
    (hnext : ServoMachine.stateAt source (update + 1) = .ok next)
    (hadmissible : Admissible source limits start update)
    (hsigns : ∀ axis signal,
      Retained (signs axis signal) (changes source start update axis signal)) :
    (∃ axis, scanAxes limits signs base current next (update = start) false (List.finRange axes) =
        .error axis ∧ update = start ∧ FirstViolation source limits start axis) ∨
      (scanAxes limits signs base current next (update = start) false (List.finRange axes) =
        .ok true ∧ start < update ∧ ¬ Admissible source limits start (update + 1)) ∨
      (scanAxes limits signs base current next (update = start) false (List.finRange axes) =
        .ok false ∧ Admissible source limits start (update + 1)) := by
  have hsucc := hadmissible.succ_iff hle hbase hcurrent hnext
  by_cases hfirst : update = start
  · subst hfirst
    rw [hbase] at hcurrent
    cases hcurrent
    have hzero : signs = fun _ _ => 0 := by
      funext axis signal
      have hsign := hsigns axis signal
      rwa [changes_empty, retained_empty] at hsign
    subst hzero
    rw [decide_eq_true rfl, scanAxes_first]
    cases hfind : (List.finRange axes).find? (exceedsLimits limits base base next) with
    | some axis =>
      rw [List.find?_eq_some_iff_getElem] at hfind
      obtain ⟨hexceeds, index, hindex, rfl, hearlier⟩ := hfind
      refine .inl ⟨_, rfl, rfl, base, next, hbase, hnext, exceedsLimits_iff.1 hexceeds, ?_⟩
      intro earlier hlt
      rw [List.getElem_finRange] at hlt
      have hkept := hearlier earlier.val hlt
      rw [List.getElem_finRange] at hkept
      rwa [Bool.not_eq_true', ← Bool.not_eq_true, exceedsLimits_iff, not_not] at hkept
    | none =>
      rw [List.find?_eq_none] at hfind
      refine .inr (.inr ⟨rfl, hsucc.2 ⟨fun axis signal => ?_, fun axis => ?_⟩⟩)
      · rw [changes_empty, OneWay, Set.forall_mem_insert, Set.forall_mem_insert]
        exact (le_total 0 _).imp (⟨·, fun _ h => h.elim⟩) (⟨·, fun _ h => h.elim⟩)
      · have hkept := hfind axis (List.mem_finRange axis)
        rwa [exceedsLimits_iff, not_not] at hkept
  · rw [decide_eq_false hfirst, scanAxes_later]
    cases hany : (List.finRange axes).any fun axis =>
        conflictsOn signs current next axis || exceedsLimits limits base current next axis with
    | true =>
      refine .inr (.inl ⟨rfl, by omega, ?_⟩)
      rw [hsucc, not_and_or]
      obtain ⟨axis, _, haxis⟩ := List.any_eq_true.1 hany
      rw [Bool.or_eq_true, conflictsOn_iff hsigns, exceedsLimits_iff] at haxis
      obtain ⟨signal, hconflict⟩ | hexceeds := haxis
      · exact .inl fun hall => hconflict (hall axis signal)
      · exact .inr fun hall => hexceeds (hall axis)
    | false =>
      refine .inr (.inr ⟨rfl, hsucc.2 ?_⟩)
      rw [List.any_eq_false] at hany
      have hkept : ∀ axis, (¬ ∃ signal, ¬ OneWay (insert (signalDelta current next axis signal)
          (changes source start update axis signal))) ∧
          WithinLimits limits base current next axis := by
        intro axis
        have haxis := hany axis (List.mem_finRange axis)
        rwa [Bool.or_eq_true, conflictsOn_iff hsigns, exceedsLimits_iff, not_or, not_not] at haxis
      exact ⟨fun axis signal => not_not.1 (not_exists.1 (hkept axis).1 signal),
        fun axis => (hkept axis).2⟩

/-- The update loop ends in one of the three ways. -/
theorem scanUpdates_outcome (hbase : ServoMachine.stateAt source start = .ok base) (updates : Nat)
    {update : Nat} {signs : RetainedSigns axes} (hle : start ≤ update)
    (hlt : start < update + updates) (hadmissible : Admissible source limits start update)
    (hsigns : ∀ axis signal,
      Retained (signs axis signal) (changes source start update axis signal)) :
    ScanOutcome source limits span start (update + updates)
      (scanUpdates source limits base start span updates update signs) := by
  -- the record so far is admissible, and the signs stand for its changes
  induction updates generalizing update signs with
  | zero => exact .stopped hlt (le_refl _) hadmissible (.inl rfl)
  | succ updates ih =>
    obtain ⟨current, hcurrent⟩ := hadmissible.evaluates update hle (le_refl _)
    cases hnext : ServoMachine.stateAt source (update + 1) with
    | error error =>
      have hscan : scanUpdates source limits base start span (updates + 1) update signs =
          .error (.machine span error) := by
        unfold scanUpdates stateAt
        rw [hcurrent, hnext]
        rfl
      rw [hscan]
      have hforward : start ≤ update + 1 := by omega
      exact .unevaluated hforward (by omega) hnext fun stop _ hstop =>
        hadmissible.shorter (Nat.le_of_lt_succ hstop)
    | ok next =>
      have hscan : scanUpdates source limits base start span (updates + 1) update signs =
          ((scanAxes limits signs base current next (update = start) false
            (List.finRange axes)).mapError fun (axis : Fin axes) =>
              .hardwareLimit span axis.val) >>= fun conflict =>
            if conflict && update > start then .ok update
            else scanUpdates source limits base start span updates (update + 1)
              (retainSigns signs current next) := by
        conv_lhs => unfold scanUpdates stateAt
        rw [hcurrent, hnext]
        rfl
      rw [hscan]
      obtain ⟨axis, hstep, rfl, hviolation⟩ | ⟨hstep, hforward, hlargest⟩ | ⟨hstep, hsucc⟩ :=
        scanAxes_step hle hbase hcurrent hnext hadmissible hsigns
      · rw [hstep]
        exact .violated hviolation
      · rw [hstep]
        have hstop : (if (true && decide (update > start)) = true then
            (Except.ok update : Except (ServoMotionError ε) Nat)
            else scanUpdates source limits base start span updates (update + 1)
              (retainSigns signs current next)) = .ok update := by
          rw [if_pos (by simpa using hforward)]
        have hend : ScanOutcome source limits span start (update + (updates + 1)) (.ok update) :=
          .stopped hforward (by omega) hadmissible (.inr hlargest)
        rw [← hstop] at hend
        exact hend
      · rw [hstep]
        have hone := ((hadmissible.succ_iff hle hbase hcurrent hnext).1 hsucc).1
        have hretained : ∀ axis signal, Retained (retainSigns signs current next axis signal)
            (changes source start (update + 1) axis signal) := by
          intro axis signal
          rw [changes_succ hle hcurrent hnext]
          exact retainSigns_retained hsigns hone axis signal
        have hrest := ih (by omega : start ≤ update + 1) (by omega) hsucc hretained
        rw [show update + (updates + 1) = update + 1 + updates by omega]
        exact hrest

variable {maximumUpdates : UInt32}

/-- The scan for the end of a record, from an update before the last one. -/
theorem findRecordEnd_outcome (hstart : start < source.updateCount.toNat)
    (hpositive : 0 < maximumUpdates.toNat) :
    ScanOutcome source limits span start
      (min (start + maximumUpdates.toNat) source.updateCount.toNat)
      (findRecordEnd source start maximumUpdates limits span) := by
  have hcount := source.updateCount.toNat_lt
  have hcap : min (min (start + maximumUpdates.toNat) (2 ^ 32 - 1)) source.updateCount.toNat =
      min (start + maximumUpdates.toNat) source.updateCount.toNat := by
    rw [min_assoc, min_eq_right (by omega : source.updateCount.toNat ≤ 2 ^ 32 - 1)]
  unfold findRecordEnd
  rw [hcap]
  cases hbase : ServoMachine.stateAt source start with
  | error error =>
    have hstate : stateAt source start span = .error (.machine span error) := by
      unfold stateAt
      rw [hbase]
      rfl
    rw [hstate]
    exact .unevaluated (le_refl _) (by omega) hbase fun stop hle hlt => by omega
  | ok base =>
    have hstate : stateAt source start span = .ok base := by
      unfold stateAt
      rw [hbase]
      rfl
    have hsigns : ∀ axis signal, Retained ((fun _ _ => 0 : RetainedSigns axes) axis signal)
        (changes source start start axis signal) := by
      intro axis signal
      rw [changes_empty, retained_empty]
    have hscan : ScanOutcome source limits span start _ _ := scanUpdates_outcome hbase
      (min (start + maximumUpdates.toNat) source.updateCount.toNat - start) (le_refl start)
      (by omega) (Admissible.empty hbase) hsigns
    rw [Nat.add_sub_of_le (by omega)] at hscan
    rw [hstate, Except.bind_of_ok rfl]
    generalize scanUpdates source limits base start span _ start _ = result at hscan ⊢
    cases hscan with
    | stopped forward within admissible largest =>
      rename_i stop
      have hmoved : Except.failIf (stop = start) (ServoMotionError.hardwareLimit (ε := ε) span 0) =
          .ok () := Except.failIf_of_not forward.ne'
      rw [Except.bind_of_ok rfl, hmoved]
      exact .stopped forward within admissible largest
    | violated violation => exact .violated violation
    | unevaluated forward within failure admissible =>
      exact .unevaluated forward within failure admissible

/-- The ends that the hardware allows for the record from an update on. -/
def recordEnds (source : ServoFiniteDifferenceSegment axes) (limits : ServoSegmentLimits axes)
    (maximumUpdates : UInt32) (start : Nat) : Set Nat :=
  {stop | start < stop ∧ stop ≤ min (start + maximumUpdates.toNat) source.updateCount.toNat ∧
    Admissible source limits start stop}

/-- An end that the scan returns is the largest that the hardware allows. -/
theorem isGreatest_of_findRecordEnd (hstart : start < source.updateCount.toNat)
    (hpositive : 0 < maximumUpdates.toNat) {stop : Nat}
    (h : findRecordEnd source start maximumUpdates limits span = .ok stop) :
    IsGreatest (recordEnds source limits maximumUpdates start) stop := by
  have houtcome : ScanOutcome source limits span start _
      (findRecordEnd source start maximumUpdates limits span) :=
    findRecordEnd_outcome hstart hpositive
  rw [h] at houtcome
  cases houtcome with
  | stopped forward within admissible largest =>
    refine ⟨⟨forward, within, admissible⟩, fun other hother => ?_⟩
    obtain ⟨_, hcap, hadmissible⟩ := hother
    obtain rfl | hblocked := largest
    · exact hcap
    · exact not_lt.1 fun hlt => hblocked (hadmissible.shorter hlt)

/-- The limits of one step do not both hold and fail. -/
theorem FirstViolation.not_admissible {axis : Fin axes} {stop : Nat}
    (h : FirstViolation source limits start axis) (hlt : start < stop) :
    ¬ Admissible source limits start stop := by
  intro hadmissible
  obtain ⟨base, next, hbase, hnext, hviolated, _⟩ := h
  exact hviolated (hadmissible.within base base next hbase
    ⟨start, le_refl _, hlt, hbase, hnext⟩ axis)

theorem FirstViolation.unique {axis other : Fin axes}
    (h : FirstViolation source limits start axis)
    (hother : FirstViolation source limits start other) : axis = other := by
  obtain ⟨base, next, hbase, hnext, hviolated, hearlier⟩ := h
  obtain ⟨base', next', hbase', hnext', hviolated', hearlier'⟩ := hother
  rw [hbase] at hbase'
  rw [hnext] at hnext'
  cases hbase'
  cases hnext'
  obtain hlt | heq | hlt := lt_trichotomy axis other
  · exact absurd (hearlier' axis hlt) hviolated
  · exact heq
  · exact absurd (hearlier other hlt) hviolated'

/-- The scan blames an axis exactly when the first step violates its limits. -/
theorem findRecordEnd_hardwareLimit (hstart : start < source.updateCount.toNat)
    (hpositive : 0 < maximumUpdates.toNat) (axis : Fin axes) :
    findRecordEnd source start maximumUpdates limits span = .error (.hardwareLimit span axis) ↔
      FirstViolation source limits start axis := by
  have houtcome : ScanOutcome source limits span start _
      (findRecordEnd source start maximumUpdates limits span) :=
    findRecordEnd_outcome hstart hpositive
  generalize findRecordEnd source start maximumUpdates limits span = result at houtcome ⊢
  constructor
  · intro h
    subst h
    generalize haxis : axis.val = number at houtcome
    cases houtcome with
    | violated violation =>
      rwa [Fin.val_injective haxis]
  · intro h
    cases houtcome with
    | stopped forward within admissible largest =>
      exact absurd admissible (h.not_admissible forward)
    | violated violation => rw [h.unique violation]
    | @unevaluated update error forward within failure admissible =>
      -- the first step evaluates, and no record that takes it in is admissible
      by_cases hfar : start + 1 < update
      · exact absurd (admissible (start + 1) (by omega) hfar) (h.not_admissible (by omega))
      · obtain ⟨base, next, hbase, hnext, _⟩ := h
        obtain rfl | rfl : update = start ∨ update = start + 1 := by omega
        · rw [hbase] at failure
          cases failure
        · rw [hnext] at failure
          cases failure

/-- A rejection blames an axis of the first step, or names a state that does not evaluate. -/
theorem findRecordEnd_error (hstart : start < source.updateCount.toNat)
    (hpositive : 0 < maximumUpdates.toNat) {error : ServoMotionError ε}
    (h : findRecordEnd source start maximumUpdates limits span = .error error) :
    (∃ axis : Fin axes, error = .hardwareLimit span axis) ∨
      ∃ update cause, start ≤ update ∧
        update ≤ min (start + maximumUpdates.toNat) source.updateCount.toNat ∧
        ServoMachine.stateAt source update = .error cause ∧ error = .machine span cause := by
  have houtcome : ScanOutcome source limits span start _
      (findRecordEnd source start maximumUpdates limits span) :=
    findRecordEnd_outcome hstart hpositive
  rw [h] at houtcome
  cases houtcome with
  | @violated axis violation => exact .inl ⟨axis, rfl⟩
  | unevaluated forward within failure admissible =>
    exact .inr ⟨_, _, forward, within, failure, rfl⟩

/-- The largest end is the one returned, where the states up to the cap evaluate. -/
theorem findRecordEnd_of_isGreatest (hstart : start < source.updateCount.toNat)
    (hpositive : 0 < maximumUpdates.toNat)
    (hevaluates : ∀ update, start ≤ update →
      update ≤ min (start + maximumUpdates.toNat) source.updateCount.toNat →
      ∃ state, ServoMachine.stateAt source update = .ok state) {stop : Nat}
    (h : IsGreatest (recordEnds source limits maximumUpdates start) stop) :
    findRecordEnd source start maximumUpdates limits span = .ok stop := by
  have houtcome : ScanOutcome source limits span start _
      (findRecordEnd source start maximumUpdates limits span) :=
    findRecordEnd_outcome hstart hpositive
  cases hresult : findRecordEnd source start maximumUpdates limits span with
  | ok other =>
    rw [h.unique (isGreatest_of_findRecordEnd hstart hpositive hresult)]
  | error error =>
    rw [hresult] at houtcome
    cases houtcome with
    | violated violation => exact absurd h.1.2.2 (violation.not_admissible h.1.1)
    | unevaluated forward within failure admissible =>
      obtain ⟨state, hstate⟩ := hevaluates _ forward within
      rw [hstate] at failure
      cases failure

end Outcome

/-! ## The splitting loop -/

section Loop

variable {axes : Nat} {ε : Type} [ServoMachine axes ε]

/-- A record that the loop may emit. -/
def RecordPiece (source : ServoFiniteDifferenceSegment axes) (policy : SplitPolicy axes)
    (start stop : Nat) : Prop :=
  stop ≤ start + policy.maximumRecordUpdates.toNat ∧ Admissible source policy.limits start stop

/-- The updates at which records end, one after the other. -/
def endsFrom (start : Nat) : List (ServoFiniteDifferenceSegment axes) → List Nat
  | [] => []
  | record :: records =>
    (start + record.updateCount.toNat) :: endsFrom (start + record.updateCount.toNat) records

theorem length_endsFrom (start : Nat) (records : List (ServoFiniteDifferenceSegment axes)) :
    (endsFrom start records).length = records.length := by
  induction records generalizing start with
  | nil => rfl
  | cons record records ih => exact congrArg (· + 1) (ih _)

variable {source : ServoFiniteDifferenceSegment axes} {policy : SplitPolicy axes} {span : Nat}
  {state state' : SplitState axes}

theorem RecordPiece.suffix {start later stop : Nat} (h : RecordPiece source policy start stop)
    (hle : start ≤ later) (hlt : later < stop) : RecordPiece source policy later stop :=
  ⟨h.1.trans (by omega), h.2.suffix hle hlt⟩

/-- One pass emits the largest record from the cursor on. -/
theorem splitRecord_ok (hcursor : state.sourceCursor < source.updateCount.toNat)
    (h : splitRecord source policy span state = .ok state') :
    ∃ record, state'.records = state.records ++ [record] ∧
      state'.sourceCursor = state.sourceCursor + record.updateCount.toNat ∧
      IsGreatest (recordEnds source policy.limits policy.maximumRecordUpdates state.sourceCursor)
        state'.sourceCursor := by
  simp only [splitRecord, Except.bind_eq_ok, Except.failIf_eq_ok, Except.exists_unit,
    Except.pure_eq_ok] at h
  obtain ⟨_, stop, hstop, _, _, shifted, _, summary, _, rfl⟩ := h
  have hgreatest := isGreatest_of_findRecordEnd hcursor policy.positive hstop
  refine ⟨_, rfl, ?_, hgreatest⟩
  obtain ⟨hforward, hcap, _⟩ := hgreatest.1
  have hcount := source.updateCount.toNat_lt
  simp only [UInt32.toNat_ofNat']
  rw [Nat.mod_eq_of_lt (by omega)]
  omega

/-- The loop splits greedily, given a pass for every update left. -/
theorem splitLoop_greedy (passes : Nat) (hcursor : state.sourceCursor ≤ source.updateCount.toNat)
    (hpasses : source.updateCount.toNat ≤ state.sourceCursor + passes)
    (h : splitLoop source policy span passes state = .ok state') :
    ∃ emitted, state'.records = state.records ++ emitted ∧
      Greedy (RecordPiece source policy) source.updateCount.toNat state.sourceCursor
        (endsFrom state.sourceCursor emitted) := by
  induction passes generalizing state with
  | zero =>
    rw [splitLoop] at h
    obtain rfl : state = state' := Except.ok.inj h
    have hdone : state.sourceCursor = source.updateCount.toNat := by omega
    refine ⟨[], (List.append_nil _).symm, ?_⟩
    rw [hdone]
    exact .nil
  | succ passes ih =>
    rw [splitLoop] at h
    by_cases hlt : state.sourceCursor < source.updateCount.toNat
    · rw [if_pos hlt, Except.bind_eq_ok] at h
      obtain ⟨middle, hrecord, hrest⟩ := h
      obtain ⟨record, hrecords, hmiddle, hgreatest⟩ := splitRecord_ok hlt hrecord
      obtain ⟨hforward, hcap, hadmissible⟩ := hgreatest.1
      obtain ⟨emitted, hemitted, hgreedy⟩ := ih (by omega) (by omega) hrest
      refine ⟨record :: emitted, by rw [hemitted, hrecords, List.append_assoc]; rfl, ?_⟩
      rw [hmiddle] at hgreedy hforward hadmissible hgreatest hcap
      refine .cons hforward ⟨by omega, hadmissible⟩ (fun other hother hpiece => ?_) hgreedy
      by_cases hbehind : other ≤ state.sourceCursor
      · omega
      · exact hgreatest.2 ⟨by omega, le_min hpiece.1 hother, hpiece.2⟩
    · rw [if_neg hlt] at h
      obtain rfl : state = state' := Except.ok.inj h
      have hdone : state.sourceCursor = source.updateCount.toNat := by omega
      refine ⟨[], (List.append_nil _).symm, ?_⟩
      rw [hdone]
      exact .nil

/-- The records of a span are greedy pieces of it. -/
theorem splitSpan_greedy {nextTick : Nat} {expectedState : ServoFiniteDifferenceState axes}
    {records : List (ServoFiniteDifferenceSegment axes)}
    (h : splitSpan source policy span nextTick expectedState records = .ok state') :
    ∃ emitted, state'.records = records ++ emitted ∧
      Greedy (RecordPiece source policy) source.updateCount.toNat 0 (endsFrom 0 emitted) := by
  simp only [splitSpan, Except.bind_eq_ok, Except.failIf_eq_ok, Except.exists_unit,
    Except.pure_eq_ok] at h
  obtain ⟨state, hloop, _, _, _, rfl⟩ := h
  exact splitLoop_greedy _ (Nat.zero_le _) (by omega) hloop

end Loop

/-! ## The split of a span -/

/-- The scan returns the largest end that the hardware allows: an end that it returns is the
largest, and the largest is returned where the states up to the cap evaluate. It blames an axis
exactly when the first step violates the limits of that axis and of no earlier one, and any other
rejection names a state that does not evaluate. So a span is split into the fewest records. -/
theorem servoRecordSplitting {axes : Nat} {ε : Type} [ServoMachine axes ε]
    (source : ServoFiniteDifferenceSegment axes) (span : Nat) :
    (∀ (limits : ServoSegmentLimits axes) (maximumUpdates : UInt32) (start : Nat),
      start < source.updateCount.toNat → 0 < maximumUpdates.toNat →
      (∀ stop, findRecordEnd source start maximumUpdates limits span = .ok stop →
        IsGreatest (recordEnds source limits maximumUpdates start) stop) ∧
      ((∀ update, start ≤ update →
          update ≤ min (start + maximumUpdates.toNat) source.updateCount.toNat →
          ∃ state, ServoMachine.stateAt source update = .ok state) →
        ∀ stop, IsGreatest (recordEnds source limits maximumUpdates start) stop →
          findRecordEnd source start maximumUpdates limits span = .ok stop) ∧
      (∀ axis : Fin axes,
        findRecordEnd source start maximumUpdates limits span =
          .error (.hardwareLimit span axis) ↔ FirstViolation source limits start axis) ∧
      (∀ error, findRecordEnd source start maximumUpdates limits span = .error error →
        (∃ axis : Fin axes, error = .hardwareLimit span axis) ∨
          ∃ update cause, start ≤ update ∧
            update ≤ min (start + maximumUpdates.toNat) source.updateCount.toNat ∧
            ServoMachine.stateAt source update = .error cause ∧ error = .machine span cause)) ∧
    ∀ (policy : SplitPolicy axes) (nextTick : Nat) (expectedState : ServoFiniteDifferenceState axes)
      (records : List (ServoFiniteDifferenceSegment axes)) (state : SplitState axes),
      splitSpan source policy span nextTick expectedState records = .ok state →
      ∃ emitted, state.records = records ++ emitted ∧
        Split (RecordPiece source policy) source.updateCount.toNat 0 (endsFrom 0 emitted) ∧
        ∀ ends, Split (RecordPiece source policy) source.updateCount.toNat 0 ends →
          emitted.length ≤ ends.length := by
  constructor
  · intro limits maximumUpdates start hstart hpositive
    exact ⟨fun stop => isGreatest_of_findRecordEnd hstart hpositive,
      fun hevaluates stop => findRecordEnd_of_isGreatest hstart hpositive hevaluates,
      findRecordEnd_hardwareLimit hstart hpositive,
      fun error => findRecordEnd_error hstart hpositive⟩
  · intro policy nextTick expectedState records state h
    obtain ⟨emitted, hrecords, hgreedy⟩ := splitSpan_greedy h
    refine ⟨emitted, hrecords, hgreedy.split, fun ends hends => ?_⟩
    have hlength := hgreedy.length_le RecordPiece.suffix hends
    rwa [length_endsFrom] at hlength

/-! ## A sample span -/

/-- The value of a cubic recurrence at an update. -/
def newtonForward (initial first second third : Int) (update : Nat) : Int :=
  initial + update * first + update.choose 2 * second + update.choose 3 * third

/-- A machine of one axis that evaluates the recurrences, and rejects values that do not fit. -/
def newtonStateAt (source : ServoFiniteDifferenceSegment 1) (update : Nat) :
    Except String (ServoFiniteDifferenceState 1) := do
  Except.failIf (update > source.updateCount.toNat) "update"
  let axis := source.axes.get 0
  let position ← (toI64 (newtonForward axis.position.initialPosition.toInt
    axis.position.firstDifference.toInt axis.position.secondDifference.toInt
    axis.position.thirdDifference.toInt update)).okOr "position"
  let feedForward (signal : ServoQ30FiniteDifferenceAxis) : Except String Int32 :=
    (toI32 (newtonForward signal.initialValue.toInt signal.firstDifference.toInt
      signal.secondDifference.toInt signal.thirdDifference.toInt update)).okOr "feed-forward"
  let velocity ← feedForward axis.velocityFeedForward
  let current ← feedForward axis.quadratureCurrentFeedForward
  return ⟨#v[position], #v[velocity], #v[current]⟩

local instance : ServoMachine 1 String where
  stateAt := newtonStateAt
  validate segment startTick initial _ := do
    let first ← newtonStateAt segment 0
    Except.failIf (segment.startTick ≠ startTick ∨ first ≠ initial) "continuity"
    let terminal ← newtonStateAt segment segment.updateCount.toNat
    return ⟨terminal, segment.endTick⟩

/-- Positions 0, 4, 6, 6, 4: rising, still, and then falling. -/
def archSpan : ServoFiniteDifferenceSegment 1 where
  startTick := 0
  endTick := 400
  updatePeriodTicks := 100
  updateCount := 4
  axes := #v[⟨⟨0, 4, -2, 0⟩, ⟨0, 0, 0, 0⟩, ⟨0, 0, 0, 0⟩⟩]
  flags := 0

def archLimits : ServoSegmentLimits 1 := ⟨#v[10], #v[4], #v[0], #v[0]⟩

def archPolicy : SplitPolicy 1 := ⟨4, 8, archLimits, by decide⟩

/-- The still step goes to the rising record, and the falling step is a record of its own. -/
theorem servoRecordSplitting_arch :
    IsGreatest (recordEnds archSpan archLimits 8 0) 3 ∧
      ∀ ends, Split (RecordPiece archSpan archPolicy) 4 0 ends → 2 ≤ ends.length := by
  have harch := servoRecordSplitting archSpan 0
  constructor
  · exact (harch.1 archLimits 8 0 (by decide) (by decide)).1 3 (by decide +kernel)
  · intro ends hends
    have hrun : (splitSpan archSpan archPolicy 0 0 ⟨#v[0], #v[0], #v[0]⟩ []).toOption.map
        (·.records.length) = some 2 := by decide +kernel
    obtain ⟨state, hstate, hcount⟩ := Option.map_eq_some_iff.1 hrun
    obtain ⟨emitted, hrecords, _, hfewest⟩ :=
      harch.2 archPolicy 0 _ [] state (Except.toOption_eq_some.1 hstate)
    rw [hrecords, List.nil_append] at hcount
    rw [← hcount]
    exact hfewest ends hends

end Alumina.Motion
