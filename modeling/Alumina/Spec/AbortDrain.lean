import Alumina.Spec.StartSafety

/-!
# Draining an abort

With the abort intent `nextRequest` walks the participants in order, skips those with a
request pending and stops at the first one it has a request for. It also stops, with an
error, at a participant in a phase the abort does not expect, and stops there again at every
later call. So an abort reaches a participant exactly when no participant before it is stuck.

## Key results

- `drain_nodup`: a drain emits at most one request per participant
- `abort_reaches`: without a stuck participant in front the abort is emitted
- `not_reached`: behind a stuck participant nothing is emitted
- `abortDrain`: the two directions for every reachable coordinator
- `abortDrain_fails`: a foreign commit on one device keeps the abort from another
-/

namespace Alumina.Client

/-- What the job crate promises: an encodable commit can be aborted, and the preparation of
a valid descriptor can be cancelled. -/
structure JobWire.Stoppable [JobWire] : Prop where
  abort : ∀ commit body, JobWire.encodeCommit commit = .ok body →
    ∃ reference, JobWire.encodeReference .abort commit = .ok reference
  cancel : ∀ axes descriptor, JobWire.validateDescriptor axes descriptor = .ok () →
    ∃ body, JobWire.encodeCancel descriptor.prepareId = .ok body

/-! ## Participants -/

namespace ParticipantCoordinator

/-- A participant the abort intent has no answer for: nothing is pending or to reconcile,
and its phase does not go with whether it has a commit. -/
def Stuck (participant : ParticipantCoordinator) : Prop :=
  participant.control.Idle ∧
    (participant.control.commit = none ∧
        participant.phase ∉ [.empty, .cancelled, .preparing, .ready, .faulted] ∨
      participant.control.commit.isSome ∧
        participant.phase ∈ [.empty, .preparing, .ready, .cancelled])

instance (participant : ParticipantCoordinator) : Decidable participant.Stuck :=
  inferInstanceAs (Decidable ((_ ∧ _) ∧ _))

/-- A participant whose installed schedule the abort intent aborts next. -/
def Abortable (participant : ParticipantCoordinator) : Prop :=
  participant.control.Idle ∧ participant.control.commit.isSome ∧
    participant.phase ∈ [.installing, .installed, .confirmed]

instance (participant : ParticipantCoordinator) : Decidable participant.Abortable :=
  inferInstanceAs (Decidable ((_ ∧ _) ∧ _))

end ParticipantCoordinator

/-- The descriptor is valid and a bound commit can be encoded. -/
def ParticipantScheduleMachine.Representable [JobWire] {axes : Nat}
    (machine : ParticipantScheduleMachine axes) : Prop :=
  JobWire.validateDescriptor axes machine.descriptor = .ok () ∧
    ∀ commit, machine.commit = some commit → ∃ body, JobWire.encodeCommit commit = .ok body

namespace DistributedScheduleCoordinator

section Runs

variable [JobWire] [ClockEstimation]

variable {s t : DistributedScheduleCoordinator} {participant : ParticipantCoordinator}
  {operation : ScheduleOperation} {control : ParticipantScheduleMachine jobAxes}

/-- What the request loop does with a participant under the abort intent. -/
abbrev abortOperation : ParticipantCoordinator → DistributedResult Asked :=
  nextOperation .abort false

theorem abortOperation_of_idle (h : participant.control.Idle) :
    abortOperation participant = nextAbortOperation participant := by
  simp [abortOperation, nextOperation, h.1, h.2, intendedOperation]

theorem abortOperation_of_stuck (h : participant.Stuck) :
    abortOperation participant = .error .participantState := by
  obtain ⟨hidle, hphase⟩ := h
  rw [abortOperation_of_idle hidle, nextAbortOperation]
  rcases hphase with ⟨hcommit, hphase⟩ | ⟨hcommit, hphase⟩
  · rw [hcommit]
    cases hcase : participant.phase <;> simp [hcase] at hphase <;> rfl
  · obtain ⟨commit, hcommit⟩ := Option.isSome_iff_exists.1 hcommit
    rw [hcommit]
    cases hcase : participant.phase <;> simp [hcase] at hphase <;> rfl

/-- An abortable participant is asked to abort. -/
theorem abortOperation_of_abortable (wire : JobWire.Stoppable)
    (hcontrol : participant.control.Representable) (h : participant.Abortable) :
    ∃ operation control, abortOperation participant = .ok (some (operation, control)) ∧
      operation.operation = .jobAbort := by
  obtain ⟨hidle, hcommit, hphase⟩ := h
  obtain ⟨commit, hcommit⟩ := Option.isSome_iff_exists.1 hcommit
  obtain ⟨body, hbody⟩ := hcontrol.2 commit hcommit
  obtain ⟨reference, hreference⟩ := wire.abort commit body hbody
  have hallowed := ParticipantScheduleMachine.ensureMutationAllowed_eq_ok.2 hidle
  have hmember : participant.control.phase ∈ [.installing, .installed, .confirmed] := hphase
  have habort : participant.control.beginAbort = .ok (⟨.jobAbort, reference⟩,
      { participant.control with pending := some .abort }) := by
    simp [ParticipantScheduleMachine.beginAbort, hallowed, hmember, hcommit, hreference]
  have hasked : nextAbortOperation participant = ask participant.control.beginAbort := by
    rw [nextAbortOperation, hcommit]
    simp only [List.mem_cons, List.not_mem_nil, or_false] at hphase
    rcases hphase with hphase | hphase | hphase <;> rw [hphase] <;> rfl
  refine ⟨⟨.jobAbort, reference⟩, { participant.control with pending := some .abort }, ?_, rfl⟩
  rw [abortOperation_of_idle hidle, hasked]
  exact ask_eq_ok.2 habort

/-- A participant that is not stuck is skipped or asked for something. -/
theorem abortOperation_isOk (wire : JobWire.Stoppable)
    (hcontrol : participant.control.Representable) (h : ¬ participant.Stuck) :
    ∃ asked, abortOperation participant = .ok asked := by
  by_cases hpending : participant.control.pending.isSome
  · exact ⟨none, by simp [abortOperation, nextOperation, hpending]⟩
  rw [Bool.not_eq_true, Option.isSome_eq_false_iff, Option.isNone_iff_eq_none] at hpending
  by_cases hreconcile : participant.control.reconciliationRequired
  · have hasked : abortOperation participant = ask participant.control.beginStatus := by
      simp [abortOperation, nextOperation, hpending, hreconcile]
    have hstatus : participant.control.beginStatus =
        .ok (⟨.jobStatus, []⟩, { participant.control with pending := some .status }) := by
      simp [ParticipantScheduleMachine.beginStatus, ParticipantScheduleMachine.ensureNoPending,
        hpending]
    refine ⟨some (⟨.jobStatus, []⟩, { participant.control with pending := some .status }), ?_⟩
    rw [hasked]
    exact ask_eq_ok.2 hstatus
  rw [Bool.not_eq_true] at hreconcile
  have hidle : participant.control.Idle := ⟨hpending, hreconcile⟩
  by_cases habortable : participant.Abortable
  · obtain ⟨operation, control, hasked, -⟩ := abortOperation_of_abortable wire hcontrol habortable
    exact ⟨_, hasked⟩
  rw [abortOperation_of_idle hidle, nextAbortOperation]
  cases hcommit : participant.control.commit with
  | none =>
    have hphase : participant.phase ∈ [.empty, .cancelled, .preparing, .ready, .faulted] := by
      by_contra hunexpected
      exact h ⟨hidle, Or.inl ⟨hcommit, hunexpected⟩⟩
    have hcancel : participant.phase ∈ [.preparing, .ready, .faulted] →
        ∃ asked, ask participant.control.beginCancel = .ok asked := by
      intro hmember
      obtain ⟨body, hbody⟩ := wire.cancel _ _ hcontrol.1
      have hallowed := ParticipantScheduleMachine.ensureMutationAllowed_eq_ok.2 hidle
      have hmember : participant.control.phase ∈ [.preparing, .ready, .faulted] := hmember
      refine ⟨some (⟨.jobCancel, body⟩, { participant.control with pending := some .cancel }), ?_⟩
      refine ask_eq_ok.2 ?_
      simp [ParticipantScheduleMachine.beginCancel, hallowed, hcommit, hmember, hbody]
    simp only [Option.isNone_none, if_true]
    cases hcase : participant.phase with
    | empty => exact ⟨none, rfl⟩
    | cancelled => exact ⟨none, rfl⟩
    | preparing => exact hcancel (by simp [hcase])
    | ready => exact hcancel (by simp [hcase])
    | faulted => exact hcancel (by simp [hcase])
    | _ => simp [hcase] at hphase
  | some commit =>
    have hphase : participant.phase ∉ [.empty, .preparing, .ready, .cancelled] := by
      intro hunexpected
      exact h ⟨hidle, Or.inr ⟨by rw [hcommit]; rfl, hunexpected⟩⟩
    have hnot : participant.phase ∉ [.installing, .installed, .confirmed] := by
      intro hmember
      exact habortable ⟨hidle, by rw [hcommit]; rfl, hmember⟩
    simp only [Option.isNone_some, Bool.false_eq_true, if_false]
    cases hcase : participant.phase <;> simp [hcase] at hphase hnot <;> exact ⟨none, rfl⟩

/-! ## Drains -/

/-- One call of `nextRequest` that emitted a request, with the position it was for. -/
def Serves (s : DistributedScheduleCoordinator) (event : Nat × DistributedScheduleRequest)
    (t : DistributedScheduleCoordinator) : Prop :=
  Step s (.nextRequest, .next (.ok (some event.2))) t ∧
    ∃ participant control, s.participants[event.1]? = some participant ∧
      participant.deviceId = event.2.deviceId ∧ participant.control.pending = none ∧
      control.pending.isSome ∧ t = s.setControl event.1 control

/-- Over a drain a participant is served at most once, and only if nothing was pending. -/
theorem served_once {events : List (Nat × DistributedScheduleRequest)} (h : Run Serves s events t) :
    (events.map Prod.fst).Nodup ∧ ∀ i ∈ events.map Prod.fst, ∀ participant,
      s.participants[i]? = some participant → participant.control.pending = none := by
  induction h with
  | nil s => simp
  | @cons s mid t event events head tail ih =>
    obtain ⟨hnodup, hquiet⟩ := ih
    obtain ⟨-, participant, control, hi, -, hpending, hissued, rfl⟩ := head
    have hserved : event.1 ∉ events.map Prod.fst := by
      intro hagain
      have hnone := hquiet event.1 hagain _ (getElem?_setControl_self hi)
      rw [hnone] at hissued
      cases hissued
    rw [List.map_cons]
    refine ⟨List.nodup_cons.2 ⟨hserved, hnodup⟩, ?_⟩
    intro j hj participant' hparticipant
    rcases List.mem_cons.1 hj with rfl | hlater
    · rw [Option.some.inj (hparticipant.symm.trans hi)]
      exact hpending
    · have hne : event.1 ≠ j := fun heq => hserved (heq ▸ hlater)
      exact hquiet j hlater participant' ((getElem?_setControl_ne hne).trans hparticipant)

/-- A drain emits at most one request per participant. -/
theorem drain_nodup {events : List (Nat × DistributedScheduleRequest)}
    (h : Run Serves s events t) : (events.map Prod.fst).Nodup :=
  (served_once h).1

/-! ## Reaching a participant -/

omit [JobWire] [ClockEstimation] in
theorem initialRound_of_abort (h : s.intent = .abort) : s.initialRound = false := by
  simp [initialRound, h]

omit [JobWire] [ClockEstimation] in
/-- A participant that is installed or about to be keeps the requests coming. -/
theorem not_finished_of_installed (hintent : s.intent = .abort)
    (hmem : participant ∈ s.participants)
    (hphase : participant.phase ∈ [.installing, .installed, .confirmed]) : ¬ s.finished := by
  have hno : ∀ p : ParticipantCoordinator → Bool, p participant = false →
      s.participants.all p = false := by
    intro p hp
    rw [List.all_eq_false]
    exact ⟨participant, hmem, by simp [hp]⟩
  have hcomplete : s.participants.all (·.phase = .complete) = false := by
    refine hno _ ?_
    rw [decide_eq_false_iff_not]
    intro heq
    simp [heq] at hphase
  have hclean : s.participants.all (·.terminalAfterFaultCleanup) = false := by
    refine hno _ ?_
    unfold ParticipantCoordinator.terminalAfterFaultCleanup
    cases hcase : participant.phase <;> simp [hcase] at hphase ⊢
  have hsafe : s.participants.all (·.safeAfterAbort) = false := by
    refine hno _ ?_
    unfold ParticipantCoordinator.safeAfterAbort
    cases hcase : participant.phase <;> simp [hcase] at hphase ⊢
  have hsplit : splitAfterAbortIsTerminal s.participants = false := by
    have hstopped : s.participants.all (·.phase ∈ [.aborted, .expired, .complete]) = false := by
      refine hno _ ?_
      cases hcase : participant.phase <;> simp [hcase] at hphase ⊢
    rw [splitAfterAbortIsTerminal, hstopped]
    rfl
  unfold finished phase
  simp only [hcomplete, hintent, abortPhase, hclean, hsafe, hsplit, Bool.and_false,
    Bool.false_eq_true, if_false]
  split <;> simp

omit [ClockEstimation] in
/-- A request leaves a controller representable. -/
theorem representable_of_issues {machine : ParticipantScheduleMachine jobAxes}
    {asked : ParticipantScheduleMachine.Call}
    (h : ParticipantScheduleMachine.Issues machine asked operation control)
    (hcontrol : machine.Representable) : control.Representable := by
  cases h with
  | install commit body idle identity unbound phase encoded =>
    refine ⟨hcontrol.1, ?_⟩
    intro bound hbound
    cases hbound
    exact ⟨body, encoded⟩
  | _ => exact hcontrol

/-- What the loop found is what `nextRequest` emits. -/
theorem step_of_firstRequest (hrunning : ¬ s.finished) {request : DistributedScheduleRequest}
    {participants : List ParticipantCoordinator}
    (h : firstRequest (nextOperation s.intent s.initialRound) s.participants =
      .ok (some (request, participants))) :
    Step s (.nextRequest, .next (.ok (some request))) { s with participants } := by
  have hnext : s.nextRequest = .ok (some request, { s with participants }) := by
    unfold finished at hrunning
    unfold nextRequest
    rw [if_neg hrunning, h]
    rfl
  show s.perform .nextRequest = _
  rw [perform, hnext]

/-- The positions before `i` with nothing pending. -/
def waiting (s : DistributedScheduleCoordinator) (i : Nat) : Finset Nat :=
  (Finset.range i).filter fun j => (s.participants[j]?).any (·.control.pending.isNone) = true

/-- Serving a participant in front leaves fewer waiting. -/
theorem waiting_ssubset {event : Nat × DistributedScheduleRequest} (h : Serves s event t) {i : Nat}
    (hlt : event.1 < i) : t.waiting i ⊂ s.waiting i := by
  obtain ⟨-, participant, control, hk, -, hpending, hissued, rfl⟩ := h
  have hnot : event.1 ∉ (s.setControl event.1 control).waiting i := by
    simp only [waiting, Finset.mem_filter, not_and, getElem?_setControl_self hk, Option.any_some]
    intro _ hnone
    rw [Option.isNone_iff_eq_none] at hnone
    rw [hnone] at hissued
    cases hissued
  rw [Finset.ssubset_iff_of_subset]
  · refine ⟨event.1, ?_, hnot⟩
    simp [waiting, hlt, hk, hpending]
  · intro j hj
    have hne : event.1 ≠ j := fun heq => hnot (heq ▸ hj)
    simpa only [waiting, Finset.mem_filter, getElem?_setControl_ne hne] using hj

/-- What the loop does next while a participant waits to be asked and none in front of it is
stuck. -/
theorem next_served (wire : JobWire.Stoppable) {i : Nat} (hintent : s.intent = .abort)
    (hcontrols : ∀ participant ∈ s.participants, participant.control.Representable)
    (hrunning : ¬ s.finished) (hi : s.participants[i]? = some participant)
    (hasked : abortOperation participant = .ok (some (operation, control)))
    (hfree : ∀ earlier ∈ s.participants.take i, ¬ earlier.Stuck) :
    ∃ (k : Nat) (earlier : ParticipantCoordinator) (operation : ScheduleOperation)
      (control : ParticipantScheduleMachine jobAxes), k ≤ i ∧ s.participants[k]? = some earlier ∧
      abortOperation earlier = .ok (some (operation, control)) ∧
      Serves s (k, ⟨earlier.deviceId, operation⟩) (s.setControl k control) := by
  have hmem := List.mem_of_getElem? hi
  have hround := initialRound_of_abort hintent
  have hpast : ∀ k, (∀ before ∈ s.participants.take k, abortOperation before = .ok none) →
      k ≤ i := by
    intro k hnone
    by_contra hgt
    have hbefore : participant ∈ s.participants.take k := by
      rw [List.mem_take_iff_getElem]
      obtain ⟨hlt, heq⟩ := List.getElem?_eq_some_iff.1 hi
      exact ⟨i, by omega, heq⟩
    rw [hnone participant hbefore] at hasked
    cases hasked
  cases hresult : firstRequest abortOperation s.participants with
  | error error =>
    obtain ⟨k, earlier, hk, herror, hnone⟩ := firstRequest_eq_error hresult
    obtain ⟨asked, hok⟩ : ∃ asked, abortOperation earlier = .ok asked := by
      rcases Nat.lt_or_eq_of_le (hpast k hnone) with hlt | rfl
      · refine abortOperation_isOk wire (hcontrols earlier (List.mem_of_getElem? hk))
          (hfree earlier ?_)
        rw [List.mem_take_iff_getElem]
        obtain ⟨hlength, heq⟩ := List.getElem?_eq_some_iff.1 hk
        exact ⟨k, by omega, heq⟩
      · rw [Option.some.inj (hk.symm.trans hi)]
        exact ⟨_, hasked⟩
    rw [hok] at herror
    cases herror
  | ok found =>
    cases found with
    | none =>
      rw [firstRequest_eq_none.1 hresult participant hmem] at hasked
      cases hasked
    | some found =>
      obtain ⟨request, participants⟩ := found
      have hstep := step_of_firstRequest (s := s) hrunning (by rw [hintent, hround]; exact hresult)
      obtain ⟨k, earlier, operation, control, hk, hasked, rfl, rfl, hnone⟩ :=
        firstRequest_eq_some hresult
      obtain ⟨call, -, hissues⟩ := asks_of_nextOperation hasked
      obtain ⟨hquiet, hpending⟩ := pending_of_issues hissues
      exact ⟨k, earlier, operation, control, hpast k hnone, hk, hasked, hstep, earlier, control,
        hk, rfl, hquiet, hpending, rfl⟩

/-- Without a stuck participant in front the abort of an abortable one is emitted. -/
theorem abort_reaches (wire : JobWire.Stoppable) {i : Nat} (hintent : s.intent = .abort)
    (hcontrols : ∀ participant ∈ s.participants, participant.control.Representable)
    (hi : s.participants[i]? = some participant) (habortable : participant.Abortable)
    (hfree : ∀ earlier ∈ s.participants.take i, ¬ earlier.Stuck) :
    ∃ events request t, Run Serves s (events ++ [(i, request)]) t ∧
      request.request.operation = .jobAbort := by
  -- every other request leaves fewer participants waiting in front
  generalize hwaiting : (s.waiting i).card = count
  induction count using Nat.strong_induction_on generalizing s with
  | _ count ih =>
    have hmem := List.mem_of_getElem? hi
    obtain ⟨aborting, aborted, habort, -⟩ :=
      abortOperation_of_abortable wire (hcontrols participant hmem) habortable
    obtain ⟨k, earlier, operation, control, hle, hk, hasked, hserves⟩ :=
      next_served wire hintent hcontrols
        (not_finished_of_installed hintent hmem habortable.2.2) hi habort hfree
    obtain ⟨call, -, hissues⟩ := asks_of_nextOperation hasked
    rcases Nat.lt_or_eq_of_le hle with hlt | rfl
    · have hfewer : ((s.setControl k control).waiting i).card < count := by
        rw [← hwaiting]
        exact Finset.card_lt_card (waiting_ssubset hserves hlt)
      have hcontrols' : ∀ participant ∈ (s.setControl k control).participants,
          participant.control.Representable := by
        intro participant' hmem
        obtain ⟨j, hj⟩ := List.mem_iff_getElem?.1 hmem
        by_cases hkj : k = j
        · subst hkj
          rw [getElem?_setControl_self hk, Option.some.injEq] at hj
          subst hj
          exact representable_of_issues hissues (hcontrols earlier (List.mem_of_getElem? hk))
        · rw [getElem?_setControl_ne hkj] at hj
          exact hcontrols participant' (List.mem_of_getElem? hj)
      have hfree' : ∀ earlier ∈ (s.setControl k control).participants.take i,
          ¬ earlier.Stuck := by
        intro participant' hmem
        obtain ⟨j, hjlt, hj⟩ := List.mem_take_iff_getElem.1 hmem
        have hj' := (List.getElem?_eq_getElem (by omega)).trans (congrArg some hj)
        by_cases hkj : k = j
        · -- a participant that was just served has its request pending
          subst hkj
          rw [getElem?_setControl_self hk, Option.some.injEq] at hj'
          subst hj'
          intro hstuck
          have hpending := (pending_of_issues hissues).2
          rw [hstuck.1.1] at hpending
          cases hpending
        · rw [getElem?_setControl_ne hkj] at hj'
          refine hfree participant' ?_
          obtain ⟨hlength, heq⟩ := List.getElem?_eq_some_iff.1 hj'
          exact List.mem_take_iff_getElem.2 ⟨j, by omega, heq⟩
      obtain ⟨events, request, t, hrun, hop⟩ := ih _ hfewer (s := s.setControl k control)
        hintent hcontrols' ((getElem?_setControl_ne (by omega)).trans hi) hfree' rfl
      exact ⟨(k, ⟨earlier.deviceId, operation⟩) :: events, request, t, .cons hserves hrun, hop⟩
    · obtain rfl := Option.some.inj (hk.symm.trans hi)
      obtain ⟨operation', control', hasked', hop⟩ :=
        abortOperation_of_abortable wire (hcontrols earlier (List.mem_of_getElem? hi)) habortable
      rw [hasked, Except.ok.injEq, Option.some.injEq, Prod.mk.injEq] at hasked'
      exact ⟨[], _, _, .cons hserves (.nil _), hasked'.1 ▸ hop⟩

/-! ## Behind a stuck participant -/

/-- A served participant is the first one the loop has a request for. -/
theorem asked_of_serves {k : Nat} {request : DistributedScheduleRequest}
    (h : Serves s (k, request) t) :
    ∃ participant operation control, s.participants[k]? = some participant ∧
      nextOperation s.intent s.initialRound participant = .ok (some (operation, control)) ∧
      ∀ earlier ∈ s.participants.take k,
        nextOperation s.intent s.initialRound earlier = .ok none := by
  obtain ⟨hstep, served, control, hk, -, hpending, hissued, ht⟩ := h
  simp only at hstep hk ht
  cases perform_cases hstep with
  | refused _ _ quiet undone => cases quiet
  | requested i participant operation control' running index asked earlier =>
    -- the position that became pending is the one the loop stopped at
    have hik : i = k := by
      by_contra hne
      have hserved : (s.setControl k control).participants[k]? = _ := getElem?_setControl_self hk
      rw [← ht, getElem?_setControl_ne hne, hk, Option.some.injEq] at hserved
      rw [hserved] at hpending
      rw [hpending] at hissued
      cases hissued
    subst hik
    exact ⟨participant, operation, control', index, asked, earlier⟩

/-- A drain stops in front of a stuck participant. -/
theorem served_before_stuck {events : List (Nat × DistributedScheduleRequest)} {j : Nat}
    (h : Run Serves s events t) (hintent : s.intent = .abort)
    (hj : s.participants[j]? = some participant) (hstuck : participant.Stuck) :
    ∀ event ∈ events, event.1 < j := by
  induction h with
  | nil s => simp
  | @cons s mid t event events head tail ih =>
    have hlt : event.1 < j := by
      obtain ⟨served, operation, control, hk, hasked, hnone⟩ := asked_of_serves head
      rw [hintent, initialRound_of_abort hintent] at hasked hnone
      rcases Nat.lt_trichotomy event.1 j with hlt | heq | hgt
      · exact hlt
      · rw [heq, hj, Option.some.injEq] at hk
        rw [← hk] at hasked
        cases (abortOperation_of_stuck hstuck).symm.trans hasked
      · have hbefore : participant ∈ s.participants.take event.1 := by
          obtain ⟨hlength, heq⟩ := List.getElem?_eq_some_iff.1 hj
          exact List.mem_take_iff_getElem.2 ⟨j, by omega, heq⟩
        cases (abortOperation_of_stuck hstuck).symm.trans (hnone participant hbefore)
    obtain ⟨-, served, control, -, -, -, -, rfl⟩ := head
    refine List.forall_mem_cons.2 ⟨hlt, ih hintent ?_⟩
    rw [getElem?_setControl_ne (by omega)]
    exact hj

/-! ## The drain of a reachable coordinator -/

/-- The commits and descriptors of a reachable coordinator can be represented. -/
theorem representable_of_run {identity : DistributedJobIdentity}
    {cacheReady : List ParticipantCacheReady} {cached : List CachedParticipantSchedule}
    {start : DistributedScheduleCoordinator} {history : List (Call × Outcome)}
    (hbuilt : afterCachedArtifacts identity cacheReady cached = .ok start)
    (h : Run Step start history s) :
    ∀ participant ∈ s.participants, participant.control.Representable := by
  have hmachine : ∀ (m : ParticipantScheduleMachine jobAxes) e m',
      ParticipantScheduleMachine.Step m e m' → m.Representable → m'.Representable := by
    rintro m ⟨call, outcome⟩ m' hstep hm
    cases ParticipantScheduleMachine.perform_cases hstep with
    | refused _ _ quiet => exact hm
    | issued _ operation _ issues =>
      exact representable_of_issues issues hm
    | settled _ _ action _ quiet pending settles => cases settles <;> exact hm
  refine h.invariant
    (p := fun s => ∀ participant ∈ s.participants, participant.control.Representable)
    (fun _ _ _ hstep hs => controls_step hmachine hstep hs) ?_
  intro participant hmem
  obtain ⟨-, descriptor, bootId, hnew⟩ := new_of_afterCachedArtifacts hbuilt hmem
  simp only [ParticipantScheduleMachine.new, Except.bind_eq_ok, Except.exists_unit,
    Except.mapError_eq_ok, Except.pure_eq_ok] at hnew
  obtain ⟨hvalid, token, -, hcontrol⟩ := hnew
  rw [← hcontrol]
  refine ⟨hvalid, ?_⟩
  intro commit hcommit
  cases hcommit

/-- The abort of the participant at `i` is emitted after finitely many calls. -/
def Reaches (s : DistributedScheduleCoordinator) (i : Nat) : Prop :=
  ∃ events request t, Run Serves s (events ++ [(i, request)]) t ∧
    request.request.operation = .jobAbort

/-- In every reachable coordinator a drain emits at most one request per participant, and it
reaches an abortable participant exactly when no participant in front of it is stuck. -/
theorem abortDrain (wire : JobWire.Stoppable) {identity : DistributedJobIdentity}
    {cacheReady : List ParticipantCacheReady} {cached : List CachedParticipantSchedule}
    {start : DistributedScheduleCoordinator} {history : List (Call × Outcome)}
    (hbuilt : afterCachedArtifacts identity cacheReady cached = .ok start)
    (hrun : Run Step start history s) (hintent : s.intent = .abort) {i : Nat}
    (hi : s.participants[i]? = some participant) (habortable : participant.Abortable) :
    (s.Reaches i ↔ ∀ earlier ∈ s.participants.take i, ¬ earlier.Stuck) ∧
      ∀ events t, Run Serves s events t → (events.map Prod.fst).Nodup := by
  refine ⟨⟨?_, ?_⟩, fun _ _ => drain_nodup⟩
  · rintro ⟨events, request, t, hdrain, -⟩ earlier hmem hstuck
    obtain ⟨j, hjlt, hj⟩ := List.mem_take_iff_getElem.1 hmem
    have hlt := served_before_stuck hdrain hintent
      ((List.getElem?_eq_getElem (by omega)).trans (congrArg some hj)) hstuck (i, request)
      (by simp)
    simp only at hlt
    omega
  · intro hfree
    exact abort_reaches wire hintent (representable_of_run hbuilt hrun) hi habortable hfree

end Runs

/-! ## Two devices -/

section Sample

open HostLibrary
open ParticipantScheduleMachine (preparedReport installedReport)

theorem hostLibrary_stoppable : JobWire.Stoppable where
  abort := by
    intro commit body h
    simp only [JobWire.encodeCommit, Except.bind_eq_ok, Except.exists_unit] at h
    exact ⟨_, by simp only [JobWire.encodeReference, h.1]; rfl⟩
  cancel := by
    intro axes descriptor h
    simp only [JobWire.validateDescriptor, Except.bind_eq_ok, Except.exists_unit,
      Except.failIf_eq_ok] at h
    exact ⟨_, by simp only [JobWire.encodeCancel, Except.failIf_of_not h.1]; rfl⟩

/-- Both devices install their commits, and the job is aborted. -/
def abortCalls : List Call :=
  bindingCalls ++ [.nextRequest, .nextRequest, answers deviceA installedReport,
    answers deviceB installedReport, .beginAbort]

/-- The first device reports a foreign commit, only the second installs its own, and the job
is aborted. -/
def foreignAbortCalls : List Call :=
  bindingCalls ++ [.beginStatusRound, answers deviceA foreignReport,
    answers deviceB preparedReport, .nextRequest, answers deviceB installedReport, .beginAbort]

theorem abortDrain_sample :
    ∃ participant, (after abortCalls).participants[1]? = some participant ∧
      ((after abortCalls).Reaches 1 ↔
        ∀ earlier ∈ (after abortCalls).participants.take 1, ¬ earlier.Stuck) := by
  have habortable : ((after abortCalls).participants[1]?).any
      fun participant => participant.Abortable := by
    decide +kernel
  have hintent : (after abortCalls).intent = .abort := by decide +kernel
  rw [Option.any_eq_true] at habortable
  obtain ⟨participant, hi, habortable⟩ := habortable
  exact ⟨participant, hi, (abortDrain hostLibrary_stoppable sampleStart_built
    (run_after abortCalls) hintent hi (of_decide_eq_true habortable)).1⟩

/-- A foreign commit on the first device keeps the abort from the second. -/
theorem abortDrain_fails :
    ¬ ∀ identity cacheReady cached start history s i participant,
        afterCachedArtifacts identity cacheReady cached = .ok start → Run Step start history s →
        s.intent = .abort → s.participants[i]? = some participant → participant.Abortable →
        s.Reaches i := by
  intro h
  have hstuck : ((after foreignAbortCalls).participants[0]?).any
      fun participant => participant.Stuck := by
    decide +kernel
  have habortable : ((after foreignAbortCalls).participants[1]?).any
      fun participant => participant.Abortable := by
    decide +kernel
  have hintent : (after foreignAbortCalls).intent = .abort := by decide +kernel
  have hrun := run_after foreignAbortCalls
  generalize after foreignAbortCalls = s at hstuck habortable hintent hrun
  rw [Option.any_eq_true] at hstuck habortable
  obtain ⟨first, hfirst, hstuck⟩ := hstuck
  obtain ⟨second, hsecond, habortable⟩ := habortable
  obtain ⟨events, request, t, hdrain, -⟩ := h _ _ _ _ _ s 1 second sampleStart_built hrun hintent
    hsecond (of_decide_eq_true habortable)
  have hlt := served_before_stuck hdrain hintent hfirst (of_decide_eq_true hstuck) (1, request)
    (by simp)
  cases hlt

end Sample

end DistributedScheduleCoordinator

end Alumina.Client
