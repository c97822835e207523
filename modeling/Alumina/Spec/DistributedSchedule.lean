import Alumina.ForStd.List
import Alumina.Client.DistributedSchedule
import Alumina.Spec.ParticipantSchedule

/-!
# What a call on the coordinator can do

As for one participant, one inversion lemma says everything a call on
`DistributedScheduleCoordinator` can do. A call changes each controller by at most one call
of its own, so what every controller step keeps is kept by every coordinator step.

## Key results

- `perform_cases`: the inversion lemma
- `Asks`: which request an intent asks of a participant
- `control_invariant`: invariants of the controllers hold over every run
-/

namespace Alumina.Client

open Except (failIf)
open Alumina.Graph (DeviceId)

/-- A participant that has been asked for its status. -/
def ParticipantCoordinator.querying (participant : ParticipantCoordinator) :
    ParticipantCoordinator :=
  { participant with control := { participant.control with pending := some .status } }

variable [JobWire] [ClockEstimation]

namespace DistributedScheduleCoordinator

variable {s t : DistributedScheduleCoordinator} {participant : ParticipantCoordinator}
  {intent : CoordinationIntent} {initial : Bool} {operation : ScheduleOperation}
  {control : ParticipantScheduleMachine jobAxes} {call : Call} {outcome : Outcome}

/-! ## The request loop -/

theorem ask_eq_ok
    {result : ScheduleResult (ScheduleOperation × ParticipantScheduleMachine jobAxes)} :
    ask result = .ok (some (operation, control)) ↔ result = .ok (operation, control) := by
  simp [ask, Option.some.injEq]

/-- Which call on its controller an intent asks of a participant. -/
inductive Asks (participant : ParticipantCoordinator) :
    CoordinationIntent → Bool → ParticipantScheduleMachine.Call → Prop
  | status (intent : CoordinationIntent) (initial : Bool) :
      Asks participant intent initial .beginStatus
  | prepare : Asks participant .prepare false .beginPrepare
  | install (commit : JobCommitRequest) (planned : participant.plannedCommit = some commit) :
      Asks participant .install false (.beginInstall commit)
  | confirm : Asks participant .confirm false .beginConfirm
  | abort : Asks participant .abort false .beginAbort
  | cancel (intent : CoordinationIntent) (cleanup : intent ∈ [.abort, .cancel]) :
      Asks participant intent false .beginCancel

/-- A request of the loop comes from a call the intent asks for. -/
theorem asks_of_nextOperation
    (h : nextOperation intent initial participant = .ok (some (operation, control))) :
    ∃ call, Asks participant intent initial call ∧
      ParticipantScheduleMachine.Issues participant.control call operation control := by
  unfold nextOperation at h
  split at h
  · simp at h
  split at h
  · exact ⟨_, .status _ _, ParticipantScheduleMachine.beginStatus_issues (ask_eq_ok.1 h)⟩
  split at h
  · split at h
    · exact ⟨_, .status _ _, ParticipantScheduleMachine.beginStatus_issues (ask_eq_ok.1 h)⟩
    · simp at h
  next hinitial =>
  rw [Bool.not_eq_true] at hinitial
  subst hinitial
  cases intent with
  | prepare =>
    simp only [intendedOperation] at h
    split at h
    · exact ⟨_, .prepare, ParticipantScheduleMachine.beginPrepare_issues (ask_eq_ok.1 h)⟩
    · exact ⟨_, .status _ _, ParticipantScheduleMachine.beginStatus_issues (ask_eq_ok.1 h)⟩
    · simp at h
    · cases h
  | install =>
    simp only [intendedOperation] at h
    split at h
    · simp only [Except.bind_eq_ok, Option.okOr_eq_ok] at h
      obtain ⟨commit, hplanned, h⟩ := h
      exact ⟨_, .install commit hplanned,
        ParticipantScheduleMachine.beginInstall_issues (ask_eq_ok.1 h)⟩
    · simp only [Except.bind_eq_ok, Option.okOr_eq_ok] at h
      obtain ⟨commit, hplanned, h⟩ := h
      exact ⟨_, .install commit hplanned,
        ParticipantScheduleMachine.beginInstall_issues (ask_eq_ok.1 h)⟩
    · simp at h
    · cases h
  | confirm =>
    simp only [intendedOperation] at h
    split at h
    · exact ⟨_, .confirm, ParticipantScheduleMachine.beginConfirm_issues (ask_eq_ok.1 h)⟩
    · simp at h
    · split at h
      · simp at h
      · cases h
  | abort =>
    simp only [intendedOperation, nextAbortOperation] at h
    split at h
    · split at h
      iterate 2 simp at h
      iterate 3
        exact ⟨_, .cancel _ (by simp), ParticipantScheduleMachine.beginCancel_issues (ask_eq_ok.1 h)⟩
      cases h
    · split at h
      iterate 3
        exact ⟨_, .abort, ParticipantScheduleMachine.beginAbort_issues (ask_eq_ok.1 h)⟩
      iterate 3 simp at h
      split at h
      · simp at h
      · cases h
  | cancel =>
    simp only [intendedOperation] at h
    split at h
    iterate 2 simp at h
    iterate 3
      split at h
      · exact ⟨_, .cancel _ (by simp),
          ParticipantScheduleMachine.beginCancel_issues (ask_eq_ok.1 h)⟩
      · cases h
    cases h

/-- What the request loop found: the first participant that is asked for something. -/
theorem firstRequest_eq_some {f : ParticipantCoordinator → DistributedResult Asked}
    {participants participants' : List ParticipantCoordinator}
    {request : DistributedScheduleRequest}
    (h : firstRequest f participants = .ok (some (request, participants'))) :
    ∃ i participant operation control, participants[i]? = some participant ∧
      f participant = .ok (some (operation, control)) ∧
      request = ⟨participant.deviceId, operation⟩ ∧
      participants' = participants.modify i ({ · with control }) ∧
      ∀ earlier ∈ participants.take i, f earlier = .ok none := by
  induction participants generalizing participants' with
  | nil => simp [firstRequest] at h
  | cons first rest ih =>
    simp only [firstRequest, Except.bind_eq_ok] at h
    obtain ⟨asked, hasked, h⟩ := h
    cases asked with
    | some issued =>
      obtain ⟨operation, control⟩ := issued
      simp only [Except.pure_eq_ok, Option.some.injEq, Prod.mk.injEq] at h
      obtain ⟨rfl, rfl⟩ := h
      exact ⟨0, first, operation, control, rfl, hasked, rfl, rfl, by simp⟩
    | none =>
      simp only [Except.bind_eq_ok] at h
      obtain ⟨found, hfound, h⟩ := h
      cases found with
      | none => simp at h
      | some found =>
        obtain ⟨request', rest'⟩ := found
        simp only [Except.pure_eq_ok, Option.some.injEq, Prod.mk.injEq] at h
        obtain ⟨rfl, rfl⟩ := h
        obtain ⟨i, participant, operation, control, hi, hf, hrequest, rfl, hearlier⟩ := ih hfound
        refine ⟨i + 1, participant, operation, control, by simpa using hi, hf, hrequest, rfl, ?_⟩
        rw [List.take_succ_cons]
        exact List.forall_mem_cons.2 ⟨hasked, hearlier⟩

theorem firstRequest_eq_none {f : ParticipantCoordinator → DistributedResult Asked}
    {participants : List ParticipantCoordinator} :
    firstRequest f participants = .ok none ↔
      ∀ participant ∈ participants, f participant = .ok none := by
  induction participants with
  | nil => simp [firstRequest]
  | cons first rest ih =>
    rw [List.forall_mem_cons, ← ih]
    simp only [firstRequest, Except.bind_eq_ok]
    constructor
    · rintro ⟨asked, hasked, h⟩
      cases asked with
      | some issued => simp at h
      | none =>
        refine ⟨hasked, ?_⟩
        simp only [Except.bind_eq_ok] at h
        obtain ⟨found, hfound, h⟩ := h
        cases found with
        | none => exact hfound
        | some found => simp at h
    · rintro ⟨hasked, hrest⟩
      exact ⟨none, hasked, by simp [hrest]⟩

theorem firstRequest_eq_error {f : ParticipantCoordinator → DistributedResult Asked}
    {participants : List ParticipantCoordinator} {error : DistributedScheduleError}
    (h : firstRequest f participants = .error error) :
    ∃ (i : Nat) (participant : ParticipantCoordinator), participants[i]? = some participant ∧
      f participant = .error error ∧ ∀ earlier ∈ participants.take i, f earlier = .ok none := by
  induction participants with
  | nil => cases h
  | cons first rest ih =>
    simp only [firstRequest, Except.bind_eq_error] at h
    rcases h with hfirst | ⟨asked, hasked, h⟩
    · exact ⟨0, first, rfl, hfirst, by simp⟩
    · cases asked with
      | some issued => cases h
      | none =>
        simp only [Except.bind_eq_error] at h
        rcases h with hrest | ⟨found, -, h⟩
        · obtain ⟨i, participant, hi, hf, hearlier⟩ := ih hrest
          refine ⟨i + 1, participant, by simpa using hi, hf, ?_⟩
          rw [List.take_succ_cons]
          exact List.forall_mem_cons.2 ⟨hasked, hearlier⟩
        · cases found <;> cases h

/-! ## Status rounds and renewals -/

/-- While nothing is pending a status round asks every participant. -/
theorem statusEach_of_quiet {participants : List ParticipantCoordinator}
    (h : ∀ participant ∈ participants, participant.control.pending = none) :
    statusEach participants = (participants.map ParticipantCoordinator.querying,
      .ok (participants.map fun participant => ⟨participant.deviceId, ⟨.jobStatus, []⟩⟩)) := by
  induction participants with
  | nil => rfl
  | cons first rest ih =>
    obtain ⟨hfirst, hrest⟩ := List.forall_mem_cons.1 h
    have hstatus : first.control.beginStatus =
        .ok (⟨.jobStatus, []⟩, { first.control with pending := some .status }) := by
      simp [ParticipantScheduleMachine.beginStatus, ParticipantScheduleMachine.ensureNoPending,
        hfirst]
    simp [statusEach, hstatus, ih hrest, ParticipantCoordinator.querying, Except.map]

/-- One participant whose lease renewal was opened. -/
def Renews (participant : ParticipantCoordinator) (renewal : ParticipantLeaseRenewal)
    (staged : ParticipantCoordinator) (request : DistributedScheduleRequest) : Prop :=
  ∃ operation control,
    participant.control.beginLeaseRenew renewal.leaseExpiryCycle = .ok (operation, control) ∧
      staged = { participant with control } ∧ request = ⟨participant.deviceId, operation⟩

/-- Renewals that all succeed open one on every participant. -/
theorem renewEach_eq_ok {participants staged : List ParticipantCoordinator}
    {renewals : List ParticipantLeaseRenewal} {requests : List DistributedScheduleRequest}
    (hlength : renewals.length = participants.length)
    (h : renewEach participants renewals = (staged, .ok requests)) :
    staged.length = participants.length ∧ requests.length = participants.length ∧
      ∀ (i : Nat) participant renewal, participants[i]? = some participant →
        renewals[i]? = some renewal →
        ∃ participant' request, staged[i]? = some participant' ∧ requests[i]? = some request ∧
          Renews participant renewal participant' request := by
  induction participants generalizing renewals staged requests with
  | nil =>
    obtain rfl : renewals = [] := List.length_eq_zero_iff.1 hlength
    simp only [renewEach, Prod.mk.injEq, Except.ok.injEq] at h
    obtain ⟨rfl, rfl⟩ := h
    simp
  | cons first rest ih =>
    cases renewals with
    | nil => simp at hlength
    | cons renewal renewals =>
      rw [renewEach] at h
      split at h
      · simp at h
      · next operation control hresult =>
        generalize hrest : renewEach rest renewals = later at h
        obtain ⟨staged', requests'⟩ := later
        cases requests' with
        | error error => simp [Except.map] at h
        | ok requests' =>
          simp only [Except.map, Prod.mk.injEq, Except.ok.injEq] at h
          obtain ⟨rfl, rfl⟩ := h
          obtain ⟨hstaged, hrequests, hall⟩ := ih (by simpa using hlength) hrest
          refine ⟨by simp [hstaged], by simp [hrequests], ?_⟩
          intro i participant renewal' hparticipant hrenewal
          cases i with
          | zero =>
            simp only [List.getElem?_cons_zero, Option.some.injEq] at hparticipant hrenewal
            obtain rfl := hparticipant
            obtain rfl := hrenewal
            exact ⟨_, _, rfl, rfl, operation, control, hresult, rfl, rfl⟩
          | succ i =>
            simp only [List.getElem?_cons_succ] at hparticipant hrenewal ⊢
            exact hall i participant renewal' hparticipant hrenewal

/-! ## Calls -/

/-- The coordinator after the response of one participant was settled. -/
def settled (s : DistributedScheduleCoordinator) (index : Nat)
    (control : ParticipantScheduleMachine jobAxes) : DistributedScheduleCoordinator :=
  let next := s.setControl index control
  if !s.initialRound || next.participants.all (·.control.report.isSome) then
    next.activateFaultCleanupIfObserved
  else next

/-- A phase in which no request is emitted. -/
def finished (s : DistributedScheduleCoordinator) : Prop :=
  s.phase ∈ [.aborted, .splitAfterAbort, .cancelled, .complete, .faulted]

/-- Everything a call can do. -/
inductive Transition (s : DistributedScheduleCoordinator) :
    Call × Outcome → DistributedScheduleCoordinator → Prop
  | refused (call : Call) (outcome : Outcome) (quiet : outcome.emitted = [])
      (undone : outcome ≠ .done (.ok ())) : Transition s (call, outcome) s
  | requested (i : Nat) (participant : ParticipantCoordinator) (operation : ScheduleOperation)
      (control : ParticipantScheduleMachine jobAxes) (running : ¬ s.finished)
      (index : s.participants[i]? = some participant)
      (asked : nextOperation s.intent s.initialRound participant = .ok (some (operation, control)))
      (earlier : ∀ participant ∈ s.participants.take i,
        nextOperation s.intent s.initialRound participant = .ok none) :
      Transition s (.nextRequest, .next (.ok (some ⟨participant.deviceId, operation⟩)))
        (s.setControl i control)
  | accepted (deviceId : DeviceId) (response : Response)
      (result : DistributedResult DistributedSchedulePhase) (i : Nat)
      (participant : ParticipantCoordinator) (found : s.indexOf deviceId = some i)
      (index : s.participants[i]? = some participant) :
      Transition s (.acceptResponse deviceId response, .phase result)
        (s.settled i (participant.control.acceptResponse response).1)
  | abandoned (deviceId : DeviceId) (result : DistributedResult Bool) (i : Nat)
      (participant : ParticipantCoordinator) (found : s.indexOf deviceId = some i)
      (index : s.participants[i]? = some participant) :
      Transition s (.abandonPending deviceId, .abandoned result)
        (s.setControl i participant.control.abandonPending.1)
  | queried (quiet : ∀ participant ∈ s.participants, participant.control.pending = none) :
      Transition s
        (.beginStatusRound, .round (.ok (s.participants.map fun participant =>
          ⟨participant.deviceId, ⟨.jobStatus, []⟩⟩)))
        { s with participants := s.participants.map ParticipantCoordinator.querying }
  | bound (nowUiNs targetUiNs : UInt64) (inputs : List ParticipantStartInput)
      (commits : List JobCommitRequest) (ready : s.phase = .ready) (fresh : s.targetUiNs = none)
      (all : inputs.length = s.participants.length)
      (planned : List.Forall₂
        (fun pair commit => s.planCommit nowUiNs targetUiNs pair.1 pair.2 = .ok commit)
        (s.alignInputs inputs) commits) :
      Transition s (.bindStart nowUiNs targetUiNs inputs, .done (.ok ()))
        { s with
          participants := s.participants.zipWith
            (fun participant commit => { participant with plannedCommit := some commit }) commits
          targetUiNs := some targetUiNs
          intent := .install }
  | confirming (nowUiNs : UInt64) (inputs : List ParticipantStartInput)
      (installed : s.phase = .installed)
      (window : s.deadlineWindow nowUiNs inputs = .ok .confirmationOpen) :
      Transition s (.beginConfirmation nowUiNs inputs, .done (.ok ())) { s with intent := .confirm }
  | renewed (renewals : List ParticipantLeaseRenewal) (staged : List ParticipantCoordinator)
      (requests : List DistributedScheduleRequest) (attended : s.networkPolicy = .networkAttended)
      (phase : s.phase ∈ [.confirmed, .irrevocable])
      (all : renewals.length = s.participants.length)
      (aligned : ∀ pair ∈ s.participants.zip
          (Table.sortByKey (fun renewal => deviceKey renewal.deviceId) renewals),
        pair.1.deviceId = pair.2.deviceId)
      (opened : renewEach s.participants
        (Table.sortByKey (fun renewal => deviceKey renewal.deviceId) renewals) =
          (staged, .ok requests)) :
      Transition s (.beginLeaseRenewal renewals, .round (.ok requests))
        { s with participants := staged }
  | aborting (targeted : s.targetUiNs.isSome)
      (reachable : s.phase ∉ [.irrevocable, .complete, .aborted, .splitAfterAbort]) :
      Transition s (.beginAbort, .done (.ok ())) { s with intent := .abort }
  | cancelling (fresh : s.targetUiNs = none) (reachable : s.phase ∉ [.cancelled, .complete]) :
      Transition s (.beginCancel, .done (.ok ())) { s with intent := .cancel }

private theorem nextRequest_transition (s : DistributedScheduleCoordinator) :
    Transition s (.nextRequest, (s.perform .nextRequest).2) (s.perform .nextRequest).1 := by
  unfold perform
  cases hresult : s.nextRequest with
  | error error => exact .refused _ _ rfl (by simp)
  | ok issued =>
    unfold nextRequest at hresult
    split at hresult
    · simp only [Except.pure_eq_ok] at hresult
      subst hresult
      exact .refused _ _ rfl (by simp)
    · next hrunning =>
      simp only [Except.bind_eq_ok] at hresult
      obtain ⟨found, hfound, hresult⟩ := hresult
      cases found with
      | none =>
        simp only [Except.pure_eq_ok] at hresult
        subst hresult
        exact .refused _ _ rfl (by simp)
      | some found =>
        simp only [Except.pure_eq_ok] at hresult
        subst hresult
        obtain ⟨i, participant, operation, control, hindex, hasked, hrequest, hset, hearlier⟩ :=
          firstRequest_eq_some hfound
        rw [hrequest, hset]
        exact .requested i participant operation control hrunning hindex hasked hearlier

private theorem acceptResponse_transition (s : DistributedScheduleCoordinator)
    (deviceId : DeviceId) (response : Response) :
    Transition s (.acceptResponse deviceId response,
      (s.perform (.acceptResponse deviceId response)).2)
      (s.perform (.acceptResponse deviceId response)).1 := by
  simp only [perform]
  unfold acceptResponse
  split
  · exact .refused _ _ rfl (by simp)
  · next index hfound =>
    split
    · exact .refused _ _ rfl (by simp)
    · next participant hindex => exact .accepted _ _ _ index participant hfound hindex

private theorem abandonPending_transition (s : DistributedScheduleCoordinator)
    (deviceId : DeviceId) :
    Transition s (.abandonPending deviceId, (s.perform (.abandonPending deviceId)).2)
      (s.perform (.abandonPending deviceId)).1 := by
  simp only [perform]
  unfold abandonPending
  split
  · exact .refused _ _ rfl (by simp)
  · next index hfound =>
    split
    · exact .refused _ _ rfl (by simp)
    · next participant hindex => exact .abandoned _ _ index participant hfound hindex

private theorem beginStatusRound_transition (s : DistributedScheduleCoordinator) :
    Transition s (.beginStatusRound, (s.perform .beginStatusRound).2)
      (s.perform .beginStatusRound).1 := by
  simp only [perform]
  unfold beginStatusRound
  split
  · exact .refused _ _ rfl (by simp)
  · next hquiet =>
    have hquiet : ∀ participant ∈ s.participants, participant.control.pending = none := by
      simpa using hquiet
    rw [statusEach_of_quiet hquiet]
    exact .queried hquiet

/-- A lease renewal is refused without effect, or opens one on every participant. -/
theorem beginLeaseRenewal_cases (s : DistributedScheduleCoordinator)
    (renewals : List ParticipantLeaseRenewal) :
    (∃ error, s.beginLeaseRenewal renewals = (s, .error error)) ∨
      ∃ staged requests,
        s.beginLeaseRenewal renewals = ({ s with participants := staged }, .ok requests) ∧
        s.networkPolicy = .networkAttended ∧ s.phase ∈ [.confirmed, .irrevocable] ∧
        renewals.length = s.participants.length ∧
        (∀ pair ∈ s.participants.zip
            (Table.sortByKey (fun renewal => deviceKey renewal.deviceId) renewals),
          pair.1.deviceId = pair.2.deviceId) ∧
        renewEach s.participants
          (Table.sortByKey (fun renewal => deviceKey renewal.deviceId) renewals) =
            (staged, .ok requests) := by
  unfold beginLeaseRenewal
  split
  · exact Or.inl ⟨_, rfl⟩
  · next hallowed =>
    simp only [not_or, not_not] at hallowed
    simp only
    split
    · exact Or.inl ⟨_, rfl⟩
    · next haligned =>
      generalize hopened : renewEach s.participants
        (Table.sortByKey (fun renewal => deviceKey renewal.deviceId) renewals) = result
      obtain ⟨staged, requests⟩ := result
      cases requests with
      | error error => exact Or.inl ⟨_, rfl⟩
      | ok requests =>
        refine Or.inr ⟨staged, requests, rfl, hallowed.1, hallowed.2.1, hallowed.2.2.1, ?_, rfl⟩
        simpa using haligned

private theorem beginLeaseRenewal_transition (s : DistributedScheduleCoordinator)
    (renewals : List ParticipantLeaseRenewal) :
    Transition s (.beginLeaseRenewal renewals, (s.perform (.beginLeaseRenewal renewals)).2)
      (s.perform (.beginLeaseRenewal renewals)).1 := by
  simp only [perform]
  rcases s.beginLeaseRenewal_cases renewals with
    ⟨error, hresult⟩ | ⟨staged, requests, hresult, hattended, hphase, hall, haligned, hopened⟩
  · rw [hresult]
    exact .refused _ _ rfl (by simp)
  · rw [hresult]
    exact .renewed renewals staged requests hattended hphase hall haligned hopened

private theorem changed_transition {result : DistributedResult DistributedScheduleCoordinator}
    (h : ∀ t, result = .ok t → Transition s (call, .done (.ok ())) t) :
    Transition s (call, (s.changed result).2) (s.changed result).1 := by
  cases result with
  | error error => exact .refused _ _ rfl (by simp [changed])
  | ok t => exact h t rfl

private theorem bindStart_transition {nowUiNs targetUiNs : UInt64}
    {inputs : List ParticipantStartInput} (h : s.bindStart nowUiNs targetUiNs inputs = .ok t) :
    Transition s (.bindStart nowUiNs targetUiNs inputs, .done (.ok ())) t := by
  simp only [bindStart, Except.bind_eq_ok, Except.exists_unit, Except.failIf_eq_ok,
    Except.pure_eq_ok, not_or, not_not, Bool.not_eq_true, Option.isSome_eq_false_iff,
    Option.isNone_iff_eq_none] at h
  obtain ⟨⟨hready, hfresh⟩, hlength, commits, hcommits, rfl⟩ := h
  exact .bound nowUiNs targetUiNs inputs commits hready hfresh hlength
    (Except.mapM_eq_ok hcommits)

private theorem beginConfirmation_transition {nowUiNs : UInt64}
    {inputs : List ParticipantStartInput} (h : s.beginConfirmation nowUiNs inputs = .ok t) :
    Transition s (.beginConfirmation nowUiNs inputs, .done (.ok ())) t := by
  simp only [beginConfirmation, Except.bind_eq_ok, Except.exists_unit, Except.failIf_eq_ok,
    not_not] at h
  obtain ⟨hinstalled, window, hwindow, h⟩ := h
  cases window with
  | confirmationOpen =>
    simp only [Except.pure_eq_ok] at h
    subst h
    exact .confirming nowUiNs inputs hinstalled hwindow
  | abortOnly => cases h
  | pointOfNoReturn => cases h

private theorem beginAbort_transition (h : s.beginAbort = .ok t) :
    Transition s (.beginAbort, .done (.ok ())) t := by
  simp only [beginAbort, Except.bind_eq_ok, Except.exists_unit, Except.failIf_eq_ok,
    Except.pure_eq_ok, Bool.not_eq_true, Option.isNone_eq_false_iff] at h
  obtain ⟨htargeted, hopen, rfl⟩ := h
  exact .aborting htargeted hopen

private theorem beginCancel_transition (h : s.beginCancel = .ok t) :
    Transition s (.beginCancel, .done (.ok ())) t := by
  simp only [beginCancel, Except.bind_eq_ok, Except.exists_unit, Except.failIf_eq_ok,
    Except.pure_eq_ok, not_or, Bool.not_eq_true, Option.isSome_eq_false_iff,
    Option.isNone_iff_eq_none] at h
  obtain ⟨⟨hfresh, hopen⟩, rfl⟩ := h
  exact .cancelling hfresh hopen

theorem perform_cases (h : Step s (call, outcome) t) : Transition s (call, outcome) t := by
  have hperform : s.perform call = (t, outcome) := h
  have hgoal : Transition s (call, (s.perform call).2) (s.perform call).1 := by
    cases call with
    | nextRequest => exact nextRequest_transition s
    | acceptResponse deviceId response => exact acceptResponse_transition s deviceId response
    | abandonPending deviceId => exact abandonPending_transition s deviceId
    | beginStatusRound => exact beginStatusRound_transition s
    | bindStart nowUiNs targetUiNs inputs => exact changed_transition fun _ => bindStart_transition
    | beginConfirmation nowUiNs inputs =>
      exact changed_transition fun _ => beginConfirmation_transition
    | beginLeaseRenewal renewals => exact beginLeaseRenewal_transition s renewals
    | beginAbort => exact changed_transition fun _ => beginAbort_transition
    | beginCancel => exact changed_transition fun _ => beginCancel_transition
  rw [hperform] at hgoal
  exact hgoal

/-! ## The participants across a call -/

omit [JobWire] [ClockEstimation] in
theorem participants_setControl (s : DistributedScheduleCoordinator) (i : Nat)
    (control : ParticipantScheduleMachine jobAxes) :
    (s.setControl i control).participants = s.participants.modify i ({ · with control }) := rfl

omit [JobWire] [ClockEstimation] in
theorem getElem?_setControl_self {i : Nat} (h : s.participants[i]? = some participant) :
    (s.setControl i control).participants[i]? = some { participant with control } := by
  rw [participants_setControl, List.getElem?_modify, h]
  simp

omit [JobWire] [ClockEstimation] in
theorem getElem?_setControl_ne {i j : Nat} (h : i ≠ j) :
    (s.setControl i control).participants[j]? = s.participants[j]? := by
  rw [participants_setControl, List.getElem?_modify]
  simp [h]

omit [JobWire] [ClockEstimation] in
/-- Cleanup changes the intent and nothing of the participants. -/
@[simp] theorem participants_activateFaultCleanup (s : DistributedScheduleCoordinator) :
    s.activateFaultCleanupIfObserved.participants = s.participants := by
  unfold activateFaultCleanupIfObserved
  split <;> rfl

omit [JobWire] [ClockEstimation] in
@[simp] theorem participants_settled (s : DistributedScheduleCoordinator) (i : Nat)
    (control : ParticipantScheduleMachine jobAxes) :
    (s.settled i control).participants = (s.setControl i control).participants := by
  simp only [settled]
  split
  · exact participants_activateFaultCleanup _
  · rfl

/-- A controller after a call on the coordinator: unchanged, or called once, with the commit
it had or the planned one. -/
def ControlStep (participant : ParticipantCoordinator)
    (control : ParticipantScheduleMachine jobAxes) : Prop :=
  control = participant.control ∨
    (∃ event, ParticipantScheduleMachine.Step participant.control event control) ∧
      (control.commit = participant.control.commit ∨
        control.commit = participant.plannedCommit)

omit [ClockEstimation] in
/-- A request of the loop is one call of the controller. -/
theorem controlStep_of_asks {asked : ParticipantScheduleMachine.Call}
    (hasks : Asks participant intent initial asked)
    (hissues : ParticipantScheduleMachine.Issues participant.control asked operation control) :
    ControlStep participant control := by
  refine Or.inr ⟨⟨_, hissues.step⟩, ?_⟩
  cases hissues with
  | install commit body idle identity unbound phase encoded =>
    cases hasks with
    | install _ planned => exact Or.inr planned.symm
  | _ => exact Or.inl rfl

omit [ClockEstimation] in
theorem commit_acceptResponse (machine : ParticipantScheduleMachine jobAxes)
    (response : Response) : (machine.acceptResponse response).1.commit = machine.commit := by
  rcases machine.acceptResponse_cases response with ⟨-, hsame⟩ | ⟨action, -, hsettles⟩
  · rw [hsame]
  · exact hsettles.commit_eq

omit [ClockEstimation] in
theorem commit_abandonPending (machine : ParticipantScheduleMachine jobAxes) :
    machine.abandonPending.1.commit = machine.commit := by
  rcases machine.abandonPending_cases with ⟨-, heq⟩ | ⟨action, -, hsettles⟩
  · rw [heq]
  · exact hsettles.commit_eq

omit [ClockEstimation] in
private theorem controlStep_setControl {i j : Nat} {participant' : ParticipantCoordinator}
    (hi : s.participants[i]? = some participant) (hstep : ControlStep participant control)
    (hj : (s.setControl i control).participants[j]? = some participant') :
    ∃ participant, s.participants[j]? = some participant ∧
      participant'.deviceId = participant.deviceId ∧
      participant'.plannedCommit = participant.plannedCommit ∧
      ControlStep participant participant'.control := by
  by_cases hij : i = j
  · subst hij
    rw [getElem?_setControl_self hi, Option.some.injEq] at hj
    subst hj
    exact ⟨participant, hi, rfl, rfl, hstep⟩
  · rw [getElem?_setControl_ne hij] at hj
    exact ⟨participant', hj, rfl, rfl, Or.inl rfl⟩

/-- Across a call each participant keeps its device, and its planned commit unless a start
is bound, and its controller makes at most one call. -/
theorem participants_step {e : Call × Outcome} (h : Step s e t) {i : Nat}
    {participant' : ParticipantCoordinator} (hi : t.participants[i]? = some participant') :
    ∃ participant, s.participants[i]? = some participant ∧
      participant'.deviceId = participant.deviceId ∧
      ((s.targetUiNs = none ∧ t.targetUiNs.isSome) ∨
        participant'.plannedCommit = participant.plannedCommit) ∧
      ControlStep participant participant'.control := by
  obtain ⟨call, outcome⟩ := e
  cases perform_cases h with
  | refused _ _ quiet undone => exact ⟨participant', hi, rfl, Or.inr rfl, Or.inl rfl⟩
  | requested j participant operation control running index asked earlier =>
    obtain ⟨call, hasks, hissues⟩ := asks_of_nextOperation asked
    obtain ⟨participant, hp, hdevice, hplanned, hstep⟩ :=
      controlStep_setControl index (controlStep_of_asks hasks hissues) hi
    exact ⟨participant, hp, hdevice, Or.inr hplanned, hstep⟩
  | accepted deviceId response result j participant found index =>
    rw [participants_settled] at hi
    obtain ⟨participant, hp, hdevice, hplanned, hstep⟩ :=
      controlStep_setControl index (Or.inr ⟨⟨(.acceptResponse response, _), rfl⟩,
        Or.inl (commit_acceptResponse _ _)⟩) hi
    exact ⟨participant, hp, hdevice, Or.inr hplanned, hstep⟩
  | abandoned deviceId result j participant found index =>
    obtain ⟨participant, hp, hdevice, hplanned, hstep⟩ :=
      controlStep_setControl index (Or.inr ⟨⟨(.abandonPending, _), rfl⟩,
        Or.inl (commit_abandonPending _)⟩) hi
    exact ⟨participant, hp, hdevice, Or.inr hplanned, hstep⟩
  | queried quiet =>
    simp only [List.getElem?_map, Option.map_eq_some_iff] at hi
    obtain ⟨participant, hp, rfl⟩ := hi
    have hpending := quiet participant (List.mem_of_getElem? hp)
    exact ⟨participant, hp, rfl, Or.inr rfl,
      Or.inr ⟨⟨_, (ParticipantScheduleMachine.Issues.status hpending).step⟩, Or.inl rfl⟩⟩
  | bound nowUiNs targetUiNs inputs commits ready fresh all planned =>
    simp only [List.getElem?_zipWith] at hi
    split at hi
    · next participant commit hp hcommit =>
      cases hi
      exact ⟨participant, hp, rfl, Or.inl ⟨fresh, rfl⟩, Or.inl rfl⟩
    · cases hi
  | confirming nowUiNs inputs installed window =>
    exact ⟨participant', hi, rfl, Or.inr rfl, Or.inl rfl⟩
  | renewed renewals staged requests attended phase all aligned opened =>
    obtain ⟨hstaged, -, hall⟩ := renewEach_eq_ok (by rw [Table.length_sortByKey, all]) opened
    have hlt : i < s.participants.length := by
      rw [← hstaged]
      exact (List.getElem?_eq_some_iff.1 hi).1
    obtain ⟨renewal, hrenewal⟩ : ∃ renewal, (Table.sortByKey
        (fun renewal => deviceKey renewal.deviceId) renewals)[i]? = some renewal := by
      rw [← Option.isSome_iff_exists, isSome_getElem?, Table.length_sortByKey, all]
      exact hlt
    obtain ⟨_, request, hp', -, operation, control, hrenew, rfl, -⟩ :=
      hall i _ renewal (List.getElem?_eq_getElem hlt) hrenewal
    obtain rfl := Option.some.inj (hp'.symm.trans hi)
    have hissues := ParticipantScheduleMachine.beginLeaseRenew_issues hrenew
    refine ⟨_, List.getElem?_eq_getElem hlt, rfl, Or.inr rfl,
      Or.inr ⟨⟨_, hissues.step⟩, Or.inl ?_⟩⟩
    cases hissues
    rfl
  | aborting targeted reachable => exact ⟨participant', hi, rfl, Or.inr rfl, Or.inl rfl⟩
  | cancelling fresh reachable => exact ⟨participant', hi, rfl, Or.inr rfl, Or.inl rfl⟩

/-- What every controller call keeps holds of all controllers across a call. -/
theorem controls_step {p : ParticipantScheduleMachine jobAxes → Prop}
    (hstep : ∀ m e m', ParticipantScheduleMachine.Step m e m' → p m → p m') {e : Call × Outcome}
    (h : Step s e t) (hs : ∀ participant ∈ s.participants, p participant.control) :
    ∀ participant ∈ t.participants, p participant.control := by
  intro participant' hmem
  obtain ⟨i, hi⟩ := List.mem_iff_getElem?.1 hmem
  obtain ⟨participant, hp, -, -, hmove⟩ := participants_step h hi
  have hbefore := hs participant (List.mem_of_getElem? hp)
  rcases hmove with hsame | ⟨⟨event, hevent⟩, -⟩
  · rw [hsame]
    exact hbefore
  · exact hstep _ _ _ hevent hbefore

/-- The devices are those the coordinator was built with. -/
theorem devices_step {e : Call × Outcome} (h : Step s e t) :
    t.participants.map (·.deviceId) = s.participants.map (·.deviceId) := by
  have hlength : t.participants.length = s.participants.length := by
    obtain ⟨call, outcome⟩ := e
    cases perform_cases h with
    | refused _ _ quiet undone => rfl
    | requested j participant operation control running index asked earlier =>
      simp [participants_setControl]
    | accepted deviceId response result j participant found index =>
      simp [participants_setControl]
    | abandoned deviceId result j participant found index => simp [participants_setControl]
    | queried quiet => simp
    | bound nowUiNs targetUiNs inputs commits ready fresh all planned =>
      have hcommits := planned.length_eq
      simp only [alignInputs, List.length_zip, Table.length_sortByKey, all, Nat.min_self] at hcommits
      simp [← hcommits]
    | confirming nowUiNs inputs installed window => rfl
    | renewed renewals staged requests attended phase all aligned opened =>
      exact (renewEach_eq_ok (by rw [Table.length_sortByKey, all]) opened).1
    | aborting targeted reachable => rfl
    | cancelling fresh reachable => rfl
  apply List.ext_getElem?
  intro i
  rw [List.getElem?_map, List.getElem?_map]
  cases hi : t.participants[i]? with
  | none =>
    rw [List.getElem?_eq_none_iff, hlength, ← List.getElem?_eq_none_iff] at hi
    rw [hi]
  | some participant' =>
    obtain ⟨participant, hp, hdevice, -, -⟩ := participants_step h hi
    rw [hp, Option.map_some, Option.map_some, hdevice]

omit [ClockEstimation] in
/-- A request that was issued is pending. -/
theorem pending_of_issues {asked : ParticipantScheduleMachine.Call}
    (h : ParticipantScheduleMachine.Issues participant.control asked operation control) :
    participant.control.pending = none ∧ control.pending.isSome := by
  cases h with
  | status quiet => exact ⟨quiet, rfl⟩
  | prepare body idle => exact ⟨idle.1, rfl⟩
  | install commit body idle => exact ⟨idle.1, rfl⟩
  | confirm commit body idle => exact ⟨idle.1, rfl⟩
  | renew commit expiry schedule body idle => exact ⟨idle.1, rfl⟩
  | abort commit body idle => exact ⟨idle.1, rfl⟩
  | cancel body idle => exact ⟨idle.1, rfl⟩

omit [ClockEstimation] in
theorem report_of_issues {asked : ParticipantScheduleMachine.Call}
    (h : ParticipantScheduleMachine.Issues participant.control asked operation control) :
    control.report = participant.control.report := by
  cases h <;> rfl

omit [JobWire] [ClockEstimation] in
theorem report_abandonPending (machine : ParticipantScheduleMachine jobAxes) :
    machine.abandonPending.1.report = machine.report := by
  unfold ParticipantScheduleMachine.abandonPending
  split <;> rfl

omit [JobWire] [ClockEstimation] in
private theorem reports_setControl {i : Nat} (hi : s.participants[i]? = some participant)
    (h : control.report = participant.control.report) :
    (s.setControl i control).participants.map (·.control.report) =
      s.participants.map (·.control.report) := by
  apply List.ext_getElem?
  intro j
  rw [List.getElem?_map, List.getElem?_map]
  by_cases hij : i = j
  · subst hij
    rw [getElem?_setControl_self hi, hi, Option.map_some, Option.map_some, h]
  · rw [getElem?_setControl_ne hij]

/-- Only responses change reports. -/
theorem reports_step {e : Call × Outcome} (h : Step s e t)
    (hquiet : ∀ deviceId response, e.1 ≠ .acceptResponse deviceId response) :
    t.participants.map (·.control.report) = s.participants.map (·.control.report) := by
  obtain ⟨call, outcome⟩ := e
  cases perform_cases h with
  | refused _ _ quiet undone => rfl
  | requested i participant operation control running index asked earlier =>
    obtain ⟨call, -, hissues⟩ := asks_of_nextOperation asked
    exact reports_setControl index (report_of_issues hissues)
  | accepted deviceId response result i participant found index =>
    exact absurd rfl (hquiet deviceId response)
  | abandoned deviceId result i participant found index =>
    exact reports_setControl index (report_abandonPending _)
  | queried quiet => simp [ParticipantCoordinator.querying, Function.comp_def]
  | bound nowUiNs targetUiNs inputs commits ready fresh all planned =>
    have hcommits := planned.length_eq
    simp only [alignInputs, List.length_zip, Table.length_sortByKey, all, Nat.min_self] at hcommits
    apply List.ext_getElem
    · simp [← hcommits]
    · simp
  | confirming nowUiNs inputs installed window => rfl
  | renewed renewals staged requests attended phase all aligned opened =>
    obtain ⟨hstaged, -, hall⟩ := renewEach_eq_ok (by rw [Table.length_sortByKey, all]) opened
    apply List.ext_getElem
    · simp [hstaged]
    · intro i hi hi'
      rw [List.length_map] at hi hi'
      have hrenewal : i < (Table.sortByKey (fun renewal => deviceKey renewal.deviceId)
          renewals).length := by
        rw [Table.length_sortByKey, all]
        exact hi'
      obtain ⟨_, request, hp', -, operation, control, hrenew, rfl, -⟩ :=
        hall i _ _ (List.getElem?_eq_getElem hi') (List.getElem?_eq_getElem hrenewal)
      rw [List.getElem?_eq_getElem hi, Option.some.injEq] at hp'
      rw [List.getElem_map, List.getElem_map, hp']
      exact report_of_issues (ParticipantScheduleMachine.beginLeaseRenew_issues hrenew)
  | aborting targeted reachable => rfl
  | cancelling fresh reachable => rfl

/-! ## Intents, targets and commits -/

/-- The intent says whether a start was bound, and a bound commit is the planned one. -/
structure Consistent (s : DistributedScheduleCoordinator) : Prop where
  fresh : s.targetUiNs = none ↔ s.intent ∈ [.prepare, .cancel]
  unplanned : s.targetUiNs = none → ∀ participant ∈ s.participants,
    participant.plannedCommit = none
  planned : ∀ participant ∈ s.participants, ∀ commit,
    participant.control.commit = some commit → participant.plannedCommit = some commit

/-- The intent in which a phase is reached, for the phases of one intent. -/
def intentOf : DistributedSchedulePhase → Option CoordinationIntent
  | .ready => some .prepare
  | .installed => some .install
  | .confirmed => some .confirm
  | _ => none

omit [JobWire] [ClockEstimation] in
theorem intent_of_phase {intent : CoordinationIntent}
    (h : intentOf s.phase = some intent) : s.intent = intent := by
  unfold phase at h
  simp only [abortPhase] at h
  split at h
  · cases h
  · cases hintent : s.intent <;> simp only [hintent] at h
    all_goals
      repeat' split at h
      all_goals first | (cases h; rfl) | cases h

omit [JobWire] [ClockEstimation] in
private theorem fresh_activate (h : s.targetUiNs = none ↔ s.intent ∈ [.prepare, .cancel]) :
    s.activateFaultCleanupIfObserved.targetUiNs = none ↔
      s.activateFaultCleanupIfObserved.intent ∈ [.prepare, .cancel] := by
  unfold activateFaultCleanupIfObserved
  split
  · cases s.targetUiNs <;> simp
  · exact h

theorem consistent_step {e : Call × Outcome} (h : Step s e t) (hs : s.Consistent) :
    t.Consistent := by
  have hplanned : ∀ participant ∈ t.participants, ∀ commit,
      participant.control.commit = some commit → participant.plannedCommit = some commit := by
    intro participant' hmem commit hcommit
    obtain ⟨i, hi⟩ := List.mem_iff_getElem?.1 hmem
    obtain ⟨participant, hp, -, hplan, hmove⟩ := participants_step h hi
    have hmem := List.mem_of_getElem? hp
    have hold : participant.control.commit = some commit ∨
        participant.plannedCommit = some commit := by
      rcases hmove with hsame | ⟨-, hsame | hnew⟩
      · exact Or.inl (hsame ▸ hcommit)
      · exact Or.inl (hsame ▸ hcommit)
      · exact Or.inr (hnew ▸ hcommit)
    have hbefore : participant.plannedCommit = some commit :=
      hold.elim (hs.planned participant hmem commit) id
    rcases hplan with ⟨hfresh, -⟩ | hsame
    · -- nothing was planned before the start was bound
      rw [hs.unplanned hfresh participant hmem] at hbefore
      cases hbefore
    · rw [hsame, hbefore]
  have hunplanned : (t.targetUiNs = none → s.targetUiNs = none) → t.targetUiNs = none →
      ∀ participant ∈ t.participants, participant.plannedCommit = none := by
    intro hback hfresh participant' hmem
    obtain ⟨i, hi⟩ := List.mem_iff_getElem?.1 hmem
    obtain ⟨participant, hp, -, hplan, -⟩ := participants_step h hi
    rcases hplan with ⟨-, hsome⟩ | hsame
    · rw [hfresh] at hsome
      cases hsome
    · rw [hsame]
      exact hs.unplanned (hback hfresh) participant (List.mem_of_getElem? hp)
  have hrest : (t.targetUiNs = none → s.targetUiNs = none) ∧
      (t.targetUiNs = none ↔ t.intent ∈ [.prepare, .cancel]) := by
    obtain ⟨call, outcome⟩ := e
    cases perform_cases h with
    | refused _ _ quiet undone => exact ⟨id, hs.fresh⟩
    | requested j participant operation control running index asked earlier => exact ⟨id, hs.fresh⟩
    | accepted deviceId response result j participant found index =>
      unfold settled
      simp only
      split
      · refine ⟨?_, fresh_activate hs.fresh⟩
        unfold activateFaultCleanupIfObserved
        split <;> exact id
      · exact ⟨id, hs.fresh⟩
    | abandoned deviceId result j participant found index => exact ⟨id, hs.fresh⟩
    | queried quiet => exact ⟨id, hs.fresh⟩
    | bound nowUiNs targetUiNs inputs commits ready fresh all planned => simp
    | confirming nowUiNs inputs installed window =>
      have hfresh := hs.fresh
      rw [intent_of_phase (by rw [installed]; rfl : _ = some CoordinationIntent.install)] at hfresh
      refine ⟨id, ?_⟩
      simpa using hfresh
    | renewed renewals staged requests attended phase all aligned opened => exact ⟨id, hs.fresh⟩
    | aborting targeted reachable =>
      refine ⟨id, ?_⟩
      simp only [List.mem_cons, reduceCtorEq, List.not_mem_nil, or_false, iff_false]
      intro hnone
      rw [hnone] at targeted
      cases targeted
    | cancelling fresh reachable =>
      refine ⟨id, ?_⟩
      simpa using fresh
  exact ⟨hrest.2, hunplanned hrest.1, hplanned⟩

/-! ## Construction -/

variable {identity : DistributedJobIdentity} {cacheReady : List ParticipantCacheReady}
  {cached : List CachedParticipantSchedule} {start : DistributedScheduleCoordinator}

/-- A coordinator that was built has its inputs paired in device order. -/
theorem participants_of_afterCachedArtifacts
    (h : afterCachedArtifacts identity cacheReady cached = .ok start) :
    cacheReady.length = cached.length ∧
      List.Forall₂ (fun pair participant => bindParticipant identity pair.1 pair.2 = .ok participant)
        ((Table.sortByKey (fun item => deviceKey item.deviceId) cacheReady).zip
          (Table.sortByKey (fun item => deviceKey item.deviceId) cached)) start.participants ∧
      start.targetUiNs = none ∧ start.intent = .prepare := by
  simp only [afterCachedArtifacts, Except.bind_eq_ok, Except.exists_unit, Except.failIf_eq_ok,
    not_or, not_not, Except.pure_eq_ok] at h
  obtain ⟨hchecks, participants, hparticipants, rfl⟩ := h
  exact ⟨hchecks.2.1, Except.mapM_eq_ok hparticipants, rfl, rfl⟩

theorem bindParticipant_eq_ok {ready : ParticipantCacheReady}
    {schedule : CachedParticipantSchedule} :
    bindParticipant identity ready schedule = .ok participant ↔
      (ready.deviceId = schedule.deviceId ∧ ready.partition = schedule.descriptor.partition ∧
        ready.globalManifest = identity.globalManifest) ∧
      ∃ control, ParticipantScheduleMachine.new schedule.descriptor schedule.bootId = .ok control ∧
        participant = ⟨schedule.deviceId, control, none⟩ := by
  simp only [bindParticipant, Except.bind_eq_ok, Except.exists_unit, Except.failIf_eq_ok,
    Except.mapError_eq_ok, Except.pure_eq_ok, not_or, not_not, eq_comm (a := participant)]

/-- Every controller of a new coordinator is new, and nothing is planned. -/
theorem new_of_afterCachedArtifacts
    (h : afterCachedArtifacts identity cacheReady cached = .ok start)
    (hmem : participant ∈ start.participants) :
    participant.plannedCommit = none ∧ ∃ descriptor bootId,
      ParticipantScheduleMachine.new descriptor bootId = .ok participant.control := by
  obtain ⟨-, hall, -, -⟩ := participants_of_afterCachedArtifacts h
  obtain ⟨pair, -, hpair⟩ := List.Forall₂.exists_of_mem_right hall hmem
  obtain ⟨-, control, hnew, rfl⟩ := bindParticipant_eq_ok.1 hpair
  exact ⟨rfl, _, _, hnew⟩

end DistributedScheduleCoordinator

end Alumina.Client
