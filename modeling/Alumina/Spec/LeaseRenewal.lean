import Alumina.Client.JobDriver
import Alumina.Spec.LeaseAuthority
import Alumina.Spec.LiveJob
import Alumina.Spec.StartBinding

/-!
# Which renewals fault a job

While a job runs, the driver lets the coordinator ask a participant for what it still owes, then
renews the leases when one is due, and otherwise asks for a status round. A renewal is opened on
every participant or on none, and a participant that has completed refuses one. So a due renewal
faults a job of which a part has completed.

## Key results

- `firstRequest_reaction`: what the request loop does, from the phases alone
- `attendedRenewals_eq`: the renewals that are collected for a running job
- `beginLeaseRenewal_isOk_iff`: when a renewal opens
-/

namespace Alumina.Client

open Alumina.Graph (DeviceId Sha256)

/-- What the job crate promises: an encodable commit can be aborted and confirmed, its lease can be
extended when it is attended, and the preparation of a valid descriptor can be cancelled. -/
structure JobWire.Attends [JobWire] : Prop extends JobWire.Stoppable where
  confirm : ∀ commit body, JobWire.encodeCommit commit = .ok body →
    ∃ reference, JobWire.encodeReference .confirm commit = .ok reference
  renew : ∀ commit body expiry, JobWire.encodeCommit commit = .ok body →
    commit.policy = .networkAttended → commit.leaseExpiryCycle < expiry →
    ∃ body, JobWire.encodeRenewal commit expiry = .ok body

/-! ## Reactions -/

namespace ParticipantScheduleMachine

variable [JobWire] {axes : Nat} {machine machine' : ParticipantScheduleMachine axes}
  {operation : ScheduleOperation}

/-- A request that was issued is the result of its function. -/
theorem ok_of_requested
    {result : ScheduleResult (ScheduleOperation × ParticipantScheduleMachine axes)}
    (h : machine.requested result = (machine', .request (.ok operation))) :
    result = .ok (operation, machine') := by
  cases result with
  | error error => cases h
  | ok issued =>
    cases h
    rfl

omit [JobWire] in
/-- The schedule of a machine that was confirmed is not the prepared one. -/
theorem not_prepared_of_started (machine : ParticipantScheduleMachine axes)
    (h : machine.phase ∈ [.confirmed, .priming, .primed, .running, .complete])
    {report : JobStatusReport} {schedule : JobScheduleReport} (hreport : machine.report = some report)
    (hschedule : report.schedule = some schedule) : schedule.state ≠ .prepared := by
  obtain ⟨state, hprepared, hfaulted, hstate⟩ : ∃ state : JobScheduleState,
      state ≠ .prepared ∧ state ≠ .faulted ∧ machine.phase = state.phase := by
    simp only [List.mem_cons, List.not_mem_nil, or_false] at h
    rcases h with h | h | h | h | h
    · exact ⟨.confirmed, by simp, by simp, h⟩
    · exact ⟨.priming, by simp, by simp, h⟩
    · exact ⟨.primed, by simp, by simp, h⟩
    · exact ⟨.running, by simp, by simp, h⟩
    · exact ⟨.complete, by simp, by simp, h⟩
  obtain ⟨report', schedule', hreport', hschedule', rfl⟩ :=
    schedule_of_phase hprepared hfaulted hstate
  obtain rfl := Option.some.inj (hreport'.symm.trans hreport)
  obtain rfl := Option.some.inj (hschedule'.symm.trans hschedule)
  exact hprepared

end ParticipantScheduleMachine

namespace ParticipantCoordinator

/-- What the request loop has for a participant with nothing pending: nothing, a request, or an
error. -/
inductive Reaction where
  | silent | asked | stuck
  deriving DecidableEq, Repr

/-- The reaction to a participant of a running job, from its phase and its commit. -/
def reaction (intent : CoordinationIntent) (participant : ParticipantCoordinator) : Reaction :=
  if participant.control.reconciliationRequired then .asked
  else
    match intent with
    | .prepare | .cancel => .stuck
    | .install =>
      if participant.phase ∈ [.ready, .installing] then .asked
      else if participant.phase = .installed then .silent
      else .stuck
    | .confirm =>
      if participant.phase = .installed then
        if participant.control.commit.isSome then .asked else .stuck
      else if participant.phase = .confirmed ∨ postGuard participant.phase then .silent
      else .stuck
    | .abort =>
      if participant.control.commit.isSome then
        if participant.phase ∈ [.installing, .installed, .confirmed] then .asked
        else if participant.phase ∈ [.aborted, .expired, .faulted] ∨ postGuard participant.phase then
          .silent
        else .stuck
      else if participant.phase ∈ [.preparing, .ready, .faulted] then .asked
      else if participant.phase ∈ [.empty, .cancelled] then .silent
      else .stuck

/-- Nothing is to be reconciled at a participant that is passed over. -/
theorem clean_of_silent {intent : CoordinationIntent} {participant : ParticipantCoordinator}
    (h : participant.reaction intent = .silent) :
    participant.control.reconciliationRequired = false := by
  unfold reaction at h
  split at h
  · cases h
  · next hclean => simpa using hclean

/-- A participant that still executes: it takes a longer lease. -/
def executes (participant : ParticipantCoordinator) : Bool :=
  participant.phase ∈ [.confirmed, .priming, .primed, .running]

/-- The reaction to the first participant that is not passed over. -/
def firstReaction (intent : CoordinationIntent) : List ParticipantCoordinator → Reaction
  | [] => .silent
  | participant :: rest =>
    match participant.reaction intent with
    | .silent => firstReaction intent rest
    | reaction => reaction

end ParticipantCoordinator

namespace DistributedScheduleCoordinator

open ParticipantCoordinator (Reaction firstReaction)

section Reactions

variable [JobWire] [ClockEstimation] {s : DistributedScheduleCoordinator}
  {participant : ParticipantCoordinator} {intent : CoordinationIntent}

/-- What holds of every participant of a reachable running coordinator. -/
structure Steady (s : DistributedScheduleCoordinator) (participant : ParticipantCoordinator) :
    Prop where
  pending : participant.control.pending = none
  representable : participant.control.Representable
  leased : participant.control.LeaseBound
  planned : ∃ commit, participant.plannedCommit = some commit ∧ Plannable s participant commit
  bound : ∀ commit, participant.control.commit = some commit →
    participant.plannedCommit = some commit

omit [JobWire] [ClockEstimation] in
/-- A running coordinator has bound a start and was not cancelled. -/
theorem intent_of_running (h : s.phase ∈ [.confirmed, .irrevocable]) :
    s.intent ∈ [.install, .confirm, .abort] := by
  cases hintent : s.intent with
  | install => simp
  | confirm => simp
  | abort => simp
  | prepare =>
    exfalso
    revert h
    unfold phase
    simp only [hintent]
    split_ifs <;> simp
  | cancel =>
    exfalso
    revert h
    unfold phase
    simp only [hintent]
    split_ifs <;> simp

theorem nextOperation_reconciles (hpending : participant.control.pending = none)
    (h : participant.control.reconciliationRequired) :
    nextOperation intent false participant = .ok (some (⟨.jobStatus, []⟩,
      { participant.control with pending := some .status })) := by
  have hstatus : participant.control.beginStatus =
      .ok (⟨.jobStatus, []⟩, { participant.control with pending := some .status }) :=
    ParticipantScheduleMachine.ok_of_requested
      (ParticipantScheduleMachine.Issues.status hpending).step
  unfold nextOperation
  rw [hpending, if_neg (by simp), if_pos h]
  exact ask_eq_ok.2 hstatus

/-- A participant with nothing to reconcile is asked what the intent asks for. -/
theorem nextOperation_of_idle (h : participant.control.Idle) :
    nextOperation intent false participant = intendedOperation participant intent := by
  unfold nextOperation
  rw [h.1, h.2]
  rfl

theorem nextOperation_silent (hpending : participant.control.pending = none)
    (h : participant.reaction intent = .silent) :
    nextOperation intent false participant = .ok none := by
  unfold ParticipantCoordinator.reaction at h
  split at h
  · cases h
  next hreconciled =>
  rw [nextOperation_of_idle ⟨hpending, by simpa using hreconciled⟩]
  cases intent with
  | prepare => cases h
  | cancel => cases h
  | install =>
    unfold intendedOperation
    cases hphase : participant.phase <;> simp [hphase] at h
    rfl
  | confirm =>
    unfold intendedOperation
    cases hphase : participant.phase <;> simp [hphase, postGuard] at h
    all_goals first | rfl | exact absurd h (by split <;> simp)
  | abort =>
    unfold intendedOperation nextAbortOperation
    cases hcommit : participant.control.commit <;> cases hphase : participant.phase <;>
      simp [hphase, hcommit, postGuard] at h <;> rfl

theorem nextOperation_stuck (hpending : participant.control.pending = none)
    (hintent : intent ∈ [.install, .confirm, .abort])
    (h : participant.reaction intent = .stuck) :
    ∃ error, nextOperation intent false participant = .error error := by
  unfold ParticipantCoordinator.reaction at h
  split at h
  · cases h
  next hreconciled =>
  have hidle : participant.control.Idle := ⟨hpending, by simpa using hreconciled⟩
  rw [nextOperation_of_idle hidle]
  cases intent with
  | prepare => simp at hintent
  | cancel => simp at hintent
  | install =>
    unfold intendedOperation
    cases hphase : participant.phase <;> simp [hphase] at h <;> exact ⟨_, rfl⟩
  | confirm =>
    unfold intendedOperation
    cases hphase : participant.phase <;> simp [hphase, postGuard] at h
    all_goals first | exact ⟨_, rfl⟩ | skip
    -- an installed participant without its commit
    have hinstalled : participant.control.phase = .installed := hphase
    refine ⟨.schedule .state, ?_⟩
    simp [ask, ParticipantScheduleMachine.beginConfirm, hinstalled, h,
      ParticipantScheduleMachine.ensureMutationAllowed_eq_ok.2 hidle]
    rfl
  | abort =>
    unfold intendedOperation nextAbortOperation
    cases hcommit : participant.control.commit <;> cases hphase : participant.phase <;>
      simp [hphase, hcommit, postGuard] at h <;> exact ⟨_, rfl⟩

theorem nextOperation_asked (wire : JobWire.Attends) (hs : Steady s participant)
    (hintent : intent ∈ [.install, .confirm, .abort]) (h : participant.reaction intent = .asked) :
    ∃ operation control, nextOperation intent false participant = .ok (some (operation, control)) := by
  by_cases hreconciled : participant.control.reconciliationRequired
  · exact ⟨_, _, nextOperation_reconciles hs.pending hreconciled⟩
  have hidle : participant.control.Idle := ⟨hs.pending, by simpa using hreconciled⟩
  unfold ParticipantCoordinator.reaction at h
  rw [if_neg hreconciled] at h
  suffices hasked : ∃ operation control,
      intendedOperation participant intent = .ok (some (operation, control)) by
    obtain ⟨operation, control, hasked⟩ := hasked
    exact ⟨operation, control, (nextOperation_of_idle hidle).trans hasked⟩
  cases intent with
  | prepare => simp at hintent
  | cancel => simp at hintent
  | install =>
    dsimp only at h
    obtain ⟨commit, hplanned, hplannable⟩ := hs.planned
    obtain ⟨body, hbody⟩ := hplannable.encoded
    have hphase : participant.phase ∈ [.ready, .installing] := by
      by_contra hother
      rw [if_neg hother] at h
      split at h <;> cases h
    have hunbound : ∀ bound, participant.control.commit = some bound → bound = commit :=
      fun bound hbound => Option.some.inj ((hs.bound bound hbound).symm.trans hplanned)
    have hinstall := ParticipantScheduleMachine.ok_of_requested
      (ParticipantScheduleMachine.Issues.install commit body hidle hplannable.identity hunbound
        hphase hbody).step
    have hintended : intendedOperation participant .install =
        ask (participant.control.beginInstall commit) := by
      unfold intendedOperation
      rw [hplanned]
      simp only [List.mem_cons, List.not_mem_nil, or_false] at hphase
      rcases hphase with hphase | hphase <;> rw [hphase] <;> rfl
    exact ⟨_, _, hintended.trans (ask_eq_ok.2 hinstall)⟩
  | confirm =>
    dsimp only at h
    have hphase : participant.phase = .installed := by
      by_contra hother
      rw [if_neg hother] at h
      split at h <;> cases h
    rw [if_pos hphase] at h
    have hcommit : participant.control.commit.isSome := by
      by_contra hnone
      rw [if_neg hnone] at h
      cases h
    obtain ⟨commit, hcommit⟩ := Option.isSome_iff_exists.1 hcommit
    obtain ⟨body, hbody⟩ := hs.representable.2 commit hcommit
    obtain ⟨reference, hreference⟩ := wire.confirm commit body hbody
    have hconfirm := ParticipantScheduleMachine.ok_of_requested
      (ParticipantScheduleMachine.Issues.confirm commit reference hidle hcommit hphase
        hreference).step
    have hintended : intendedOperation participant .confirm =
        ask participant.control.beginConfirm := by
      unfold intendedOperation
      rw [hphase]
    exact ⟨_, _, hintended.trans (ask_eq_ok.2 hconfirm)⟩
  | abort =>
    dsimp only at h
    by_cases hcommit : participant.control.commit.isSome
    · rw [if_pos hcommit] at h
      have hphase : participant.phase ∈ [.installing, .installed, .confirmed] := by
        by_contra hother
        rw [if_neg hother] at h
        split at h <;> cases h
      obtain ⟨operation, control, habort, -⟩ := abortOperation_of_abortable wire.toStoppable
        hs.representable ⟨hidle, hcommit, hphase⟩
      exact ⟨operation, control, (nextOperation_of_idle hidle).symm.trans habort⟩
    · rw [if_neg hcommit] at h
      have hphase : participant.phase ∈ [.preparing, .ready, .faulted] := by
        by_contra hother
        rw [if_neg hother] at h
        split at h <;> cases h
      have hnone : participant.control.commit = none := by simpa using hcommit
      obtain ⟨body, hbody⟩ := wire.cancel _ _ hs.representable.1
      have hcancel := ParticipantScheduleMachine.ok_of_requested
        (ParticipantScheduleMachine.Issues.cancel body hidle hnone hphase hbody).step
      have hintended : intendedOperation participant .abort =
          ask participant.control.beginCancel := by
        unfold intendedOperation nextAbortOperation
        rw [hnone]
        simp only [List.mem_cons, List.not_mem_nil, or_false] at hphase
        rcases hphase with hphase | hphase | hphase <;> rw [hphase] <;> rfl
      exact ⟨_, _, hintended.trans (ask_eq_ok.2 hcancel)⟩

/-! ## The request loop -/

/-- What the request loop does follows from the reaction to the first participant that is not passed
over. -/
theorem firstRequest_reaction (wire : JobWire.Attends)
    {participants : List ParticipantCoordinator}
    (hsteady : ∀ participant ∈ participants, Steady s participant)
    (hintent : intent ∈ [.install, .confirm, .abort]) :
    (firstReaction intent participants = .silent ∧
        (∀ participant ∈ participants, participant.reaction intent = .silent) ∧
        firstRequest (nextOperation intent false) participants = .ok none) ∨
      (firstReaction intent participants = .stuck ∧
        ∃ error, firstRequest (nextOperation intent false) participants = .error error) ∨
      firstReaction intent participants = .asked ∧ ∃ i participant operation control,
        participants[i]? = some participant ∧ participant.reaction intent = .asked ∧
        nextOperation intent false participant = .ok (some (operation, control)) ∧
        firstRequest (nextOperation intent false) participants =
          .ok (some (⟨participant.deviceId, operation⟩,
            participants.modify i ({ · with control }))) := by
  induction participants with
  | nil => exact .inl ⟨rfl, by simp, rfl⟩
  | cons first rest ih =>
    obtain ⟨hfirst, hrest⟩ := List.forall_mem_cons.1 hsteady
    cases hreaction : first.reaction intent with
    | silent =>
      have hsilent := nextOperation_silent hfirst.pending hreaction
      simp only [firstReaction, firstRequest, hreaction, hsilent]
      rcases ih hrest with ⟨hnext, hall, hfound⟩ | ⟨hnext, error, hfound⟩ |
        ⟨hnext, i, participant, operation, control, hi, hlater, hasked, hfound⟩
      · exact .inl ⟨hnext, List.forall_mem_cons.2 ⟨hreaction, hall⟩, by rw [hfound]; rfl⟩
      · exact .inr (.inl ⟨hnext, error, by rw [hfound]; rfl⟩)
      · refine .inr (.inr ⟨hnext, i + 1, participant, operation, control, ?_, hlater, hasked, ?_⟩)
        · rw [List.getElem?_cons_succ]
          exact hi
        · rw [hfound, List.modify_succ_cons]
          rfl
    | stuck =>
      obtain ⟨error, hstuck⟩ := nextOperation_stuck hfirst.pending hintent hreaction
      simp only [firstReaction, firstRequest, hreaction, hstuck]
      exact .inr (.inl ⟨trivial, error, rfl⟩)
    | asked =>
      obtain ⟨operation, control, hasked⟩ := nextOperation_asked wire hfirst hintent hreaction
      simp only [firstReaction, firstRequest, hreaction, hasked]
      exact .inr (.inr ⟨trivial, 0, first, operation, control, rfl, hreaction, hasked, rfl⟩)

/-! ## Renewals of a coordinator -/

omit [ClockEstimation] in
/-- A longer lease can be opened on a participant that executes. -/
theorem beginLeaseRenew_of_executes (wire : JobWire.Attends) (hs : Steady s participant)
    (hattended : s.networkPolicy = .networkAttended)
    (hidle : participant.control.reconciliationRequired = false) (hexecutes : participant.executes)
    {authorized expiry : DeviceCycle} {report : JobStatusReport} {schedule : JobScheduleReport}
    (hauthorized : participant.control.authorizedLeaseExpiryCycle = some authorized)
    (hreport : participant.control.report = some report)
    (hschedule : report.schedule = some schedule)
    (hlater : schedule.leaseExpiryCycle < expiry) (hgreatest : authorized ≤ expiry) :
    ∃ operation control, participant.control.beginLeaseRenew expiry = .ok (operation, control) := by
  have hphase : participant.control.phase ∈ [.confirmed, .priming, .primed, .running] := by
    simpa [ParticipantCoordinator.executes, ParticipantCoordinator.phase] using hexecutes
  have hcommit : participant.control.commit.isSome := by
    rw [← hs.leased.authorized, hauthorized]
    rfl
  obtain ⟨commit, hcommit⟩ := Option.isSome_iff_exists.1 hcommit
  obtain ⟨body, hbody⟩ := hs.representable.2 commit hcommit
  have hpolicy : commit.policy = .networkAttended := by
    obtain ⟨planned, hplanned, hplannable⟩ := hs.planned
    rw [hs.bound commit hcommit, Option.some_inj] at hplanned
    rw [hplanned, hplannable.policy, hattended]
  have hstate := participant.control.not_prepared_of_started
    (by simp only [List.mem_cons, List.not_mem_nil, or_false] at hphase ⊢; tauto) hreport hschedule
  obtain ⟨-, hlower, -⟩ := hs.leased.reported commit report schedule hcommit hreport hschedule hstate
  obtain ⟨renewal, hrenewal⟩ := wire.renew commit body expiry hbody hpolicy
    (UInt64.lt_of_le_of_lt hlower hlater)
  exact ⟨_, _, ParticipantScheduleMachine.ok_of_requested
    (ParticipantScheduleMachine.Issues.renew commit expiry schedule renewal ⟨hs.pending, hidle⟩
      hcommit hphase (by rw [hreport]; exact hschedule) hlater
      (fun greatest hsome => by rw [hauthorized] at hsome; cases hsome; exact hgreatest)
      hrenewal).step⟩

omit [ClockEstimation] in
/-- Only a participant that executes takes a longer lease. -/
theorem executes_of_beginLeaseRenew {expiry : DeviceCycle} {operation : ScheduleOperation}
    {control : ParticipantScheduleMachine jobAxes}
    (h : participant.control.beginLeaseRenew expiry = .ok (operation, control)) :
    participant.executes := by
  cases ParticipantScheduleMachine.beginLeaseRenew_issues h with
  | renew commit expiry schedule body idle bound phase =>
    simpa [ParticipantCoordinator.executes, ParticipantCoordinator.phase] using phase

/-- Renewals that can all be opened are. -/
theorem renewEach_of_ok {participants : List ParticipantCoordinator}
    {renewals : List ParticipantLeaseRenewal}
    (h : List.Forall₂ (fun participant renewal => ∃ operation control,
      participant.control.beginLeaseRenew renewal.leaseExpiryCycle = .ok (operation, control))
      participants renewals) :
    ∃ staged requests, renewEach participants renewals = (staged, .ok requests) := by
  induction h with
  | nil => exact ⟨[], [], rfl⟩
  | cons hfirst _ ih =>
    obtain ⟨operation, control, hfirst⟩ := hfirst
    obtain ⟨staged, requests, hrest⟩ := ih
    simp only [renewEach, hfirst, hrest]
    exact ⟨_, _, rfl⟩

/-- A renewal of all participants in order succeeds exactly when all of them execute. -/
theorem beginLeaseRenewal_isOk_iff {renewals : List ParticipantLeaseRenewal} (hs : s.Ordered)
    (hattended : s.networkPolicy = .networkAttended)
    (hphase : s.phase ∈ [.confirmed, .irrevocable])
    (hquiet : ∀ participant ∈ s.participants, participant.control.pending = none)
    (hdevices : renewals.map (·.deviceId) = s.devices)
    (hopens : List.Forall₂ (fun participant renewal => participant.executes →
      ∃ operation control, participant.control.beginLeaseRenew renewal.leaseExpiryCycle =
        .ok (operation, control)) s.participants renewals) :
    (∃ requests, (s.beginLeaseRenewal renewals).2 = .ok requests) ↔
      ∀ participant ∈ s.participants, participant.executes := by
  have hlength : renewals.length = s.participants.length := by
    rw [← List.length_map (f := fun renewal : ParticipantLeaseRenewal => renewal.deviceId),
      hdevices, devices, List.length_map]
  have hsorted : Table.sortByKey (fun renewal => deviceKey renewal.deviceId) renewals =
      renewals := by
    apply Table.sortByKey_of_sorted
    have hkeys : (renewals.map fun renewal => deviceKey renewal.deviceId).Pairwise (· < ·) := by
      have hincreasing := hs
      rwa [Ordered, ← hdevices, List.map_map] at hincreasing
    exact (List.pairwise_map.1 hkeys).imp fun hlt => le_of_lt hlt
  constructor
  · intro h participant hmem
    obtain ⟨requests, h⟩ := h
    rcases s.beginLeaseRenewal_cases renewals with
      ⟨error, hresult⟩ | ⟨staged, opened, hresult, -, -, -, -, heach⟩
    · rw [hresult] at h
      cases h
    · obtain ⟨i, hi⟩ := List.mem_iff_getElem?.1 hmem
      have hlt : i < s.participants.length := (List.getElem?_eq_some_iff.1 hi).1
      rw [hsorted] at heach
      obtain ⟨-, -, hall⟩ := renewEach_eq_ok hlength heach
      obtain ⟨_, _, -, -, operation, control, hrenew, -⟩ :=
        hall i participant _ hi (List.getElem?_eq_getElem (hlength ▸ hlt))
      exact executes_of_beginLeaseRenew hrenew
  · intro hall
    have hready : List.Forall₂ (fun participant renewal => ∃ operation control,
        participant.control.beginLeaseRenew renewal.leaseExpiryCycle = .ok (operation, control))
        s.participants renewals := by
      rw [List.forall₂_iff_get] at hopens ⊢
      refine ⟨hopens.1, ?_⟩
      intro i hi hj
      exact hopens.2 i hi hj (hall _ (List.get_mem _ _))
    obtain ⟨staged, requests, heach⟩ := renewEach_of_ok hready
    have hallowed : ¬ (s.networkPolicy ≠ .networkAttended ∨ s.phase ∉ [.confirmed, .irrevocable] ∨
        renewals.length ≠ s.participants.length ∨
        s.participants.any (·.control.pending.isSome)) := by
      simp only [not_or, not_not]
      refine ⟨hattended, hphase, hlength, ?_⟩
      simpa using hquiet
    have haligned : ¬ ((s.participants.zip renewals).any fun pair =>
        pair.1.deviceId ≠ pair.2.deviceId) := by
      simp only [List.any_eq_true, decide_eq_true_eq, not_exists, not_and, not_not]
      intro pair hpair
      obtain ⟨i, hi⟩ := List.mem_iff_getElem?.1 hpair
      rw [List.getElem?_zip_eq_some] at hi
      have hsame := congrArg (fun ids : List DeviceId => ids[i]?) hdevices
      simp only [devices, List.getElem?_map, hi.1, hi.2, Option.map_some, Option.some_inj] at hsame
      exact hsame.symm
    unfold beginLeaseRenewal
    rw [if_neg hallowed]
    dsimp only
    rw [hsorted, if_neg (by simpa using haligned), heach]
    exact ⟨requests, rfl⟩

end Reactions

end DistributedScheduleCoordinator

/-! ## Leases -/

section Leases

variable [CapabilityWire] [ClockEstimation] {runtime : ControlWorkerRuntime} {head : WorkerJobHead}
  {job : LiveCachedJob} {binding : LiveJobParticipantBinding} {nowUiNs targetUiNs : UInt64}

/-- The frequency of a device and the latest cycle it can be at. -/
def ControlWorkerRuntime.leaseClock (runtime : ControlWorkerRuntime) (nowUiNs : UInt64)
    (binding : LiveJobParticipantBinding) : Option (UInt64 × DeviceCycle) :=
  match runtime.devices binding.connectionId with
  | some (.idle state) => do
    let heartbeat ← state.clock.latestResponse
    let estimate ← (state.clock.estimateAt nowUiNs state.maximumUncertaintyCycles).toOption
    pure (heartbeat.frequencyHz, estimate.latestCycle)
  | _ => none

/-- How a lease stands: there is none, it has run out, it is to be renewed, or it is long enough. -/
inductive LeaseState where
  | missing | lapsed | due | held
  deriving DecidableEq, Repr

def leaseState (runtime : ControlWorkerRuntime) (job : LiveCachedJob) (nowUiNs : UInt64)
    (binding : LiveJobParticipantBinding) : LeaseState :=
  match runtime.leaseClock nowUiNs binding, job.participantLeaseExpiryCycle binding.deviceId,
    job.participantAuthorizedLeaseExpiryCycle binding.deviceId with
  | some (frequencyHz, latestCycle), some reported, some authorized =>
    if reported ≤ latestCycle then .lapsed
    else if reported < authorized ∨
      (reported - latestCycle).toNat ≤ frequencyHz.toNat * jobAttendedRenewalThresholdSeconds.toNat
    then .due
    else .held
  | _, _, _ => .missing

/-- How the leases of some participants stand, of which the first missing or lapsed one counts. -/
def leasesState (runtime : ControlWorkerRuntime) (job : LiveCachedJob) (nowUiNs : UInt64) :
    List LiveJobParticipantBinding → LeaseState
  | [] => .held
  | binding :: rest =>
    match leaseState runtime job nowUiNs binding with
    | .missing => .missing
    | .lapsed => .lapsed
    | .held => leasesState runtime job nowUiNs rest
    | .due =>
      match leasesState runtime job nowUiNs rest with
      | .held => .due
      | other => other

/-- The clock of a device estimates now and predicts the target, on the boot of the binding, with
cycles left in its counter. -/
structure Clocked (state : DeviceState) (binding : LiveJobParticipantBinding)
    (nowUiNs targetUiNs : UInt64) (heartbeat : ClockHeartbeatResponse)
    (estimate : ClockInstantEstimate) (prediction : ClockPrediction) : Prop where
  answered : state.clock.latestResponse = some heartbeat
  frequency : heartbeat.frequencyHz.toNat * jobAttendedRenewalThresholdSeconds.toNat < 2 ^ 64
  estimated : state.clock.estimateAt nowUiNs state.maximumUncertaintyCycles = .ok estimate
  estimateBoot : estimate.bootId = binding.bootId
  predicted : state.clock.predict nowUiNs targetUiNs state.maximumUncertaintyCycles =
    .ok prediction
  predictionBoot : prediction.bootId = binding.bootId

variable [StorageWire] [JobWire]

/-- The next lease of a clocked participant exceeds the reported one and is not below the greatest
requested one. -/
theorem attendedLeaseTarget_eq {state : DeviceState} {heartbeat : ClockHeartbeatResponse}
    {estimate : ClockInstantEstimate} {prediction : ClockPrediction}
    (h : Clocked state binding nowUiNs targetUiNs heartbeat estimate prediction)
    {reported authorized : UInt64} (hgranted : reported ≤ authorized)
    (hroom : authorized.toNat + 1 < 2 ^ 64) :
    (reported ≤ estimate.latestCycle ∧
        attendedLeaseTarget state binding reported authorized nowUiNs targetUiNs = .ok none) ∨
      ¬ reported ≤ estimate.latestCycle ∧ ∃ leaseExpiryCycle, reported < leaseExpiryCycle ∧
        authorized ≤ leaseExpiryCycle ∧
        attendedLeaseTarget state binding reported authorized nowUiNs targetUiNs =
          .ok (some (leaseExpiryCycle, reported < authorized ||
            (reported - estimate.latestCycle).toNat ≤
              heartbeat.frequencyHz.toNat * jobAttendedRenewalThresholdSeconds.toNat)) := by
  have hthreshold : heartbeat.frequencyHz.checkedMul jobAttendedRenewalThresholdSeconds =
      some (heartbeat.frequencyHz * jobAttendedRenewalThresholdSeconds) := if_pos h.frequency
  have hthresholdNat : (heartbeat.frequencyHz * jobAttendedRenewalThresholdSeconds).toNat =
      heartbeat.frequencyHz.toNat * jobAttendedRenewalThresholdSeconds.toNat := by
    rw [UInt64.toNat_mul, Nat.mod_eq_of_lt h.frequency]
  have hguard : heartbeat.frequencyHz.checkedMul jobAttendedRetryGuardSeconds =
      some (heartbeat.frequencyHz * jobAttendedRetryGuardSeconds) := by
    refine if_pos ?_
    show heartbeat.frequencyHz.toNat * 1 < 2 ^ 64
    have := heartbeat.frequencyHz.toNat_lt
    omega
  have hminimum : authorized.checkedAdd 1 = some (authorized + 1) := if_pos hroom
  have hminimumNat : (authorized + 1).toNat = authorized.toNat + 1 := by
    rw [UInt64.toNat_add]
    exact Nat.mod_eq_of_lt hroom
  have hestimated : (state.clock.estimateAt nowUiNs state.maximumUncertaintyCycles).mapError
      (WorkerJobError.clock binding.connectionId "lease clock estimate failed") = .ok estimate := by
    rw [h.estimated]
    rfl
  have hpredicted : (state.clock.predict nowUiNs targetUiNs
      state.maximumUncertaintyCycles).mapError
        (WorkerJobError.clock binding.connectionId "lease clock prediction failed") =
      .ok prediction := by
    rw [h.predicted]
    rfl
  unfold attendedLeaseTarget
  rw [Except.bind_of_ok (Except.failIf_of_not (UInt64.not_lt.2 hgranted)), h.answered,
    Except.bind_of_ok Option.okOr_some, Except.bind_of_ok hestimated,
    Except.bind_of_ok (Except.failIf_of_not (not_not.2 h.estimateBoot))]
  by_cases hlapsed : reported ≤ estimate.latestCycle
  · left
    exact ⟨hlapsed, if_pos hlapsed⟩
  right
  refine ⟨hlapsed, ?_⟩
  rw [if_neg hlapsed]
  dsimp only
  rw [hthreshold, Except.bind_of_ok Option.okOr_some, Except.bind_of_ok hpredicted,
    Except.bind_of_ok (Except.failIf_of_not (not_not.2 h.predictionBoot)), hguard,
    Except.bind_of_ok Option.okOr_some, hminimum]
  have hdue : (decide (reported < authorized) || decide (reported - estimate.latestCycle ≤
      heartbeat.frequencyHz * jobAttendedRenewalThresholdSeconds)) =
      (decide (reported < authorized) || decide ((reported - estimate.latestCycle).toNat ≤
        heartbeat.frequencyHz.toNat * jobAttendedRenewalThresholdSeconds.toNat)) :=
    congrArg _ (decide_eq_decide.2 (by rw [UInt64.le_iff_toNat_le, hthresholdNat]))
  rw [hdue]
  have hgrantedNat := UInt64.le_iff_toNat_le.1 hgranted
  split
  · next hretry =>
    -- the greatest requested lease has not arrived yet
    have hunapplied : reported < authorized := by
      simp only [Bool.and_eq_true, decide_eq_true_eq] at hretry
      exact hretry.1
    exact ⟨authorized, hunapplied, UInt64.le_refl _, rfl⟩
  · have hlater : authorized + 1 ≤ max prediction.scheduledCycle (authorized + 1) := by
      show authorized + 1 ≤ if prediction.scheduledCycle ≤ authorized + 1 then authorized + 1
        else prediction.scheduledCycle
      split
      · exact UInt64.le_refl _
      · next hgreater => exact UInt64.le_of_lt (UInt64.not_le.1 hgreater)
    have hlaterNat := UInt64.le_iff_toNat_le.1 hlater
    refine ⟨max prediction.scheduledCycle (authorized + 1), ?_, ?_, rfl⟩
    · rw [UInt64.lt_iff_toNat_lt]
      omega
    · rw [UInt64.le_iff_toNat_le]
      omega

variable [DiagnosticWire] [WorkerWire] [BoardCapabilities]

/-- The device of a participant is connected, eligible and clocked, and its counter has cycles left
after the greatest requested lease. -/
structure Attendable (runtime : ControlWorkerRuntime) (head : WorkerJobHead) (job : LiveCachedJob)
    (nowUiNs targetUiNs : UInt64) (binding : LiveJobParticipantBinding) : Prop where
  device : ∃ state heartbeat estimate prediction,
    runtime.devices binding.connectionId = some (.idle state) ∧
      validateStartEligibility state binding head.executionMode = .ok () ∧
      Clocked state binding nowUiNs targetUiNs heartbeat estimate prediction
  room : ∀ authorized,
    job.participantAuthorizedLeaseExpiryCycle binding.deviceId = some authorized →
      authorized.toNat + 1 < 2 ^ 64

/-- The reported lease of a participant is one the worker has requested. -/
def Granted (job : LiveCachedJob) (binding : LiveJobParticipantBinding) : Prop :=
  ∀ reported authorized,
    job.participantLeaseExpiryCycle binding.deviceId = some reported →
      job.participantAuthorizedLeaseExpiryCycle binding.deviceId = some authorized →
      reported ≤ authorized

/-- A renewal for the device of a participant, past its leases. -/
def Extends (job : LiveCachedJob) (binding : LiveJobParticipantBinding)
    (renewal : ParticipantLeaseRenewal) : Prop :=
  renewal.deviceId = binding.deviceId ∧ ∃ reported authorized,
    job.participantLeaseExpiryCycle binding.deviceId = some reported ∧
      job.participantAuthorizedLeaseExpiryCycle binding.deviceId = some authorized ∧
      reported < renewal.leaseExpiryCycle ∧ authorized ≤ renewal.leaseExpiryCycle

/-- What is collected for one participant follows from how its lease stands. -/
theorem attendedRenewals_cons (rest : List LiveJobParticipantBinding)
    (h : Attendable runtime head job nowUiNs targetUiNs binding) (hgranted : Granted job binding) :
    (leaseState runtime job nowUiNs binding = .missing ∧ ∃ error,
      attendedRenewals runtime head job nowUiNs targetUiNs (binding :: rest) = .error error) ∨
    (leaseState runtime job nowUiNs binding = .lapsed ∧
      attendedRenewals runtime head job nowUiNs targetUiNs (binding :: rest) = .ok none) ∨
    ∃ due renewal, leaseState runtime job nowUiNs binding = (if due then .due else .held) ∧
      Extends job binding renewal ∧
      attendedRenewals runtime head job nowUiNs targetUiNs (binding :: rest) =
        (attendedRenewals runtime head job nowUiNs targetUiNs rest).map
          (Option.map fun collected => (due || collected.1, renewal :: collected.2)) := by
  obtain ⟨state, heartbeat, estimate, prediction, hstate, heligible, hclocked⟩ := h.device
  have hdevice : attendedLeaseDevice runtime binding = .ok state := by
    unfold attendedLeaseDevice idleDevice
    rw [hstate]
    rfl
  have hclock : runtime.leaseClock nowUiNs binding =
      some (heartbeat.frequencyHz, estimate.latestCycle) := by
    unfold ControlWorkerRuntime.leaseClock
    rw [hstate]
    simp [hclocked.answered, hclocked.estimated, Except.toOption]
  rw [attendedRenewals, Except.bind_of_ok hdevice, Except.bind_of_ok heligible]
  unfold leaseState
  rw [hclock]
  cases hreported : job.participantLeaseExpiryCycle binding.deviceId with
  | none => exact .inl ⟨rfl, _, rfl⟩
  | some reported =>
    rw [Except.bind_of_ok Option.okOr_some]
    cases hauthorized : job.participantAuthorizedLeaseExpiryCycle binding.deviceId with
    | none => exact .inl ⟨rfl, _, rfl⟩
    | some authorized =>
      rw [Except.bind_of_ok Option.okOr_some]
      dsimp only
      rcases attendedLeaseTarget_eq hclocked (hgranted _ _ hreported hauthorized)
        (h.room _ hauthorized) with ⟨hlapsed, htarget⟩ |
        ⟨hrunning, leaseExpiryCycle, hlater, hgreatest, htarget⟩
      · rw [htarget, if_pos hlapsed]
        exact .inr (.inl ⟨rfl, rfl⟩)
      · rw [Except.bind_of_ok htarget, if_neg hrunning]
        refine .inr (.inr ⟨reported < authorized ||
          (reported - estimate.latestCycle).toNat ≤
            heartbeat.frequencyHz.toNat * jobAttendedRenewalThresholdSeconds.toNat,
          ⟨binding.deviceId, leaseExpiryCycle⟩, ?_,
          ⟨rfl, reported, authorized, hreported, hauthorized, hlater, hgreatest⟩, ?_⟩)
        · simp only [Bool.or_eq_true, decide_eq_true_eq]
        · dsimp only
          cases attendedRenewals runtime head job nowUiNs targetUiNs rest with
          | error error => rfl
          | ok collected =>
            cases collected with
            | none => rfl
            | some found => rfl

/-- What is collected for some participants follows from how their leases stand. -/
theorem attendedRenewals_eq {bindings : List LiveJobParticipantBinding}
    (h : ∀ binding ∈ bindings, Attendable runtime head job nowUiNs targetUiNs binding)
    (hgranted : ∀ binding ∈ bindings, Granted job binding) :
    (leasesState runtime job nowUiNs bindings = .missing ∧ ∃ error,
      attendedRenewals runtime head job nowUiNs targetUiNs bindings = .error error) ∨
    (leasesState runtime job nowUiNs bindings = .lapsed ∧
      attendedRenewals runtime head job nowUiNs targetUiNs bindings = .ok none) ∨
    ∃ due renewals, leasesState runtime job nowUiNs bindings = (if due then .due else .held) ∧
      List.Forall₂ (Extends job) bindings renewals ∧
      attendedRenewals runtime head job nowUiNs targetUiNs bindings =
        .ok (some (due, renewals)) := by
  induction bindings with
  | nil => exact .inr (.inr ⟨false, [], rfl, .nil, rfl⟩)
  | cons binding rest ih =>
    obtain ⟨hfirst, hrest⟩ := List.forall_mem_cons.1 h
    obtain ⟨hfirstGranted, hrestGranted⟩ := List.forall_mem_cons.1 hgranted
    simp only [leasesState]
    rcases attendedRenewals_cons rest hfirst hfirstGranted with
      ⟨hmissing, error, hcollected⟩ | ⟨hlapsed, hcollected⟩ |
      ⟨due, renewal, hstate, hextends, hcollected⟩
    · rw [hmissing, hcollected]
      exact .inl ⟨rfl, error, rfl⟩
    · rw [hlapsed, hcollected]
      exact .inr (.inl ⟨rfl, rfl⟩)
    · rw [hstate, hcollected]
      rcases ih hrest hrestGranted with ⟨hmissing, error, hlater⟩ | ⟨hlapsed, hlater⟩ |
        ⟨laterDue, renewals, hlaterState, hlaterExtends, hlater⟩
      · rw [hmissing, hlater]
        refine .inl ⟨?_, error, rfl⟩
        cases due <;> rfl
      · rw [hlapsed, hlater]
        refine .inr (.inl ⟨?_, rfl⟩)
        cases due <;> rfl
      · rw [hlaterState, hlater]
        refine .inr (.inr ⟨due || laterDue, renewal :: renewals, ?_, .cons hextends hlaterExtends,
          rfl⟩)
        cases due <;> cases laterDue <;> rfl

end Leases

end Alumina.Client
