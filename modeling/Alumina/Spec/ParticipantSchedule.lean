import Alumina.Client.Schedule

/-!
# What a call on a participant can do

One inversion lemma says everything a call on `ParticipantScheduleMachine` can do: it is
refused without effect, issues a request, or settles the pending one with or without a
report. Every result about runs is a case analysis of it.

## Key results

- `perform_cases`: the inversion lemma
- `Accepts`: when a report is retained
- `schedule_of_advances`: what the regression guard lets a schedule do
-/

namespace Alumina.Client

open Except (failIf)

variable [JobWire] {axes : Nat}

namespace ParticipantScheduleMachine

variable {machine machine' : ParticipantScheduleMachine axes} {call : Call}
  {operation : ScheduleOperation} {action : ScheduleAction}

omit [JobWire] in
/-- Nothing is pending and nothing has to be reconciled. -/
def Idle (machine : ParticipantScheduleMachine axes) : Prop :=
  machine.pending = none ∧ machine.reconciliationRequired = false

theorem ensureMutationAllowed_eq_ok : machine.ensureMutationAllowed = .ok () ↔ machine.Idle := by
  simp [ensureMutationAllowed, ensureNoPending, Idle]

/-! ## Requests -/

/-- What a successful request required, emitted and changed. -/
inductive Issues (machine : ParticipantScheduleMachine axes) :
    Call → ScheduleOperation → ParticipantScheduleMachine axes → Prop
  | prepare (body : List UInt8) (idle : machine.Idle) (unbound : machine.commit = none)
      (phase : machine.phase ∈ [.empty, .preparing])
      (encoded : JobWire.encodeDescriptor axes machine.descriptor = .ok body) :
      Issues machine .beginPrepare ⟨.jobPrepare, body⟩ { machine with pending := some .prepare }
  | status (quiet : machine.pending = none) :
      Issues machine .beginStatus ⟨.jobStatus, []⟩ { machine with pending := some .status }
  | install (commit : JobCommitRequest) (body : List UInt8) (idle : machine.Idle)
      (identity : commit.prepareId = machine.descriptor.prepareId ∧
        commit.bootId = machine.bootId ∧ commit.preparedToken = machine.preparedToken ∧
        commit.partitionDigest = machine.descriptor.partition.object.content.digest)
      (unbound : ∀ bound, machine.commit = some bound → bound = commit)
      (phase : machine.phase ∈ [.ready, .installing])
      (encoded : JobWire.encodeCommit commit = .ok body) :
      Issues machine (.beginInstall commit) ⟨.jobCommit, body⟩
        { machine with
          commit := some commit
          authorizedLeaseExpiryCycle := some commit.leaseExpiryCycle
          pending := some .install }
  | confirm (commit : JobCommitRequest) (body : List UInt8) (idle : machine.Idle)
      (bound : machine.commit = some commit) (phase : machine.phase = .installed)
      (encoded : JobWire.encodeReference .confirm commit = .ok body) :
      Issues machine .beginConfirm ⟨.jobConfirm, body⟩ { machine with pending := some .confirm }
  | renew (commit : JobCommitRequest) (expiry : DeviceCycle) (schedule : JobScheduleReport)
      (body : List UInt8) (idle : machine.Idle) (bound : machine.commit = some commit)
      (phase : machine.phase ∈ [.confirmed, .priming, .primed, .running])
      (reported : machine.report.bind (·.schedule) = some schedule)
      (later : schedule.leaseExpiryCycle < expiry)
      (greatest : ∀ authorized, machine.authorizedLeaseExpiryCycle = some authorized →
        authorized ≤ expiry)
      (encoded : JobWire.encodeRenewal commit expiry = .ok body) :
      Issues machine (.beginLeaseRenew expiry) ⟨.jobLeaseRenew, body⟩
        { machine with
          authorizedLeaseExpiryCycle := some expiry
          pending := some .renewLease }
  | abort (commit : JobCommitRequest) (body : List UInt8) (idle : machine.Idle)
      (bound : machine.commit = some commit)
      (phase : machine.phase ∈ [.installing, .installed, .confirmed])
      (encoded : JobWire.encodeReference .abort commit = .ok body) :
      Issues machine .beginAbort ⟨.jobAbort, body⟩ { machine with pending := some .abort }
  | cancel (body : List UInt8) (idle : machine.Idle) (unbound : machine.commit = none)
      (phase : machine.phase ∈ [.preparing, .ready, .faulted])
      (encoded : JobWire.encodeCancel machine.descriptor.prepareId = .ok body) :
      Issues machine .beginCancel ⟨.jobCancel, body⟩ { machine with pending := some .cancel }

theorem beginPrepare_issues (h : machine.beginPrepare = .ok (operation, machine')) :
    Issues machine .beginPrepare operation machine' := by
  simp only [beginPrepare, Except.bind_eq_ok, Except.exists_unit, ensureMutationAllowed_eq_ok,
    Except.failIf_eq_ok, Except.mapError_eq_ok, Except.pure_eq_ok, Prod.mk.injEq, not_or,
    not_not, Bool.not_eq_true, Option.isSome_eq_false_iff, Option.isNone_iff_eq_none] at h
  obtain ⟨hidle, ⟨hphase, hcommit⟩, body, hbody, rfl, rfl⟩ := h
  exact .prepare body hidle hcommit hphase hbody

theorem beginStatus_issues (h : machine.beginStatus = .ok (operation, machine')) :
    Issues machine .beginStatus operation machine' := by
  simp only [beginStatus, ensureNoPending, Except.bind_eq_ok, Except.exists_unit,
    Except.failIf_eq_ok, Except.pure_eq_ok, Prod.mk.injEq, Bool.not_eq_true,
    Option.isSome_eq_false_iff, Option.isNone_iff_eq_none] at h
  obtain ⟨hquiet, rfl, rfl⟩ := h
  exact .status hquiet

theorem beginInstall_issues {commit : JobCommitRequest}
    (h : machine.beginInstall commit = .ok (operation, machine')) :
    Issues machine (.beginInstall commit) operation machine' := by
  simp only [beginInstall, Except.bind_eq_ok, Except.exists_unit, ensureMutationAllowed_eq_ok,
    Except.failIf_eq_ok, Except.mapError_eq_ok, Except.pure_eq_ok, Prod.mk.injEq, not_or,
    not_not] at h
  obtain ⟨hidle, hidentity, body, hbody, hbound, hphase, rfl, rfl⟩ := h
  refine .install commit body hidle hidentity ?_ hphase hbody
  intro bound hsome
  simpa [hsome] using hbound

theorem beginConfirm_issues (h : machine.beginConfirm = .ok (operation, machine')) :
    Issues machine .beginConfirm operation machine' := by
  simp only [beginConfirm, Except.bind_eq_ok, Except.exists_unit, ensureMutationAllowed_eq_ok,
    Except.failIf_eq_ok, Except.mapError_eq_ok, Option.okOr_eq_ok, Except.pure_eq_ok,
    Prod.mk.injEq, not_not] at h
  obtain ⟨hidle, hphase, commit, hcommit, body, hbody, rfl, rfl⟩ := h
  exact .confirm commit body hidle hcommit hphase hbody

theorem beginLeaseRenew_issues {expiry : DeviceCycle}
    (h : machine.beginLeaseRenew expiry = .ok (operation, machine')) :
    Issues machine (.beginLeaseRenew expiry) operation machine' := by
  simp only [beginLeaseRenew, Except.bind_eq_ok, Except.exists_unit, ensureMutationAllowed_eq_ok,
    Except.failIf_eq_ok, Except.mapError_eq_ok, Option.okOr_eq_ok, Except.pure_eq_ok,
    Prod.mk.injEq, not_not] at h
  obtain ⟨hidle, hphase, commit, hcommit, schedule, hschedule, hlater, hgreatest, body, hbody,
    rfl, rfl⟩ := h
  refine .renew commit expiry schedule body hidle hcommit hphase hschedule ?_ ?_ hbody
  · simpa using hlater
  · intro authorized hauthorized
    simpa [hauthorized] using hgreatest

theorem beginAbort_issues (h : machine.beginAbort = .ok (operation, machine')) :
    Issues machine .beginAbort operation machine' := by
  simp only [beginAbort, Except.bind_eq_ok, Except.exists_unit, ensureMutationAllowed_eq_ok,
    Except.failIf_eq_ok, Except.mapError_eq_ok, Option.okOr_eq_ok, Except.pure_eq_ok,
    Prod.mk.injEq, not_not] at h
  obtain ⟨hidle, hphase, commit, hcommit, body, hbody, rfl, rfl⟩ := h
  exact .abort commit body hidle hcommit hphase hbody

theorem beginCancel_issues (h : machine.beginCancel = .ok (operation, machine')) :
    Issues machine .beginCancel operation machine' := by
  simp only [beginCancel, Except.bind_eq_ok, Except.exists_unit, ensureMutationAllowed_eq_ok,
    Except.failIf_eq_ok, Except.mapError_eq_ok, Except.pure_eq_ok, Prod.mk.injEq, not_or,
    not_not, Bool.not_eq_true, Option.isSome_eq_false_iff, Option.isNone_iff_eq_none] at h
  obtain ⟨hidle, ⟨hcommit, hphase⟩, body, hbody, rfl, rfl⟩ := h
  exact .cancel body hidle hcommit hphase hbody

/-- What a request required is enough for it. -/
theorem Issues.step (h : Issues machine call operation machine') :
    Step machine (call, .request (.ok operation)) machine' := by
  have hallowed : machine.Idle → machine.ensureMutationAllowed = .ok () :=
    ensureMutationAllowed_eq_ok.2
  show machine.perform call = (machine', .request (.ok operation))
  cases h with
  | prepare body idle unbound phase encoded =>
    have hresult : machine.beginPrepare =
        .ok (⟨.jobPrepare, body⟩, { machine with pending := some .prepare }) := by
      simp [beginPrepare, hallowed idle, phase, unbound, encoded]
    rw [perform, hresult]
    rfl
  | status quiet =>
    have hresult : machine.beginStatus =
        .ok (⟨.jobStatus, []⟩, { machine with pending := some .status }) := by
      simp [beginStatus, ensureNoPending, quiet]
    rw [perform, hresult]
    rfl
  | install commit body idle identity unbound phase encoded =>
    have hresult : machine.beginInstall commit =
        .ok (⟨.jobCommit, body⟩, { machine with
          commit := some commit
          authorizedLeaseExpiryCycle := some commit.leaseExpiryCycle
          pending := some .install }) := by
      have hbound : machine.commit.any (fun bound => !decide (bound = commit)) = false := by
        cases hcommit : machine.commit with
        | none => rfl
        | some bound => simp [unbound bound hcommit]
      simp [beginInstall, hallowed idle, identity, hbound, phase, encoded]
    rw [perform, hresult]
    rfl
  | confirm commit body idle bound phase encoded =>
    have hresult : machine.beginConfirm =
        .ok (⟨.jobConfirm, body⟩, { machine with pending := some .confirm }) := by
      simp [beginConfirm, hallowed idle, phase, bound, encoded]
    rw [perform, hresult]
    rfl
  | renew commit expiry schedule body idle bound phase reported later greatest encoded =>
    have hresult : machine.beginLeaseRenew expiry =
        .ok (⟨.jobLeaseRenew, body⟩, { machine with
          authorizedLeaseExpiryCycle := some expiry
          pending := some .renewLease }) := by
      have hgreatest : machine.authorizedLeaseExpiryCycle.any (expiry < ·) = false := by
        cases hauthorized : machine.authorizedLeaseExpiryCycle with
        | none => rfl
        | some authorized => simp [greatest authorized hauthorized]
      simp [beginLeaseRenew, hallowed idle, phase, bound, reported, later, hgreatest, encoded]
    rw [perform, hresult]
    rfl
  | abort commit body idle bound phase encoded =>
    have hresult : machine.beginAbort =
        .ok (⟨.jobAbort, body⟩, { machine with pending := some .abort }) := by
      simp [beginAbort, hallowed idle, phase, bound, encoded]
    rw [perform, hresult]
    rfl
  | cancel body idle unbound phase encoded =>
    have hresult : machine.beginCancel =
        .ok (⟨.jobCancel, body⟩, { machine with pending := some .cancel }) := by
      simp [beginCancel, hallowed idle, phase, unbound, encoded]
    rw [perform, hresult]
    rfl

/-! ## Responses -/

/-- The report a decoded response leaves retained: none instead of a finished foreign job
at the first status, and otherwise a validated report that does not regress. -/
def Accepts (machine : ParticipantScheduleMachine axes) (action : ScheduleAction)
    (received report : JobStatusReport) : Prop :=
  action = .status ∧ machine.report = none ∧ machine.commit = none ∧
      replaceableForeignTerminal machine.descriptor received ∧ report = default ∨
    report = received ∧ machine.validateReport received = .ok () ∧
      ∀ previous, machine.report = some previous → jobReportAdvances previous received

/-- How a pending request was settled. -/
inductive Settles (machine : ParticipantScheduleMachine axes) (action : ScheduleAction) :
    Call → ParticipantScheduleMachine axes → Prop
  | dropped (call : Call) :
      Settles machine action call
        { machine with
          pending := none
          reconciliationRequired := machine.reconciliationRequired || action.mutates }
  | retained (response : Response) (received report : JobStatusReport)
      (body : response.body ≠ [])
      (decoded : JobWire.decodeStatus response.body = .ok received)
      (accepted : machine.Accepts action received report) :
      Settles machine action (.acceptResponse response)
        { machine with
          pending := none
          report := some report
          reconciliationRequired := false }

/-- Settling a request leaves the commit alone. -/
theorem Settles.commit_eq (h : Settles machine action call machine') :
    machine'.commit = machine.commit := by
  cases h <;> rfl

theorem acceptResponse_cases (machine : ParticipantScheduleMachine axes) (response : Response) :
    (machine.pending = none ∧ (machine.acceptResponse response).1 = machine) ∨
      ∃ action, machine.pending = some action ∧
        Settles machine action (.acceptResponse response) (machine.acceptResponse response).1 := by
  unfold acceptResponse
  split
  · next hpending => exact Or.inl ⟨hpending, rfl⟩
  · next action hpending =>
    refine Or.inr ⟨action, hpending, ?_⟩
    simp only
    split
    · split <;> exact .dropped _
    · next hbody =>
      split
      · exact .dropped _
      · next received hdecoded =>
        split
        · next hforeign =>
          -- the first status shows a finished job of another preparation
          rw [Option.isNone_iff_eq_none, Option.isNone_iff_eq_none] at hforeign
          exact .retained response received default hbody hdecoded
            (Or.inl ⟨hforeign.1, hforeign.2.1, hforeign.2.2.1, hforeign.2.2.2, rfl⟩)
        · split
          · exact .dropped _
          · next hvalid =>
            split
            · exact .dropped _
            · next hadvances =>
              refine .retained response received received hbody hdecoded
                (Or.inr ⟨rfl, hvalid, ?_⟩)
              intro previous hprevious
              simpa [hprevious] using hadvances

theorem abandonPending_cases (machine : ParticipantScheduleMachine axes) :
    (machine.pending = none ∧ machine.abandonPending = (machine, false)) ∨
      ∃ action, machine.pending = some action ∧
        Settles machine action .abandonPending machine.abandonPending.1 := by
  unfold abandonPending
  split
  · next hpending => exact Or.inl ⟨hpending, rfl⟩
  · next action hpending => exact Or.inr ⟨action, hpending, .dropped _⟩

/-- Everything a call can do. -/
inductive Transition (machine : ParticipantScheduleMachine axes) :
    Call × Outcome → ParticipantScheduleMachine axes → Prop
  | refused (call : Call) (outcome : Outcome)
      (quiet : ∀ operation, outcome ≠ .request (.ok operation)) :
      Transition machine (call, outcome) machine
  | issued (call : Call) (operation : ScheduleOperation) (machine' : ParticipantScheduleMachine axes)
      (issues : Issues machine call operation machine') :
      Transition machine (call, .request (.ok operation)) machine'
  | settled (call : Call) (outcome : Outcome) (action : ScheduleAction)
      (machine' : ParticipantScheduleMachine axes)
      (quiet : ∀ operation, outcome ≠ .request (.ok operation))
      (pending : machine.pending = some action) (settles : Settles machine action call machine') :
      Transition machine (call, outcome) machine'

private theorem requested_transition
    {result : ScheduleResult (ScheduleOperation × ParticipantScheduleMachine axes)}
    (h : ∀ operation machine', result = .ok (operation, machine') →
      Issues machine call operation machine') :
    Transition machine (call, (machine.requested result).2) (machine.requested result).1 := by
  cases result with
  | error error => exact .refused _ _ (by simp [requested])
  | ok issued => exact .issued _ issued.1 _ (h _ _ rfl)

theorem perform_cases {outcome : Outcome} (h : Step machine (call, outcome) machine') :
    Transition machine (call, outcome) machine' := by
  have hperform : machine.perform call = (machine', outcome) := h
  have hgoal : Transition machine (call, (machine.perform call).2) (machine.perform call).1 := by
    cases call with
    | beginPrepare => exact requested_transition fun _ _ => beginPrepare_issues
    | beginStatus => exact requested_transition fun _ _ => beginStatus_issues
    | beginInstall commit => exact requested_transition fun _ _ => beginInstall_issues
    | beginConfirm => exact requested_transition fun _ _ => beginConfirm_issues
    | beginLeaseRenew expiry => exact requested_transition fun _ _ => beginLeaseRenew_issues
    | beginAbort => exact requested_transition fun _ _ => beginAbort_issues
    | beginCancel => exact requested_transition fun _ _ => beginCancel_issues
    | acceptResponse response =>
      rcases machine.acceptResponse_cases response with ⟨-, hsame⟩ | ⟨action, hpending, hsettles⟩
      · simp only [perform, hsame]
        exact .refused _ _ (by simp)
      · exact .settled _ _ action _ (by simp [perform]) hpending hsettles
    | abandonPending =>
      rcases machine.abandonPending_cases with ⟨-, heq⟩ | ⟨action, hpending, hsettles⟩
      · simp only [perform, heq]
        exact .refused _ _ (by simp)
      · exact .settled _ _ action _ (by simp [perform]) hpending hsettles
  rw [hperform] at hgoal
  exact hgoal

end ParticipantScheduleMachine

end Alumina.Client
