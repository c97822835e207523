import Alumina.Spec.ScheduleEvidence

/-!
# Start authority of a participant

Which commit a participant's requests refer to, what a confirm rests on, and when a
mutation has to be reconciled first.

## Key results

- `refers_of_run`: all schedule requests of a run refer to its one commit
- `installed_of_confirm`: a confirm rests on a matching installed report
- `status_until_report`: after an unsettled mutation only a status request is emitted
- `scheduleAuthority`: the discipline over every run, and exactly when the authorized
  lease is the greatest one requested
-/

namespace Alumina.Client

namespace ParticipantScheduleMachine

/-! ## What a phase rests on -/

section Phases

variable {axes : Nat} {machine : ParticipantScheduleMachine axes}

/-- An installed, confirmed or later phase is the state of the reported schedule. -/
theorem schedule_of_phase {state : JobScheduleState} (hprepared : state ≠ .prepared)
    (hfaulted : state ≠ .faulted) (h : machine.phase = state.phase) :
    ∃ report schedule, machine.report = some report ∧ report.schedule = some schedule ∧
      schedule.state = state := by
  cases hreport : machine.report with
  | none =>
    rw [show machine.phase = .empty by simp [phase, hreport]] at h
    cases state <;> cases h
  | some report =>
    by_cases hfault : report.actorFaulted
    · rw [phase_of_actorFaulted hreport hfault] at h
      exact absurd (JobScheduleState.phase_injective (h.symm.trans rfl : state.phase = JobScheduleState.faulted.phase))
        hfaulted
    by_cases hcancel : report.actorsCancelled
    · rw [phase_of_actorsCancelled hreport hcancel] at h
      cases state <;> cases h
    rw [Bool.not_eq_true] at hfault hcancel
    by_cases hearly : ∀ schedule, report.schedule = some schedule → schedule.state = .prepared
    · have hbefore := phase_of_unscheduled hreport hfault hcancel hearly
      rw [h, JobScheduleState.phase_beforeInstall hprepared] at hbefore
      cases hbefore
    · simp only [not_forall] at hearly
      obtain ⟨schedule, hschedule, hstate⟩ := hearly
      rw [phase_of_schedule hreport hfault hcancel hschedule hstate] at h
      exact ⟨report, schedule, rfl, hschedule, JobScheduleState.phase_injective h⟩

/-- A participant ready for installation reports a prepared schedule. -/
theorem prepared_of_phase (h : machine.phase ∈ [.ready, .installing]) :
    ∃ report schedule, machine.report = some report ∧ report.schedule = some schedule ∧
      schedule.state = .prepared := by
  cases hreport : machine.report with
  | none => simp [phase, hreport] at h
  | some report =>
    cases hschedule : report.schedule with
    | none =>
      simp only [phase, hreport, hschedule] at h
      repeat' split at h
      all_goals simp at h
    | some schedule =>
      refine ⟨report, schedule, rfl, hschedule, ?_⟩
      by_contra hstate
      by_cases hfault : report.actorFaulted
      · rw [phase_of_actorFaulted hreport hfault] at h
        simp at h
      by_cases hcancel : report.actorsCancelled
      · rw [phase_of_actorsCancelled hreport hcancel] at h
        simp at h
      rw [Bool.not_eq_true] at hfault hcancel
      rw [phase_of_schedule hreport hfault hcancel hschedule hstate] at h
      cases hcase : schedule.state <;> simp_all [JobScheduleState.phase]

/-- A participant whose lease may be renewed reports more than an installed schedule. -/
theorem underway_of_phase (h : machine.phase ∈ [.confirmed, .priming, .primed, .running]) :
    ∃ report schedule, machine.report = some report ∧ report.schedule = some schedule ∧
      schedule.state ≠ .installed := by
  have hstate : ∃ state : JobScheduleState, state ≠ .prepared ∧ state ≠ .faulted ∧
      state ≠ .installed ∧ machine.phase = state.phase := by
    simp only [List.mem_cons, List.not_mem_nil, or_false] at h
    rcases h with h | h | h | h
    · exact ⟨.confirmed, by simp, by simp, by simp, h⟩
    · exact ⟨.priming, by simp, by simp, by simp, h⟩
    · exact ⟨.primed, by simp, by simp, by simp, h⟩
    · exact ⟨.running, by simp, by simp, by simp, h⟩
  obtain ⟨state, hprepared, hfaulted, hinstalled, hphase⟩ := hstate
  obtain ⟨report, schedule, hreport, hschedule, rfl⟩ :=
    schedule_of_phase hprepared hfaulted hphase
  exact ⟨report, schedule, hreport, hschedule, hinstalled⟩

end Phases

section Runs

variable [JobWire] {axes : Nat} {start machine machine' : ParticipantScheduleMachine axes}
  {e : Call × Outcome} {history : List (Call × Outcome)} {commit : JobCommitRequest}

/-! ## One commit -/

/-- A bound commit stays bound. -/
theorem commit_step (h : Step machine e machine') (hcommit : machine.commit = some commit) :
    machine'.commit = some commit := by
  obtain ⟨call, outcome⟩ := e
  cases perform_cases h with
  | refused _ _ quiet => exact hcommit
  | issued _ operation _ issues =>
    cases issues with
    | install commit' body idle identity unbound phase encoded =>
      rw [← unbound commit hcommit]
    | _ => exact hcommit
  | settled _ _ action _ quiet pending settles => cases settles <;> exact hcommit

/-- A schedule request on the wire is about `commit`. -/
def Refers (commit : JobCommitRequest) (operation : ScheduleOperation) : Call → Prop
  | .beginInstall installed =>
    installed = commit ∧ JobWire.encodeCommit commit = .ok operation.body
  | .beginConfirm => JobWire.encodeReference .confirm commit = .ok operation.body
  | .beginAbort => JobWire.encodeReference .abort commit = .ok operation.body
  | .beginLeaseRenew expiry => JobWire.encodeRenewal commit expiry = .ok operation.body
  | _ => True

/-- The calls that install, confirm, abort or renew a schedule. -/
def Call.schedules : Call → Bool
  | .beginInstall _ | .beginConfirm | .beginAbort | .beginLeaseRenew _ => true
  | _ => false

/-- A schedule request refers to the commit that is bound after it. -/
theorem refers_of_issued {call : Call} {operation : ScheduleOperation}
    (h : Issues machine call operation machine') (hcall : call.schedules) :
    ∃ commit, machine'.commit = some commit ∧ Refers commit operation call := by
  cases h with
  | install commit body idle identity unbound phase encoded => exact ⟨commit, rfl, rfl, encoded⟩
  | confirm commit body idle bound phase encoded => exact ⟨commit, bound, encoded⟩
  | renew commit expiry schedule body idle bound phase reported later greatest encoded =>
    exact ⟨commit, bound, encoded⟩
  | abort commit body idle bound phase encoded => exact ⟨commit, bound, encoded⟩
  | _ => cases hcall

/-- All schedule requests of a run refer to the one commit bound at its end. -/
theorem refers_of_run (h : Run Step machine history machine') {call : Call}
    {operation : ScheduleOperation} (hevent : (call, .request (.ok operation)) ∈ history)
    (hcall : call.schedules) :
    ∃ commit, machine'.commit = some commit ∧ Refers commit operation call := by
  induction h with
  | nil s => cases hevent
  | @cons s t u e es head tail ih =>
    rcases List.mem_cons.1 hevent with rfl | hlater
    · cases perform_cases head with
      | refused _ _ quiet => exact absurd rfl (quiet operation)
      | issued _ _ _ issues =>
        obtain ⟨commit, hcommit, hrefers⟩ := refers_of_issued issues hcall
        have hkeeps : ∀ (s : ParticipantScheduleMachine axes) e t, Step s e t →
            s.commit = some commit → t.commit = some commit :=
          fun _ _ _ hstep hs => commit_step hstep hs
        exact ⟨commit, tail.invariant (p := fun m => m.commit = some commit) hkeeps hcommit,
          hrefers⟩
      | settled _ _ action _ quiet pending settles => exact absurd rfl (quiet operation)
    · exact ih hlater

/-! ## Confirmation -/

/-- An installed report matches the bound commit under the authorized lease. -/
def InstalledMatches (machine : ParticipantScheduleMachine axes) : Prop :=
  ∀ commit report schedule, machine.commit = some commit → machine.report = some report →
    report.schedule = some schedule → schedule.state = .installed →
    scheduleMatchesCommit schedule commit machine.authorizedLeaseExpiryCycle

/-- A validated report of a bound commit's installed schedule matches the commit. -/
theorem matches_of_validateReport {report : JobStatusReport} {schedule : JobScheduleReport}
    (h : machine.validateReport report = .ok ()) (hcommit : machine.commit = some commit)
    (hschedule : report.schedule = some schedule) (hstate : schedule.state ≠ .prepared) :
    scheduleMatchesCommit schedule commit machine.authorizedLeaseExpiryCycle := by
  simp only [validateReport, Except.bind_eq_ok, Except.exists_unit, hschedule, hstate, if_false,
    Except.failIf_eq_ok, hcommit, Option.any_some, Bool.not_eq_true] at h
  simpa using h.2.2.2

theorem installedMatches_step (h : Step machine e machine') (hm : machine.InstalledMatches) :
    machine'.InstalledMatches := by
  obtain ⟨call, outcome⟩ := e
  cases perform_cases h with
  | refused _ _ quiet => exact hm
  | issued _ operation _ issues =>
    cases issues with
    | install commit' body idle identity unbound phase encoded =>
      -- the report shows a prepared schedule, so there is nothing to match
      intro commit report schedule _ hreport hschedule hstate
      obtain ⟨report', schedule', hreport', hschedule', hstate'⟩ := prepared_of_phase phase
      obtain rfl : report' = report := Option.some.inj (hreport'.symm.trans hreport)
      obtain rfl : schedule' = schedule := Option.some.inj (hschedule'.symm.trans hschedule)
      rw [hstate] at hstate'
      cases hstate'
    | renew commit' expiry schedule' body idle bound phase reported later greatest encoded =>
      -- a lease is renewed only once the schedule is confirmed
      intro commit report schedule _ hreport hschedule hstate
      obtain ⟨report', schedule'', hreport', hschedule', hstate'⟩ := underway_of_phase phase
      obtain rfl : report' = report := Option.some.inj (hreport'.symm.trans hreport)
      obtain rfl : schedule'' = schedule := Option.some.inj (hschedule'.symm.trans hschedule)
      exact absurd hstate hstate'
    | _ => exact hm
  | settled _ _ action _ quiet pending settles =>
    cases settles with
    | dropped _ => exact hm
    | retained response received report body decoded accepted =>
      rcases accepted with ⟨-, -, hnone, -, rfl⟩ | ⟨rfl, hvalid, -⟩
      · intro commit report schedule hcommit
        rw [show machine.commit = some commit from hcommit] at hnone
        cases hnone
      · intro commit report' schedule hcommit hreport hschedule hstate
        obtain rfl : report = report' := Option.some.inj hreport
        exact matches_of_validateReport hvalid hcommit hschedule (by rw [hstate]; simp)

theorem state_new {descriptor : JobDescriptor} {bootId : BootId}
    (h : new descriptor bootId = .ok start) :
    start.commit = none ∧ start.authorizedLeaseExpiryCycle = none ∧ start.report = none ∧
      start.pending = none ∧ start.reconciliationRequired = false := by
  simp only [new, Except.bind_eq_ok, Except.exists_unit, Except.mapError_eq_ok,
    Except.pure_eq_ok] at h
  obtain ⟨-, token, -, rfl⟩ := h
  exact ⟨rfl, rfl, rfl, rfl, rfl⟩

theorem installedMatches_new {descriptor : JobDescriptor} {bootId : BootId}
    (h : new descriptor bootId = .ok start) : start.InstalledMatches := by
  intro commit report schedule hcommit
  rw [(state_new h).1] at hcommit
  cases hcommit

/-- The retained report shows the bound commit installed under an authorized lease. -/
def ShowsInstalled (machine : ParticipantScheduleMachine axes) (commit : JobCommitRequest) : Prop :=
  ∃ report schedule authorized, machine.report = some report ∧
    report.schedule = some schedule ∧ schedule.state = .installed ∧
    schedule.commitId = commit.commitId.asBytes ∧
    schedule.localStartCycle = commit.localStartCycle ∧
    schedule.confirmDeadlineCycle = commit.confirmDeadlineCycle ∧
    schedule.abortGuardCycle = commit.abortGuardCycle ∧
    schedule.policy = some commit.policy ∧
    machine.authorizedLeaseExpiryCycle = some authorized ∧
    commit.leaseExpiryCycle ≤ schedule.leaseExpiryCycle ∧ schedule.leaseExpiryCycle ≤ authorized

omit [JobWire] in
/-- What a match of schedule and commit says, field by field. -/
theorem fields_of_matches {schedule : JobScheduleReport} {authorized : Option DeviceCycle}
    (h : scheduleMatchesCommit schedule commit authorized) :
    schedule.commitId = commit.commitId.asBytes ∧
      schedule.localStartCycle = commit.localStartCycle ∧
      schedule.confirmDeadlineCycle = commit.confirmDeadlineCycle ∧
      schedule.abortGuardCycle = commit.abortGuardCycle ∧
      schedule.policy = some commit.policy ∧
      ∃ expiry, authorized = some expiry ∧ commit.leaseExpiryCycle ≤ schedule.leaseExpiryCycle ∧
        schedule.leaseExpiryCycle ≤ expiry := by
  simp only [scheduleMatchesCommit, Bool.and_eq_true, decide_eq_true_eq] at h
  obtain ⟨⟨⟨⟨⟨⟨hpolicy, -⟩, hstart⟩, hconfirm⟩, habort⟩, hlease⟩, hid⟩ := h
  refine ⟨hid, hstart, hconfirm, habort, hpolicy, ?_⟩
  cases hcase : commit.policy with
  | networkAttended =>
    rw [hcase] at hlease
    obtain ⟨expiry, hexpiry, hbounds⟩ := (Option.any_eq_true _ _).1 hlease
    rw [Bool.and_eq_true, decide_eq_true_eq, decide_eq_true_eq] at hbounds
    exact ⟨expiry, hexpiry, hbounds.1, hbounds.2⟩
  | cachedAutonomous =>
    rw [hcase, Bool.and_eq_true, decide_eq_true_eq, decide_eq_true_eq] at hlease
    exact ⟨commit.leaseExpiryCycle, hlease.2, UInt64.le_of_eq hlease.1.symm,
      UInt64.le_of_eq hlease.1⟩

omit [JobWire] in
/-- A bound commit that reads as installed is shown installed. -/
theorem showsInstalled_of_phase (hm : machine.InstalledMatches)
    (hbound : machine.commit = some commit) (hphase : machine.phase = .installed) :
    machine.ShowsInstalled commit := by
  have hinstalled : machine.phase = JobScheduleState.installed.phase := hphase
  obtain ⟨report, schedule, hreport, hschedule, hstate⟩ :=
    schedule_of_phase (by simp) (by simp) hinstalled
  obtain ⟨hid, hstart, hconfirm, habort, hpolicy, expiry, hexpiry, hlower, hupper⟩ :=
    fields_of_matches (hm commit report schedule hbound hreport hschedule hstate)
  exact ⟨report, schedule, expiry, hreport, hschedule, hstate, hid, hstart, hconfirm, habort,
    hpolicy, hexpiry, hlower, hupper⟩

/-- A confirm rests on a matching installed report. -/
theorem installed_of_confirm (hm : machine.InstalledMatches) {operation : ScheduleOperation}
    (h : Step machine (.beginConfirm, .request (.ok operation)) machine') :
    ∃ commit, machine.commit = some commit ∧ machine.ShowsInstalled commit := by
  cases perform_cases h with
  | refused _ _ quiet => exact absurd rfl (quiet operation)
  | settled _ _ action _ quiet pending settles => exact absurd rfl (quiet operation)
  | issued _ _ _ issues =>
    cases issues with
    | confirm commit body idle bound phase encoded =>
      exact ⟨commit, bound, showsInstalled_of_phase hm bound phase⟩

/-! ## Reconciliation -/

/-- The call retained a report: a decoded response that the machine accepts. -/
def Retains (machine : ParticipantScheduleMachine axes) (call : Call) : Prop :=
  ∃ response action received report, call = .acceptResponse response ∧
    machine.pending = some action ∧ response.body ≠ [] ∧
    JobWire.decodeStatus response.body = .ok received ∧ machine.Accepts action received report

/-- The call settled the pending request without retaining a report. -/
def Loses (machine : ParticipantScheduleMachine axes) (call : Call)
    (machine' : ParticipantScheduleMachine axes) : Prop :=
  machine.pending.isSome ∧ machine'.pending = none ∧ ¬ machine.Retains call

/-- A settled request that left no report changed nothing but the bookkeeping. -/
theorem eq_of_loses (h : Step machine e machine') (hloses : Loses machine e.1 machine') :
    ∃ action, machine.pending = some action ∧
      machine' = { machine with
        pending := none
        reconciliationRequired := machine.reconciliationRequired || action.mutates } := by
  obtain ⟨call, outcome⟩ := e
  obtain ⟨hsome, hnone, hretains⟩ := hloses
  cases perform_cases h with
  | refused _ _ quiet =>
    rw [hnone] at hsome
    cases hsome
  | issued _ operation _ issues => cases issues <;> cases hnone
  | settled _ _ action _ quiet pending settles =>
    cases settles with
    | dropped _ => exact ⟨action, pending, rfl⟩
    | retained response received report body decoded accepted =>
      exact absurd ⟨response, action, received, report, rfl, pending, body, decoded, accepted⟩
        hretains

/-- Reconciliation stays required until a report is retained, and meanwhile only a status
request is emitted. -/
theorem reconciliation_step (h : Step machine e machine') (hkeeps : ¬ machine.Retains e.1)
    (hrequired : machine.reconciliationRequired = true) :
    machine'.reconciliationRequired = true ∧
      ∀ operation, e.2 = .request (.ok operation) → e.1 = .beginStatus := by
  obtain ⟨call, outcome⟩ := e
  cases perform_cases h with
  | refused _ _ quiet =>
    exact ⟨hrequired, fun operation houtcome => absurd houtcome (quiet operation)⟩
  | issued _ operation _ issues =>
    have hidle : ¬ machine.Idle := by
      intro hidle
      rw [hidle.2] at hrequired
      cases hrequired
    cases issues with
    | status quiet => exact ⟨hrequired, fun _ _ => rfl⟩
    | prepare body idle => exact absurd idle hidle
    | install commit body idle => exact absurd idle hidle
    | confirm commit body idle => exact absurd idle hidle
    | renew commit expiry schedule body idle => exact absurd idle hidle
    | abort commit body idle => exact absurd idle hidle
    | cancel body idle => exact absurd idle hidle
  | settled _ _ action _ quiet pending settles =>
    refine ⟨?_, fun operation houtcome => absurd houtcome (quiet operation)⟩
    cases settles with
    | dropped _ =>
      rw [hrequired]
      rfl
    | retained response received report body decoded accepted =>
      exact absurd ⟨response, action, received, report, rfl, pending, body, decoded, accepted⟩
        hkeeps

/-- While reconciliation is required and no report is retained, only status requests are
emitted. -/
theorem status_of_required {later : List (Call × Outcome)}
    (h : Run (fun a e b => Step a e b ∧ ¬ a.Retains e.1) machine later machine')
    (hrequired : machine.reconciliationRequired = true) :
    ∀ event ∈ later, ∀ operation, event.2 = .request (.ok operation) → event.1 = .beginStatus := by
  induction h with
  | nil s => simp
  | @cons s t u event es head tail ih =>
    obtain ⟨hnext, hstatus⟩ := reconciliation_step head.1 head.2 hrequired
    exact List.forall_mem_cons.2 ⟨hstatus, ih hnext⟩

/-- After a mutation whose response left no report, only status requests are emitted until
one is retained. -/
theorem status_until_report (h : Step machine e machine') {action : ScheduleAction}
    (haction : machine.pending = some action) (hmutates : action.mutates)
    (hloses : Loses machine e.1 machine') {later : List (Call × Outcome)}
    {machine'' : ParticipantScheduleMachine axes}
    (hrun : Run (fun a e b => Step a e b ∧ ¬ a.Retains e.1) machine' later machine'') :
    ∀ event ∈ later, ∀ operation, event.2 = .request (.ok operation) → event.1 = .beginStatus := by
  obtain ⟨action', haction', heq⟩ := eq_of_loses h hloses
  obtain rfl : action = action' := Option.some.inj (haction.symm.trans haction')
  refine status_of_required hrun ?_
  rw [heq, hmutates]
  exact Bool.or_true _

/-- A response that leaves no report changes neither report, commit nor lease. -/
theorem unchanged_of_rejected {response : Response} {outcome : Outcome}
    (h : Step machine (.acceptResponse response, outcome) machine')
    (hrejected : ¬ machine.Retains (.acceptResponse response)) :
    machine'.report = machine.report ∧ machine'.commit = machine.commit ∧
      machine'.authorizedLeaseExpiryCycle = machine.authorizedLeaseExpiryCycle := by
  cases perform_cases h with
  | refused _ _ quiet => exact ⟨rfl, rfl, rfl⟩
  | issued _ operation _ issues => cases issues
  | settled _ _ action _ quiet pending settles =>
    cases settles with
    | dropped _ => exact ⟨rfl, rfl, rfl⟩
    | retained response received report body decoded accepted =>
      exact absurd ⟨response, action, received, report, rfl, pending, body, decoded, accepted⟩
        hrejected

/-! ## The authorized lease -/

/-- The lease expiry an emitted install or renewal asks for. -/
def leaseRequested : Call × Outcome → Option DeviceCycle
  | (.beginInstall commit, .request (.ok _)) => some commit.leaseExpiryCycle
  | (.beginLeaseRenew expiry, .request (.ok _)) => some expiry
  | _ => none

/-- The authorized lease is the greatest one requested, or there was none. -/
def GreatestRequested (requested : List DeviceCycle) : Option DeviceCycle → Prop
  | none => requested = []
  | some authorized => authorized ∈ requested ∧ ∀ expiry ∈ requested, expiry ≤ authorized

/-- An install that is issued asks for no less than the authorized lease. -/
def Ascends (machine : ParticipantScheduleMachine axes) (call : Call) : Prop :=
  ∀ commit operation machine' authorized, call = .beginInstall commit →
    machine.beginInstall commit = .ok (operation, machine') →
    machine.authorizedLeaseExpiryCycle = some authorized → authorized ≤ commit.leaseExpiryCycle

omit [JobWire] in
private theorem greatestRequested_snoc {requested : List DeviceCycle}
    {authorized : Option DeviceCycle} {expiry : DeviceCycle}
    (h : GreatestRequested requested authorized)
    (hle : ∀ before, authorized = some before → before ≤ expiry) :
    GreatestRequested (requested ++ [expiry]) (some expiry) := by
  refine ⟨by simp, ?_⟩
  intro other hother
  rw [List.mem_append, List.mem_singleton] at hother
  rcases hother with hold | rfl
  · cases authorized with
    | none =>
      obtain rfl : requested = [] := h
      cases hold
    | some before => exact UInt64.le_trans (h.2 other hold) (hle before rfl)
  · exact UInt64.le_refl _

private theorem beginInstall_of_step {operation : ScheduleOperation}
    (h : Step machine (.beginInstall commit, .request (.ok operation)) machine') :
    machine.beginInstall commit = .ok (operation, machine') := by
  have hperform : machine.requested (machine.beginInstall commit) =
      (machine', .request (.ok operation)) := h
  cases hresult : machine.beginInstall commit with
  | error error =>
    rw [hresult] at hperform
    simp [requested] at hperform
  | ok issued =>
    rw [hresult] at hperform
    simp only [requested, Prod.mk.injEq, Outcome.request.injEq, Except.ok.injEq] at hperform
    obtain ⟨rfl, rfl⟩ := hperform
    rfl

theorem greatestRequested_step {requested : List DeviceCycle} (h : Step machine e machine')
    (hascends : machine.Ascends e.1)
    (hgreatest : GreatestRequested requested machine.authorizedLeaseExpiryCycle) :
    GreatestRequested (requested ++ (leaseRequested e).toList)
      machine'.authorizedLeaseExpiryCycle := by
  obtain ⟨call, outcome⟩ := e
  have hquiet : (∀ operation, outcome ≠ .request (.ok operation)) →
      leaseRequested (call, outcome) = none := by
    intro quiet
    unfold leaseRequested
    split
    · next heq =>
      cases heq
      exact absurd rfl (quiet _)
    · next heq =>
      cases heq
      exact absurd rfl (quiet _)
    · rfl
  cases perform_cases h with
  | refused _ _ quiet =>
    rw [hquiet quiet]
    simpa using hgreatest
  | issued _ operation _ issues =>
    cases issues with
    | install commit body idle identity unbound phase encoded =>
      refine greatestRequested_snoc hgreatest ?_
      intro before hbefore
      exact hascends commit _ _ before rfl (beginInstall_of_step h) hbefore
    | renew commit expiry schedule body idle bound phase reported later greatest encoded =>
      exact greatestRequested_snoc hgreatest greatest
    | _ => simpa [leaseRequested] using hgreatest
  | settled _ _ action _ quiet pending settles =>
    rw [hquiet quiet]
    cases settles <;> simpa using hgreatest

/-- An issued install that asks for less loses the greatest request. -/
theorem greatestRequested_lost {requested : List DeviceCycle} (h : Step machine e machine')
    (hlowers : ¬ machine.Ascends e.1)
    (hgreatest : GreatestRequested requested machine.authorizedLeaseExpiryCycle) :
    ¬ GreatestRequested (requested ++ (leaseRequested e).toList)
      machine'.authorizedLeaseExpiryCycle := by
  obtain ⟨call, outcome⟩ := e
  simp only [Ascends, not_forall] at hlowers
  obtain ⟨commit, operation, issued, authorized, rfl, hissued, hauthorized, hlower⟩ := hlowers
  have hperform : machine.requested (machine.beginInstall commit) = (machine', outcome) := h
  rw [hissued] at hperform
  simp only [ParticipantScheduleMachine.requested, Prod.mk.injEq] at hperform
  obtain ⟨rfl, rfl⟩ := hperform
  have hnew : issued.authorizedLeaseExpiryCycle = some commit.leaseExpiryCycle := by
    cases beginInstall_issues hissued
    rfl
  rw [hnew]
  rw [hauthorized] at hgreatest
  intro hstill
  exact hlower (hstill.2 authorized (List.mem_append_left _ hgreatest.1))

/-- Over a run whose installs ascend, the authorized lease is the greatest requested. -/
theorem greatestRequested_of_run {requested : List DeviceCycle}
    (h : Run (fun a e b => Step a e b ∧ a.Ascends e.1) machine history machine')
    (hgreatest : GreatestRequested requested machine.authorizedLeaseExpiryCycle) :
    GreatestRequested (requested ++ history.filterMap leaseRequested)
      machine'.authorizedLeaseExpiryCycle := by
  induction h generalizing requested with
  | nil s => simpa using hgreatest
  | @cons s t u e es head tail ih =>
    have hnext := ih (greatestRequested_step head.1 head.2 hgreatest)
    rw [List.append_assoc] at hnext
    have hsplit : (e :: es).filterMap leaseRequested =
        (leaseRequested e).toList ++ es.filterMap leaseRequested := by
      cases hcase : leaseRequested e <;> simp [hcase]
    rw [hsplit]
    exact hnext

/-! ## The discipline -/

/-- What holds of a participant and its history at every point of a run. -/
structure AuthorityDiscipline (history : List (Call × Outcome))
    (machine : ParticipantScheduleMachine axes) : Prop where
  /-- A bound commit is the only one there will ever be. -/
  commit : ∀ commit, machine.commit = some commit → ∀ more machine',
    Run Step machine more machine' → machine'.commit = some commit
  /-- Every install, confirm, abort and renewal emitted so far refers to it. -/
  refers : ∀ call operation, (call, .request (.ok operation)) ∈ history → call.schedules →
    ∃ commit, machine.commit = some commit ∧ Refers commit operation call
  /-- A confirm rests on a report of exactly that commit, installed. -/
  confirm : ∀ operation machine',
    Step machine (.beginConfirm, .request (.ok operation)) machine' →
    ∃ commit, machine.commit = some commit ∧ machine.ShowsInstalled commit
  /-- A mutation that left no report is followed by status requests only, until a report
  is retained. -/
  reconcile : ∀ e machine' action, Step machine e machine' → machine.pending = some action →
    action.mutates → Loses machine e.1 machine' → ∀ later machine'',
    Run (fun a e b => Step a e b ∧ ¬ a.Retains e.1) machine' later machine'' →
    ∀ event ∈ later, ∀ operation, event.2 = .request (.ok operation) → event.1 = .beginStatus
  /-- A response that leaves no report changes neither report, commit nor lease. -/
  rejected : ∀ response outcome machine', Step machine (.acceptResponse response, outcome) machine' →
    ¬ machine.Retains (.acceptResponse response) →
    machine'.report = machine.report ∧ machine'.commit = machine.commit ∧
      machine'.authorizedLeaseExpiryCycle = machine.authorizedLeaseExpiryCycle

theorem authorityDiscipline_of_run {descriptor : JobDescriptor} {bootId : BootId}
    (hnew : new descriptor bootId = .ok start) (h : Run Step start history machine) :
    AuthorityDiscipline history machine where
  commit := by
    intro commit hcommit more machine' hmore
    exact hmore.invariant (p := fun m => m.commit = some commit)
      (fun _ _ _ hstep hs => commit_step hstep hs) hcommit
  refers := fun _ _ hevent hcall => refers_of_run h hevent hcall
  confirm := by
    intro operation machine' hstep
    have hmatches := h.invariant (p := InstalledMatches)
      (fun _ _ _ => installedMatches_step) (installedMatches_new hnew)
    exact installed_of_confirm hmatches hstep
  reconcile := by
    intro e machine' action hstep haction hmutates hloses later machine'' hrun
    exact status_until_report hstep haction hmutates hloses hrun
  rejected := fun _ _ _ hstep hrejected => unchanged_of_rejected hstep hrejected

/-- The authority discipline holds over every run. The authorized lease is the greatest one
requested as long as no issued install asks for less than it, and no longer. -/
theorem scheduleAuthority {descriptor : JobDescriptor} {bootId : BootId}
    (hnew : new descriptor bootId = .ok start) :
    (∀ history machine, Run Step start history machine → AuthorityDiscipline history machine) ∧
    ∀ history machine, Run (fun a e b => Step a e b ∧ a.Ascends e.1) start history machine →
      GreatestRequested (history.filterMap leaseRequested) machine.authorizedLeaseExpiryCycle ∧
      ∀ e machine', Step machine e machine' →
        (GreatestRequested ((history ++ [e]).filterMap leaseRequested)
          machine'.authorizedLeaseExpiryCycle ↔ machine.Ascends e.1) := by
  refine ⟨fun history machine h => authorityDiscipline_of_run hnew h, ?_⟩
  intro history machine h
  have hstart : GreatestRequested [] start.authorizedLeaseExpiryCycle := by
    rw [(state_new hnew).2.1]
    rfl
  have hgreatest := greatestRequested_of_run h hstart
  rw [List.nil_append] at hgreatest
  refine ⟨hgreatest, ?_⟩
  intro e machine' hstep
  have hsplit : (history ++ [e]).filterMap leaseRequested =
      history.filterMap leaseRequested ++ (leaseRequested e).toList := by
    cases hcase : leaseRequested e <;> simp [hcase]
  rw [hsplit]
  constructor
  · intro hnext
    by_contra hlowers
    exact greatestRequested_lost hstep hlowers hgreatest hnext
  · intro hascends
    exact greatestRequested_step hstep hascends hgreatest

end Runs

section Sample

open HostLibrary

def preparedReport : JobStatusReport :=
  sampleReport .prefetching .admitted (some (sampleSchedule .prepared))

def installedReport : JobStatusReport :=
  sampleReport .prefetching .admitted (some (sampleSchedule .installed))

def confirmedReport : JobStatusReport :=
  sampleReport .prefetching .admitted (some (sampleSchedule .confirmed))

/-- Install, confirm and renew the lease of a schedule. -/
def renewalCalls : List Call :=
  observe preparedReport ++ [.beginInstall sampleCommit, reported installedReport,
    .beginConfirm, reported confirmedReport, .beginLeaseRenew 9000000, reported confirmedReport]

/-- The device then forgets the schedule, and the commit is installed again. -/
def reinstallCalls : List Call :=
  observe (sampleReport .cancelled .cancelled none) ++ observe preparedReport ++
    [.beginInstall sampleCommit]

theorem scheduleAuthority_sample :
    AuthorityDiscipline (Run.execute perform sampleMachine renewalCalls).2
      (Run.execute perform sampleMachine renewalCalls).1 :=
  (scheduleAuthority sampleMachine_new).1 _ _ (Run.run_execute perform sampleMachine renewalCalls)

/-- Installing the same commit again after a renewal lowers the authorized lease. -/
theorem greatestRequested_fails :
    ¬ ∀ (machine : ParticipantScheduleMachine 2) history,
        Run Step sampleMachine history machine →
        GreatestRequested (history.filterMap leaseRequested)
          machine.authorizedLeaseExpiryCycle := by
  intro h
  have hrun := Run.run_execute perform sampleMachine (renewalCalls ++ reinstallCalls)
  have hauthorized : (Run.execute perform sampleMachine
      (renewalCalls ++ reinstallCalls)).1.authorizedLeaseExpiryCycle = some 8000000 := by
    decide +kernel
  have hrequested : (Run.execute perform sampleMachine
      (renewalCalls ++ reinstallCalls)).2.filterMap leaseRequested =
        [8000000, 9000000, 8000000] := by
    decide +kernel
  -- only the two values matter, not the run that computes them
  generalize Run.execute perform sampleMachine (renewalCalls ++ reinstallCalls) = result
    at hrun hauthorized hrequested
  have hgreatest := h result.1 result.2 hrun
  rw [hauthorized, hrequested] at hgreatest
  have hle := hgreatest.2 9000000 (by simp)
  revert hle
  decide

end Sample

end ParticipantScheduleMachine

end Alumina.Client
