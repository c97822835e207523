import Alumina.Spec.DistributedSchedule
import Alumina.Spec.ScheduleAuthority

/-!
# Two-phase start

A confirm is emitted only in the intent that `beginConfirmation` enters from the installed
phase. The phase reads the reports of all participants, and a report is matched against the
planned commit only where that commit is bound in the controller. So the two-phase start is
safe over the runs in which every commit is bound when the confirmation begins.

After an abort, a cancel or an observed fault nothing new is started. A fault observed
before every participant reported once is acted on at the end of that round, if it still
shows then.

## Key results

- `confirmable_of_confirm`: what a confirm rests on
- `planned_of_request`: installs and confirms refer to the planned commit
- `halted_of_run`: nothing is started after a stop
- `twoPhaseStart`: the three over all runs whose steps are permitted
- `startSafety_fails`: a foreign commit reported installed lets another device be confirmed
-/

namespace Alumina.Client

open Alumina.Graph (DeviceId)

/-- The report shows a fault of an actor or of the schedule. -/
def JobStatusReport.ShowsFault (report : JobStatusReport) : Prop :=
  report.actorFaulted ∨ report.actorsCancelled = false ∧
    report.schedule.map (·.state) = some .faulted

instance (report : JobStatusReport) : Decidable report.ShowsFault :=
  inferInstanceAs (Decidable (_ ∨ _))

namespace DistributedScheduleCoordinator

/-! ## Stopping -/

section Stopping

variable {s t : DistributedScheduleCoordinator} {participant : ParticipantCoordinator}

theorem faulted_iff : participant.phase = .faulted ↔
    ∃ report, participant.control.report = some report ∧ report.ShowsFault := by
  cases hreport : participant.control.report with
  | none =>
    have hphase : participant.phase = .empty := by
      simp [ParticipantCoordinator.phase, ParticipantScheduleMachine.phase, hreport]
    simp [hphase]
  | some report =>
    simp only [Option.some.injEq, exists_eq_left']
    exact ParticipantScheduleMachine.phase_eq_faulted_iff hreport

/-- Some participant reads as faulted. -/
def FaultObserved (s : DistributedScheduleCoordinator) : Prop :=
  ∃ participant ∈ s.participants, participant.phase = .faulted

/-- The coordinator starts nothing: it aborts or cancels, or waits for the first reports
with a fault among those it has. -/
def Halted (s : DistributedScheduleCoordinator) : Prop :=
  s.intent ∈ [.abort, .cancel] ∨ s.initialRound ∧ s.FaultObserved

theorem initialRound_iff : s.initialRound ↔
    s.intent = .prepare ∧ ∃ report ∈ s.participants.map (·.control.report), report = none := by
  simp [initialRound]

theorem faultObserved_iff : s.FaultObserved ↔
    ∃ report ∈ s.participants.map (·.control.report),
      ∃ shown, report = some shown ∧ shown.ShowsFault := by
  simp only [FaultObserved, faulted_iff, List.mem_map, exists_exists_and_eq_and]

/-- While the first reports come in the phase is preparing. -/
theorem phase_of_initialRound (h : s.initialRound) : s.phase = .preparing := by
  simp only [initialRound, Bool.and_eq_true, decide_eq_true_eq] at h
  obtain ⟨hintent, hmissing⟩ := h
  have hincomplete : ¬ s.participants.all (·.phase = .complete) := by
    simp only [List.any_eq_true, Option.isNone_iff_eq_none] at hmissing
    obtain ⟨participant, hmem, hnone⟩ := hmissing
    simp only [List.all_eq_true, decide_eq_true_eq, not_forall]
    refine ⟨participant, hmem, ?_⟩
    simp [ParticipantCoordinator.phase, ParticipantScheduleMachine.phase, hnone]
  rw [phase]
  simp [hincomplete, hintent, hmissing]

theorem halted_of_activate (h : s.FaultObserved) : s.activateFaultCleanupIfObserved.Halted := by
  have hany : s.participants.any (·.phase = .faulted) := by
    simpa [FaultObserved] using h
  refine Or.inl ?_
  rw [activateFaultCleanupIfObserved, if_pos hany]
  cases s.targetUiNs <;> simp

theorem intent_activate (s : DistributedScheduleCoordinator) :
    s.activateFaultCleanupIfObserved.intent = s.intent ∨
      s.activateFaultCleanupIfObserved.intent ∈ [.abort, .cancel] := by
  unfold activateFaultCleanupIfObserved
  split
  · refine Or.inr ?_
    cases s.targetUiNs <;> simp
  · exact Or.inl rfl

/-- A settled response after which a fault shows halts the coordinator. -/
theorem halted_of_settled {i : Nat} {control : ParticipantScheduleMachine jobAxes}
    (h : (s.settled i control).FaultObserved) : (s.settled i control).Halted := by
  unfold settled at h ⊢
  simp only at h ⊢
  split
  · next hactive =>
    rw [if_pos hactive] at h
    refine halted_of_activate ?_
    simpa [FaultObserved] using h
  · next hpassive =>
    rw [if_neg hpassive] at h
    simp only [Bool.or_eq_true, Bool.not_eq_true', not_or, Bool.not_eq_false] at hpassive
    refine Or.inr ⟨?_, h⟩
    -- the round goes on: the intent is unchanged and a report is still missing
    obtain ⟨hround, hmissing⟩ := hpassive
    have hintent := (initialRound_iff.1 hround).1
    simp only [List.all_eq_true, not_forall, Bool.not_eq_true, Option.isSome_eq_false_iff,
      Option.isNone_iff_eq_none] at hmissing
    obtain ⟨participant, hmem, hnone⟩ := hmissing
    exact initialRound_iff.2 ⟨hintent, none, List.mem_map.2 ⟨participant, hmem, hnone⟩, rfl⟩

end Stopping

section Runs

variable [JobWire] [ClockEstimation]

variable {s t : DistributedScheduleCoordinator} {participant : ParticipantCoordinator}
  {e : Call × Outcome} {history : List (Call × Outcome)}
  {request : DistributedScheduleRequest}

/-! ## Requests -/

/-- The operations that start something on a device. -/
def starts (operation : Operation) : Bool := operation ∈ [.jobPrepare, .jobCommit, .jobConfirm]

/-- A request that starts something comes from the request loop. -/
theorem asks_of_request (h : Step s e t) (hrequest : request ∈ e.2.emitted)
    (hstarts : starts request.request.operation) :
    ∃ participant ∈ s.participants, participant.deviceId = request.deviceId ∧
      ∃ call control, Asks participant s.intent s.initialRound call ∧
        ParticipantScheduleMachine.Issues participant.control call request.request control := by
  obtain ⟨call, outcome⟩ := e
  cases perform_cases h with
  | refused _ _ quiet undone =>
    rw [quiet] at hrequest
    cases hrequest
  | requested i participant operation control running index asked earlier =>
    simp only [Outcome.emitted, Option.toList_some, List.mem_singleton] at hrequest
    subst hrequest
    obtain ⟨call, hasks, hissues⟩ := asks_of_nextOperation asked
    exact ⟨participant, List.mem_of_getElem? index, rfl, call, control, hasks, hissues⟩
  | queried quiet =>
    simp only [Outcome.emitted, List.mem_map] at hrequest
    obtain ⟨participant, -, rfl⟩ := hrequest
    cases hstarts
  | renewed renewals staged requests attended phase all aligned opened =>
    obtain ⟨-, hrequests, hall⟩ := renewEach_eq_ok (by rw [Table.length_sortByKey, all]) opened
    obtain ⟨i, hi⟩ := List.mem_iff_getElem?.1 hrequest
    have hlt : i < s.participants.length := by
      rw [← hrequests]
      exact (List.getElem?_eq_some_iff.1 hi).1
    have hrenewal : i < (Table.sortByKey (fun renewal => deviceKey renewal.deviceId)
        renewals).length := by
      rw [Table.length_sortByKey, all]
      exact hlt
    obtain ⟨_, renewed, -, hi', operation, control, hrenew, -, rfl⟩ :=
      hall i _ _ (List.getElem?_eq_getElem hlt) (List.getElem?_eq_getElem hrenewal)
    obtain rfl := Option.some.inj (hi'.symm.trans hi)
    -- a renewal starts nothing
    cases ParticipantScheduleMachine.beginLeaseRenew_issues hrenew
    cases hstarts
  | _ => cases hrequest

/-- Something is started only by the three intents that do, after the first reports. -/
theorem intent_of_request (h : Step s e t) (hrequest : request ∈ e.2.emitted)
    (hstarts : starts request.request.operation) :
    s.intent ∈ [.prepare, .install, .confirm] ∧ s.initialRound = false := by
  obtain ⟨participant, -, -, call, control, hasks, hissues⟩ :=
    asks_of_request h hrequest hstarts
  generalize hintent : s.intent = intent at hasks
  generalize hround : s.initialRound = initial at hasks
  generalize request.request = operation at hissues hstarts
  cases hasks with
  | status _ _ =>
    cases hissues
    cases hstarts
  | cancel _ cleanup =>
    cases hissues
    cases hstarts
  | abort =>
    cases hissues
    cases hstarts
  | prepare => exact ⟨by simp, rfl⟩
  | install commit planned => exact ⟨by simp, rfl⟩
  | confirm => exact ⟨by simp, rfl⟩

/-- A halted coordinator starts nothing. -/
theorem not_starts_of_halted (h : Step s e t) (hhalted : s.Halted)
    (hrequest : request ∈ e.2.emitted) : starts request.request.operation = false := by
  rw [← Bool.not_eq_true]
  intro hstarts
  obtain ⟨hintent, hround⟩ := intent_of_request h hrequest hstarts
  rcases hhalted with hstop | ⟨hinitial, -⟩
  · simp only [List.mem_cons, List.not_mem_nil, or_false] at hstop hintent
    rcases hstop with hstop | hstop <;> simp [hstop] at hintent
  · rw [hround] at hinitial
    cases hinitial

/-- The body of an install or confirm is about the planned commit. -/
def RefersToPlanned (commit : JobCommitRequest) (operation : ScheduleOperation) : Prop :=
  (operation.operation = .jobCommit → JobWire.encodeCommit commit = .ok operation.body) ∧
    (operation.operation = .jobConfirm →
      JobWire.encodeReference .confirm commit = .ok operation.body)

/-- An install or confirm refers to the planned commit of its participant. -/
theorem planned_of_request (hs : s.Consistent) (h : Step s e t)
    (hrequest : request ∈ e.2.emitted)
    (hop : request.request.operation ∈ [.jobCommit, .jobConfirm]) :
    ∃ participant ∈ s.participants, participant.deviceId = request.deviceId ∧
      ∃ commit, participant.plannedCommit = some commit ∧
        RefersToPlanned commit request.request := by
  have hstarts : starts request.request.operation := by
    simp only [List.mem_cons, List.not_mem_nil, or_false] at hop
    rcases hop with hop | hop <;> rw [hop] <;> rfl
  obtain ⟨participant, hmem, hdevice, call, control, hasks, hissues⟩ :=
    asks_of_request h hrequest hstarts
  refine ⟨participant, hmem, hdevice, ?_⟩
  generalize s.intent = intent at hasks
  generalize s.initialRound = initial at hasks
  generalize request.request = operation at hissues hop
  cases hasks with
  | install commit planned =>
    cases hissues with
    | install _ body idle identity unbound phase encoded =>
      exact ⟨commit, planned, fun _ => encoded, by simp⟩
  | confirm =>
    cases hissues with
    | confirm commit body idle bound phase encoded =>
      exact ⟨commit, hs.planned participant hmem commit bound, by simp, fun _ => encoded⟩
  | _ =>
    cases hissues
    simp at hop

/-! ## Permitted steps -/

/-- What a run has to avoid: beginning the confirmation while a commit is not bound in its
controller, and losing the fault of a participant before the first reports are all in. -/
def Permits (s : DistributedScheduleCoordinator) : Call → Prop
  | .beginConfirmation _ _ => s.phase = .installed →
      ∀ participant ∈ s.participants, participant.control.commit.isSome
  | .acceptResponse deviceId response => s.initialRound →
      ∀ i participant action received, s.indexOf deviceId = some i →
        s.participants[i]? = some participant → participant.phase = .faulted →
        participant.control.pending = some action → response.body ≠ [] →
        JobWire.decodeStatus response.body = .ok received →
        participant.control.Accepts action received received → received.ShowsFault
  | _ => True

/-- A step of a permitted call. -/
def Permitted (s : DistributedScheduleCoordinator) (e : Call × Outcome)
    (t : DistributedScheduleCoordinator) : Prop :=
  Step s e t ∧ s.Permits e.1

/-- A permitted response leaves a faulted participant faulted while the first reports
come in. -/
theorem faulted_of_permitted {deviceId : DeviceId} {response : Response} {i : Nat}
    (hpermits : s.Permits (.acceptResponse deviceId response)) (hround : s.initialRound)
    (hfound : s.indexOf deviceId = some i) (hi : s.participants[i]? = some participant)
    (hfaulted : participant.phase = .faulted) :
    ({ participant with control := (participant.control.acceptResponse response).1 } :
      ParticipantCoordinator).phase = .faulted := by
  obtain ⟨report, hreport, hshows⟩ := faulted_iff.1 hfaulted
  rcases participant.control.acceptResponse_cases response with
    ⟨-, hsame⟩ | ⟨action, hpending, hsettles⟩
  · rw [hsame]
    exact hfaulted
  · generalize (participant.control.acceptResponse response).1 = control at hsettles
    cases hsettles with
    | dropped _ => exact faulted_iff.2 ⟨report, hreport, hshows⟩
    | retained _ received kept body decoded accepted =>
      have hkept : kept = received ∧ participant.control.Accepts action received received := by
        rcases accepted with ⟨-, hnone, -⟩ | hvalid
        · rw [hreport] at hnone
          cases hnone
        · exact ⟨hvalid.1, Or.inr ⟨rfl, hvalid.2⟩⟩
      obtain ⟨rfl, haccepts⟩ := hkept
      exact faulted_iff.2 ⟨kept, rfl,
        hpermits hround i participant action kept hfound hi hfaulted hpending body decoded
          haccepts⟩

theorem faultObserved_of_permitted {deviceId : DeviceId} {response : Response} {i : Nat}
    (hpermits : s.Permits (.acceptResponse deviceId response)) (hround : s.initialRound)
    (hfound : s.indexOf deviceId = some i) (hi : s.participants[i]? = some participant)
    (hfault : s.FaultObserved) :
    (s.settled i (participant.control.acceptResponse response).1).FaultObserved := by
  obtain ⟨faulty, hmem, hfaulted⟩ := hfault
  obtain ⟨j, hj⟩ := List.mem_iff_getElem?.1 hmem
  unfold FaultObserved
  rw [participants_settled]
  by_cases hij : i = j
  · subst hij
    obtain rfl := Option.some.inj (hi.symm.trans hj)
    exact ⟨_, List.mem_of_getElem? (getElem?_setControl_self hi),
      faulted_of_permitted hpermits hround hfound hi hfaulted⟩
  · exact ⟨faulty, List.mem_of_getElem? ((getElem?_setControl_ne hij).trans hj), hfaulted⟩

/-- A stopping intent is never left. -/
theorem intent_step (h : Step s e t) (hs : s.intent ∈ [.abort, .cancel]) :
    t.intent ∈ [.abort, .cancel] := by
  have hready : s.phase ≠ .ready := by
    intro hphase
    rw [intent_of_phase (by rw [hphase]; rfl : _ = some CoordinationIntent.prepare)] at hs
    simp at hs
  have hinstalled : s.phase ≠ .installed := by
    intro hphase
    rw [intent_of_phase (by rw [hphase]; rfl : _ = some CoordinationIntent.install)] at hs
    simp at hs
  obtain ⟨call, outcome⟩ := e
  cases perform_cases h with
  | bound nowUiNs targetUiNs inputs commits ready fresh all planned => exact absurd ready hready
  | confirming nowUiNs inputs installed window => exact absurd installed hinstalled
  | accepted deviceId response result i participant found index =>
    unfold settled
    simp only
    split
    · rcases intent_activate (s.setControl i (participant.control.acceptResponse response).1)
        with hsame | hstop
      · rw [hsame]
        exact hs
      · exact hstop
    · exact hs
  | aborting targeted reachable => simp
  | cancelling fresh reachable => simp
  | _ => exact hs

/-- A permitted step leaves a halted coordinator halted. -/
theorem halted_step (h : Permitted s e t) (hs : s.Halted) : t.Halted := by
  rcases hs with hstop | ⟨hround, hfault⟩
  · exact Or.inl (intent_step h.1 hstop)
  · have hphase := phase_of_initialRound hround
    obtain ⟨hstep, hpermits⟩ := h
    have hkeeps : t.intent = s.intent →
        t.participants.map (·.control.report) = s.participants.map (·.control.report) →
        t.Halted := by
      intro hintent hreports
      rw [initialRound_iff, ← hintent, ← hreports] at hround
      rw [faultObserved_iff, ← hreports] at hfault
      exact Or.inr ⟨initialRound_iff.2 hround, faultObserved_iff.2 hfault⟩
    obtain ⟨call, outcome⟩ := e
    cases perform_cases hstep with
    | accepted deviceId response result i participant found index =>
      exact halted_of_settled (faultObserved_of_permitted hpermits hround found index hfault)
    | bound nowUiNs targetUiNs inputs commits ready fresh all planned =>
      rw [hphase] at ready
      cases ready
    | confirming nowUiNs inputs installed window =>
      rw [hphase] at installed
      cases installed
    | aborting targeted reachable => exact Or.inl (by simp)
    | cancelling fresh reachable => exact Or.inl (by simp)
    | refused _ _ quiet undone => exact hkeeps rfl rfl
    | requested i participant operation control running index asked earlier =>
      exact hkeeps rfl (reports_step hstep (by simp))
    | abandoned deviceId result i participant found index =>
      exact hkeeps rfl (reports_step hstep (by simp))
    | queried quiet => exact hkeeps rfl (reports_step hstep (by simp))
    | renewed renewals staged requests attended phase all aligned opened =>
      exact hkeeps rfl (reports_step hstep (by simp))

/-- Over permitted steps an observed fault halts the coordinator. -/
theorem halted_of_fault_step (h : Permitted s e t) (hs : s.FaultObserved → s.Halted)
    (hfault : t.FaultObserved) : t.Halted := by
  by_cases haccept : ∃ deviceId response, e.1 = .acceptResponse deviceId response
  · obtain ⟨deviceId, response, hcall⟩ := haccept
    obtain ⟨call, outcome⟩ := e
    obtain rfl : call = .acceptResponse deviceId response := hcall
    cases perform_cases h.1 with
    | refused _ _ quiet undone => exact hs hfault
    | accepted _ _ result i participant found index => exact halted_of_settled hfault
  · -- no other call changes a report
    have hreports := reports_step h.1 fun deviceId response hcall =>
      haccept ⟨deviceId, response, hcall⟩
    rw [faultObserved_iff, hreports, ← faultObserved_iff] at hfault
    exact halted_step h (hs hfault)

/-! ## Confirmation -/

/-- What one participant's clock says about its deadlines. -/
def BeforeConfirmDeadline (nowUiNs : UInt64) (participant : ParticipantCoordinator)
    (input : ParticipantStartInput) : Prop :=
  input.deviceId = participant.deviceId ∧ ∃ commit estimate,
    participant.plannedCommit = some commit ∧
      input.clock.estimateAt nowUiNs input.timing.maximumUncertaintyCycles = .ok estimate ∧
      estimate.latestCycle < commit.confirmDeadlineCycle

/-- An open window leaves every participant before its confirmation deadline. -/
theorem windowFrom_open {nowUiNs : UInt64} {confirmationOpen : Bool}
    {pairs : List (ParticipantCoordinator × ParticipantStartInput)}
    (h : windowFrom nowUiNs confirmationOpen pairs = .ok .confirmationOpen) :
    confirmationOpen ∧ ∀ pair ∈ pairs, BeforeConfirmDeadline nowUiNs pair.1 pair.2 := by
  induction pairs generalizing confirmationOpen with
  | nil =>
    cases confirmationOpen with
    | true => simp
    | false => simp [windowFrom] at h
  | cons pair rest ih =>
    obtain ⟨participant, input⟩ := pair
    simp only [windowFrom, checkInput, Except.bind_eq_ok, Except.exists_unit,
      Except.failIf_eq_ok, not_or, not_not, Except.mapError_eq_ok, Option.okOr_eq_ok] at h
    obtain ⟨⟨hdevice, -⟩, -, estimate, hestimate, -, commit, hcommit, h⟩ := h
    split at h
    · simp at h
    · obtain ⟨hopen, hrest⟩ := ih h
      rw [Bool.and_eq_true, decide_eq_true_eq] at hopen
      refine ⟨hopen.1, List.forall_mem_cons.2 ⟨?_, hrest⟩⟩
      exact ⟨hdevice, commit, estimate, hcommit, hestimate, hopen.2⟩

theorem deadlines_of_window {nowUiNs : UInt64} {inputs : List ParticipantStartInput}
    (h : s.deadlineWindow nowUiNs inputs = .ok .confirmationOpen)
    (hmem : participant ∈ s.participants) :
    ∃ input ∈ inputs, BeforeConfirmDeadline nowUiNs participant input := by
  simp only [deadlineWindow, Except.bind_eq_ok, Except.exists_unit, Except.failIf_eq_ok,
    not_or, not_not] at h
  obtain ⟨⟨-, hlength⟩, h⟩ := h
  have hsorted : s.participants.length =
      (Table.sortByKey (fun input => deviceKey input.deviceId) inputs).length := by
    rw [Table.length_sortByKey, hlength]
  obtain ⟨input, hinput, hpair⟩ := List.exists_zip_of_mem hsorted hmem
  exact ⟨input, Table.mem_sortByKey.1 hinput, (windowFrom_open h).2 _ hpair⟩

/-- Every participant reports exactly its planned commit installed, and every confirmation
deadline is open. -/
structure Confirmable (s : DistributedScheduleCoordinator) (nowUiNs : UInt64)
    (inputs : List ParticipantStartInput) : Prop where
  installed : ∀ participant ∈ s.participants, ∃ commit, participant.plannedCommit = some commit ∧
    participant.control.ShowsInstalled commit
  deadlines : ∀ participant ∈ s.participants, ∃ input ∈ inputs,
    BeforeConfirmDeadline nowUiNs participant input

/-- The confirmation begins where all participants are installed, if all commits are bound. -/
theorem confirmable_of_installed {nowUiNs : UInt64} {inputs : List ParticipantStartInput}
    (hs : s.Consistent)
    (hmatches : ∀ participant ∈ s.participants, participant.control.InstalledMatches)
    (hbound : ∀ participant ∈ s.participants, participant.control.commit.isSome)
    (hphase : s.phase = .installed)
    (hwindow : s.deadlineWindow nowUiNs inputs = .ok .confirmationOpen) :
    s.Confirmable nowUiNs inputs where
  installed := by
    intro participant hmem
    obtain ⟨commit, hcommit⟩ := Option.isSome_iff_exists.1 (hbound participant hmem)
    refine ⟨commit, hs.planned participant hmem commit hcommit, ?_⟩
    refine ParticipantScheduleMachine.showsInstalled_of_phase (hmatches participant hmem)
      hcommit ?_
    have hintent : s.intent = .install := intent_of_phase (by rw [hphase]; rfl)
    have hall : s.participants.all (·.phase = .installed) := by
      unfold phase at hphase
      simp only [hintent] at hphase
      repeat' split at hphase
      all_goals first | assumption | cases hphase
    simp only [List.all_eq_true, decide_eq_true_eq] at hall
    exact hall participant hmem
  deadlines := fun _ => deadlines_of_window hwindow

/-- The confirm intent is entered by beginning the confirmation, and by nothing else. -/
theorem confirming_of_step (h : Step s e t) (hs : s.intent ≠ .confirm)
    (ht : t.intent = .confirm) :
    ∃ nowUiNs inputs, e = (.beginConfirmation nowUiNs inputs, .done (.ok ())) ∧
      s.phase = .installed ∧ s.deadlineWindow nowUiNs inputs = .ok .confirmationOpen := by
  obtain ⟨call, outcome⟩ := e
  cases perform_cases h with
  | confirming nowUiNs inputs installed window => exact ⟨nowUiNs, inputs, rfl, installed, window⟩
  | accepted deviceId response result i participant found index =>
    exfalso
    unfold settled at ht
    simp only at ht
    split at ht
    · rcases intent_activate (s.setControl i (participant.control.acceptResponse response).1)
        with hsame | hstop
      · exact hs (hsame ▸ ht)
      · rw [ht] at hstop
        simp at hstop
    · exact hs ht
  | bound nowUiNs targetUiNs inputs commits ready fresh all planned => cases ht
  | aborting targeted reachable => cases ht
  | cancelling fresh reachable => cases ht
  | _ => exact absurd ht hs

/-! ## The two-phase start -/

/-- A step that stops the job: an abort, a cancel, or one after which a fault shows. -/
def Stops (e : Call × Outcome) (t : DistributedScheduleCoordinator) : Prop :=
  e = (.beginAbort, .done (.ok ())) ∨ e = (.beginCancel, .done (.ok ())) ∨ t.FaultObserved

/-- Two-phase start safety over the runs of a step relation. -/
structure StartSafety (step : DistributedScheduleCoordinator → Call × Outcome →
    DistributedScheduleCoordinator → Prop) (start : DistributedScheduleCoordinator) : Prop where
  /-- A confirm rests on an earlier state in which it could begin. -/
  confirm : ∀ history s e t request, Run step start history s → Step s e t →
    request ∈ e.2.emitted → request.request.operation = .jobConfirm →
    ∃ before since nowUiNs inputs source target,
      history = before ++ (.beginConfirmation nowUiNs inputs, .done (.ok ())) :: since ∧
        Run step start before source ∧ Run step target since s ∧
        source.Confirmable nowUiNs inputs
  /-- An install or confirm refers to the planned commit of its participant. -/
  refers : ∀ history s e t request, Run step start history s → Step s e t →
    request ∈ e.2.emitted → request.request.operation ∈ [.jobCommit, .jobConfirm] →
    ∃ participant ∈ s.participants, participant.deviceId = request.deviceId ∧
      ∃ commit, participant.plannedCommit = some commit ∧ RefersToPlanned commit request.request
  /-- Nothing is started after a stop. -/
  stopped : ∀ before a e b since s e' t request, Run step start before a → step a e b →
    Stops e b → Run step b since s → Step s e' t → request ∈ e'.2.emitted →
    starts request.request.operation = false

variable {identity : DistributedJobIdentity} {cacheReady : List ParticipantCacheReady}
  {cached : List CachedParticipantSchedule} {start : DistributedScheduleCoordinator}

theorem consistent_of_run (hbuilt : afterCachedArtifacts identity cacheReady cached = .ok start)
    (h : Run Step start history s) : s.Consistent := by
  obtain ⟨-, -, hfresh, hintent⟩ := participants_of_afterCachedArtifacts hbuilt
  refine h.invariant (p := Consistent) (fun _ _ _ hstep hs => consistent_step hstep hs) ?_
  refine ⟨by simp [hfresh, hintent], ?_, ?_⟩
  · intro _ participant hmem
    exact (new_of_afterCachedArtifacts hbuilt hmem).1
  · intro participant hmem commit hcommit
    obtain ⟨-, descriptor, bootId, hnew⟩ := new_of_afterCachedArtifacts hbuilt hmem
    rw [(ParticipantScheduleMachine.state_new hnew).1] at hcommit
    cases hcommit

theorem installedMatches_of_run
    (hbuilt : afterCachedArtifacts identity cacheReady cached = .ok start)
    (h : Run Step start history s) :
    ∀ participant ∈ s.participants, participant.control.InstalledMatches := by
  refine h.invariant
    (p := fun s => ∀ participant ∈ s.participants, participant.control.InstalledMatches)
    (fun _ _ _ hstep hs => controls_step
      (fun _ _ _ => ParticipantScheduleMachine.installedMatches_step) hstep hs) ?_
  intro participant hmem
  obtain ⟨-, descriptor, bootId, hnew⟩ := new_of_afterCachedArtifacts hbuilt hmem
  exact ParticipantScheduleMachine.installedMatches_new hnew

theorem run_of_permitted (h : Run Permitted s history t) : Run Step s history t :=
  h.mono fun _ _ _ hstep => hstep.1

/-- A confirm rests on a state in which the confirmation could begin. -/
theorem confirmable_of_confirm
    (hbuilt : afterCachedArtifacts identity cacheReady cached = .ok start)
    (hrun : Run Permitted start history s) (h : Step s e t) (hrequest : request ∈ e.2.emitted)
    (hop : request.request.operation = .jobConfirm) :
    ∃ before since nowUiNs inputs source target,
      history = before ++ (.beginConfirmation nowUiNs inputs, .done (.ok ())) :: since ∧
        Run Permitted start before source ∧ Run Permitted target since s ∧
        source.Confirmable nowUiNs inputs := by
  obtain ⟨-, -, -, hprepare⟩ := participants_of_afterCachedArtifacts hbuilt
  have hconfirm : s.intent = .confirm := by
    obtain ⟨participant, -, -, call, control, hasks, hissues⟩ :=
      asks_of_request h hrequest (by rw [hop]; rfl)
    generalize s.intent = intent at hasks ⊢
    generalize s.initialRound = initial at hasks
    generalize request.request = operation at hissues hop
    cases hasks with
    | confirm => rfl
    | _ =>
      cases hissues
      cases hop
  -- the intent was entered by the last step into it
  obtain ⟨entry⟩ := hrun.last_entry (p := fun s => s.intent = .confirm)
    (by rw [hprepare]; simp) hconfirm
  obtain ⟨nowUiNs, inputs, hevent, hphase, hwindow⟩ :=
    confirming_of_step entry.entered.1 entry.outside entry.inside
  have hbefore := run_of_permitted entry.run_before
  have hpermits := entry.entered.2
  have hhistory := entry.history
  rw [hevent] at hpermits hhistory
  refine ⟨entry.before, entry.since, nowUiNs, inputs, entry.source, entry.target, hhistory,
    entry.run_before, entry.run_since.mono fun _ _ _ hstep => hstep.1, ?_⟩
  exact confirmable_of_installed (consistent_of_run hbuilt hbefore)
    (installedMatches_of_run hbuilt hbefore) (hpermits hphase) hphase hwindow

/-- A stopped run stays halted. -/
theorem halted_of_run (hbuilt : afterCachedArtifacts identity cacheReady cached = .ok start)
    {before since : List (Call × Outcome)} {a b : DistributedScheduleCoordinator}
    (hbefore : Run Permitted start before a) (h : Permitted a e b) (hstops : Stops e b)
    (hsince : Run Permitted b since s) : s.Halted := by
  have hstart : start.FaultObserved → start.Halted := by
    rintro ⟨participant, hmem, hfaulted⟩
    obtain ⟨report, hreport, -⟩ := faulted_iff.1 hfaulted
    obtain ⟨-, descriptor, bootId, hnew⟩ := new_of_afterCachedArtifacts hbuilt hmem
    rw [(ParticipantScheduleMachine.state_new hnew).2.2.1] at hreport
    cases hreport
  have hfault : a.FaultObserved → a.Halted :=
    hbefore.invariant (p := fun s => s.FaultObserved → s.Halted)
      (fun _ _ _ hstep hs => halted_of_fault_step hstep hs) hstart
  refine hsince.invariant (p := Halted) (fun _ _ _ hstep hs => halted_step hstep hs) ?_
  rcases hstops with rfl | rfl | hobserved
  · cases perform_cases h.1 with
    | refused _ _ quiet undone => exact absurd rfl undone
    | aborting targeted reachable => exact Or.inl (by simp)
  · cases perform_cases h.1 with
    | refused _ _ quiet undone => exact absurd rfl undone
    | cancelling fresh reachable => exact Or.inl (by simp)
  · exact halted_of_fault_step h hfault hobserved

/-- The two-phase start is safe over every run whose steps are permitted. -/
theorem twoPhaseStart (hbuilt : afterCachedArtifacts identity cacheReady cached = .ok start) :
    StartSafety Permitted start where
  confirm := fun _ _ _ _ _ hrun h hrequest hop => confirmable_of_confirm hbuilt hrun h hrequest hop
  refers := by
    intro history s e t request hrun h hrequest hop
    exact planned_of_request (consistent_of_run hbuilt (run_of_permitted hrun)) h hrequest hop
  stopped := by
    intro before a e b since s e' t request hbefore hstep hstops hsince h hrequest
    exact not_starts_of_halted h (halted_of_run hbuilt hbefore hstep hstops hsince) hrequest

end Runs

/-! ## Two devices -/

section Sample

open HostLibrary
open ParticipantScheduleMachine (preparedReport installedReport)

def deviceA : DeviceId := .replicate 16 0x01

def deviceB : DeviceId := .replicate 16 0x02

def sampleIdentity : DistributedJobIdentity where
  globalJobDigest := .replicate 32 0x61
  participantSetDigest := .replicate 32 0x62
  globalTimebaseHz := 1000000
  durationTicks := 1000000
  networkPolicy := .networkAttended
  globalManifest := ⟨⟨.machineJobManifest, ⟨.sha256, .replicate 32 0x61⟩, 256⟩,
    ⟨.sha256, .replicate 32 0x65⟩⟩

def sampleReady (deviceId : DeviceId) : ParticipantCacheReady :=
  ⟨deviceId, sampleDescriptor.partition, sampleIdentity.globalManifest⟩

def sampleCached (deviceId : DeviceId) : CachedParticipantSchedule :=
  ⟨deviceId, sampleBoot, sampleDescriptor⟩

/-- A coordinator of participants that have made no call yet. -/
def sampleStart (devices : List DeviceId) : DistributedScheduleCoordinator where
  participants := devices.map (⟨·, sampleMachine, none⟩)
  globalJobDigest := sampleIdentity.globalJobDigest
  participantSetDigest := sampleIdentity.participantSetDigest
  globalTimebaseHz := sampleIdentity.globalTimebaseHz
  durationTicks := sampleIdentity.durationTicks
  networkPolicy := sampleIdentity.networkPolicy
  targetUiNs := none
  intent := .prepare
  faultCleanupActive := false

theorem sampleStart_built : afterCachedArtifacts sampleIdentity
    [sampleReady deviceA, sampleReady deviceB] [sampleCached deviceA, sampleCached deviceB] =
      .ok (sampleStart [deviceA, deviceB]) := by
  rfl

def sampleInput (deviceId : DeviceId) : ParticipantStartInput where
  deviceId := deviceId
  clock := ⟨(⟨sampleBoot, 0, 300, 7, 1, 0⟩ : LinearClock), some sampleBoot,
    some (heartbeat 7 900000000 sampleBoot 900000), 8, none⟩
  timing := ⟨1000, 2000, 400000, 200000, 3000000, ⟨List.replicate 16 0x63⟩⟩

/-- The device answers with a report. -/
def answers (deviceId : DeviceId) (report : JobStatusReport) : Call :=
  .acceptResponse deviceId ⟨.ok, encodeStatus report⟩

/-- Both devices report their preparation. -/
def readyCalls : List Call :=
  [.nextRequest, .nextRequest, answers deviceA preparedReport, answers deviceB preparedReport]

/-- Both devices are ready and a start is bound. -/
def bindingCalls : List Call :=
  readyCalls ++
    [.bindStart 1000000000 5000000000 [sampleInput deviceA, sampleInput deviceB]]

/-- The coordinator of two devices after a list of calls. -/
def after (calls : List Call) : DistributedScheduleCoordinator :=
  (Run.execute perform (sampleStart [deviceA, deviceB]) calls).1

theorem run_after (calls : List Call) :
    Run Step (sampleStart [deviceA, deviceB])
      (Run.execute perform (sampleStart [deviceA, deviceB]) calls).2 (after calls) :=
  Run.run_execute perform _ calls

/-- A schedule of another commit, installed. -/
def foreignReport : JobStatusReport :=
  { installedReport with
    schedule := installedReport.schedule.map
      ({ · with commitId := List.replicate 16 0x64 }) }

/-- The first device installs its commit, the second reports one that was never sent. -/
def foreignCalls : List Call :=
  bindingCalls ++ [.nextRequest, answers deviceA installedReport, .beginStatusRound,
    answers deviceA installedReport, answers deviceB foreignReport,
    .beginConfirmation 1000000000 [sampleInput deviceA, sampleInput deviceB]]

/-- Some participant does not report its planned commit installed. -/
def unmatched (s : DistributedScheduleCoordinator) : Bool :=
  s.participants.any fun participant =>
    !(participant.control.report.bind (·.schedule)).any fun schedule =>
      schedule.state = .installed &&
        participant.plannedCommit.any fun commit => schedule.commitId = commit.commitId.asBytes

theorem not_confirmable_of_unmatched {s : DistributedScheduleCoordinator} {nowUiNs : UInt64}
    {inputs : List ParticipantStartInput} (h : s.unmatched) : ¬ s.Confirmable nowUiNs inputs := by
  intro hconfirmable
  simp only [unmatched, List.any_eq_true, Bool.not_eq_true'] at h
  obtain ⟨participant, hmem, hnot⟩ := h
  obtain ⟨commit, hplanned, report, schedule, authorized, hreport, hschedule, hstate, hid, -⟩ :=
    hconfirmable.installed participant hmem
  simp [hreport, hschedule, hstate, hplanned, hid] at hnot

theorem twoPhaseStart_sample : StartSafety Permitted (sampleStart [deviceA, deviceB]) :=
  twoPhaseStart sampleStart_built

/-- A foreign commit that one device reports installed lets the other one be confirmed. -/
theorem startSafety_fails :
    ¬ ∀ identity cacheReady cached start,
        afterCachedArtifacts identity cacheReady cached = .ok start → StartSafety Step start := by
  intro h
  have hsafe := h _ _ _ _ sampleStart_built
  have hrun := Run.run_execute perform (sampleStart [deviceA, deviceB]) foreignCalls
  have hcalls : (Run.execute perform (sampleStart [deviceA, deviceB]) foreignCalls).2.map
      Prod.fst = foreignCalls := Run.calls_of_execute perform _ foreignCalls
  have hunmatched : ∀ k < 12, (Run.execute perform (sampleStart [deviceA, deviceB])
      (foreignCalls.take k)).1.unmatched := by
    decide +kernel
  have hemitted : ((Run.execute perform (sampleStart [deviceA, deviceB]) foreignCalls).1.perform
      .nextRequest).2.emitted.map (·.request.operation) = [.jobConfirm] := by
    decide +kernel
  -- only these values matter, not the run that computes them
  generalize Run.execute perform (sampleStart [deviceA, deviceB]) foreignCalls = result
    at hrun hcalls hemitted
  obtain ⟨request, hrequest, hop⟩ := List.mem_map.1 (hemitted ▸ List.mem_singleton_self _)
  obtain ⟨before, since, nowUiNs, inputs, source, target, hhistory, hbefore, -, hconfirmable⟩ :=
    hsafe.confirm result.2 result.1 (.nextRequest, _) _ request hrun rfl hrequest hop
  have htake : before.map Prod.fst = foreignCalls.take before.length := by
    rw [← hcalls, hhistory]
    simp
  have hlength : before.length < 12 := by
    have hlen := congrArg List.length hcalls
    rw [hhistory] at hlen
    simp [foreignCalls, bindingCalls, readyCalls] at hlen
    omega
  have hsource := Run.execute_of_run hbefore
  rw [htake] at hsource
  have hstate := hunmatched before.length hlength
  rw [hsource] at hstate
  exact not_confirmable_of_unmatched hstate hconfirmable

end Sample

end DistributedScheduleCoordinator

end Alumina.Client
