import Alumina.Client.GraphLibrary

/-!
# What the graph coordinators act on

A history lists the calls on a coordinator with what they returned; a report is accepted by a
response that returned without error. What a coordinator asks for next is then a statement
about its history.

## Key results

- `GraphRunMachine.perform_cases`, `GraphInstallMachine.perform_cases`: everything a call can do
- `GraphRunMachine.tracked_step`, `GraphInstallMachine.tracked_step`: what a call preserves
- `graphLifecycle`: over every run both coordinators act on exact evidence
-/

namespace Alumina.Client

open Except (failIf)

section Runs

variable [GraphWire]

/-! ## The run coordinator -/

/-- The phase in which a run action is asked for. -/
def GraphRunAction.phase : GraphRunAction → GraphRunPhase
  | .start => .starting
  | .pollRunning => .awaitingRunning
  | .stop => .stopping
  | .pollStopped => .awaitingStopped

namespace GraphRunMachine

variable {machine next : GraphRunMachine} {call : Call} {outcome : Outcome}
  {action : GraphRunAction} {operation : GraphOperation} {report : GraphCoordinatorReport}
  {phase : GraphRunPhase} {event : Call × Outcome} {history : List (Call × Outcome)}

/-- The operation a call emitted. -/
def Outcome.emitted : Outcome → Option GraphOperation
  | .next (.ok operation) => operation
  | _ => none

/-- The report a call accepted. -/
def acceptedReport : Call × Outcome → Option GraphCoordinatorReport
  | (.acceptResponse response, .accepted (.ok ())) =>
    (GraphWire.decodeReport response.body).toOption
  | _ => none

/-- Everything a call can do. -/
inductive Transition (machine : GraphRunMachine) : Call × Outcome → GraphRunMachine → Prop
  | kept (call : Call) (outcome : Outcome) (pending : Option GraphRunAction)
      (latest : Option GraphCoordinatorReport) (silent : outcome.emitted = none)
      (unaccepted : outcome ≠ .accepted (.ok ())) (unstopped : outcome ≠ .stopped (.ok ()))
      (settles : pending = machine.pending ∨ pending = none) :
      Transition machine (call, outcome) { machine with pending, latest }
  | issued (action : GraphRunAction) (operation : GraphOperation) (quiet : machine.pending = none)
      (asked : machine.nextAction = .ok (some (action, operation))) :
      Transition machine (.nextRequest, .next (.ok (some operation)))
        { machine with pending := some action }
  | faulted (response : Response) (report : GraphCoordinatorReport)
      (decoded : GraphWire.decodeReport response.body = .ok report)
      (identity : runIdentity report machine.request) (faulted : report.phase = .executionFaulted) :
      Transition machine (.acceptResponse response, .accepted (.ok ()))
        { machine with
          pending := none
          latest := some report
          fault := machine.fault.or (some report)
          phase := .stopping }
  | advanced (response : Response) (report : GraphCoordinatorReport) (action : GraphRunAction)
      (phase : GraphRunPhase) (found : machine.pending = some action)
      (decoded : GraphWire.decodeReport response.body = .ok report)
      (identity : runIdentity report machine.request)
      (running : report.phase ≠ .executionFaulted)
      (clear : report.fault = .none ∧ report.execution.fault = none)
      (advances : machine.advance action report = .ok phase) :
      Transition machine (.acceptResponse response, .accepted (.ok ()))
        { machine with pending := none, latest := some report, phase }
  | stopping (quiet : machine.pending = none)
      (started : machine.phase ∈ [.awaitingRunning, .running]) :
      Transition machine (.requestStop, .stopped (.ok ())) { machine with phase := .stopping }
  | stopped (quiet : machine.pending = none)
      (ending : machine.phase ∈ [.stopping, .awaitingStopped, .complete]) :
      Transition machine (.requestStop, .stopped (.ok ())) machine

private theorem acceptResponse_transition (machine : GraphRunMachine) (response : Response) :
    Transition machine (.acceptResponse response, .accepted (machine.acceptResponse response).2)
      (machine.acceptResponse response).1 := by
  unfold acceptResponse
  cases hpending : machine.pending with
  | none =>
    exact .kept _ _ machine.pending _ rfl nofun nofun (Or.inl rfl)
  | some action =>
    simp only
    split
    · exact .kept _ _ _ _ rfl nofun nofun (Or.inr rfl)
    cases hdecoded : GraphWire.decodeReport response.body with
    | error error => exact .kept _ _ _ _ rfl nofun nofun (Or.inr rfl)
    | ok report =>
      simp only [acceptReport]
      split
      · exact .kept _ _ _ _ rfl nofun nofun (Or.inr rfl)
      next hidentity =>
      rw [not_not] at hidentity
      split
      · exact .kept _ _ _ _ rfl nofun nofun (Or.inr rfl)
      split
      · next hfaulted => exact .faulted response report hdecoded hidentity hfaulted
      next hrunning =>
      split
      · exact .kept _ _ _ _ rfl nofun nofun (Or.inr rfl)
      next hclear =>
      rw [not_or, not_not, Bool.not_eq_true, Option.isSome_eq_false_iff,
        Option.isNone_iff_eq_none] at hclear
      have hsame : advance { machine with pending := none, latest := some report } action report =
          machine.advance action report := rfl
      rw [hsame]
      cases hadvance : machine.advance action report with
      | error error => exact .kept _ _ _ _ rfl nofun nofun (Or.inr rfl)
      | ok phase =>
        exact .advanced response report action phase hpending hdecoded hidentity hrunning hclear
          hadvance

theorem perform_cases (h : Step machine (call, outcome) next) :
    Transition machine (call, outcome) next := by
  have hperform : machine.perform call = (next, outcome) := h
  have hgoal : Transition machine (call, (machine.perform call).2) (machine.perform call).1 := by
    cases call with
    | nextRequest =>
      simp only [perform, nextRequest]
      split
      · exact .kept _ _ _ _ rfl nofun nofun (Or.inl rfl)
      next hquiet =>
      rw [Bool.not_eq_true, Option.isSome_eq_false_iff, Option.isNone_iff_eq_none] at hquiet
      cases hasked : machine.nextAction with
      | error error => exact .kept _ _ _ _ rfl nofun nofun (Or.inl rfl)
      | ok asked =>
        cases asked with
        | none => exact .kept _ _ _ _ rfl nofun nofun (Or.inl rfl)
        | some asked => exact .issued asked.1 asked.2 hquiet hasked
    | acceptResponse response => exact acceptResponse_transition machine response
    | abandonPending => exact .kept _ _ _ _ rfl nofun nofun (Or.inr rfl)
    | requestStop =>
      simp only [perform, requestStop]
      split
      · exact .kept _ _ _ _ rfl nofun nofun (Or.inl rfl)
      next hquiet =>
      rw [Bool.not_eq_true, Option.isSome_eq_false_iff, Option.isNone_iff_eq_none] at hquiet
      cases hphase : machine.phase with
      | starting => exact .kept _ _ _ _ rfl nofun nofun (Or.inl rfl)
      | awaitingRunning => exact .stopping hquiet (by simp [hphase])
      | running => exact .stopping hquiet (by simp [hphase])
      | stopping => exact .stopped hquiet (by simp [hphase])
      | awaitingStopped => exact .stopped hquiet (by simp [hphase])
      | complete => exact .stopped hquiet (by simp [hphase])
  rw [hperform] at hgoal
  exact hgoal

/-- What a phase asks for. -/
theorem nextAction_eq_ok (h : machine.nextAction = .ok (some (action, operation))) :
    machine.phase = action.phase ∧
      (operation.operation = .graphStart → machine.phase = .starting) ∧
      (operation.operation = .graphStop → machine.phase = .stopping) ∧
      (operation.operation ∈ [.graphStart, .graphStop] →
        GraphWire.encodeRun machine.request = .ok operation.body) ∧
      (machine.phase = .stopping → operation.operation = .graphStop) := by
  unfold nextAction at h
  cases hphase : machine.phase <;>
    simp only [hphase, Except.bind_eq_ok, Except.mapError_eq_ok, Except.pure_eq_ok,
      Option.some.injEq, Prod.mk.injEq, reduceCtorEq] at h
  case starting =>
    obtain ⟨body, hbody, rfl, rfl⟩ := h
    exact ⟨rfl, fun _ => rfl, by simp, fun _ => hbody, by simp⟩
  case awaitingRunning =>
    obtain ⟨rfl, rfl⟩ := h
    exact ⟨rfl, by simp, by simp, by simp, by simp⟩
  case stopping =>
    obtain ⟨body, hbody, rfl, rfl⟩ := h
    exact ⟨rfl, by simp, fun _ => rfl, fun _ => hbody, fun _ => rfl⟩
  case awaitingStopped =>
    obtain ⟨rfl, rfl⟩ := h
    exact ⟨rfl, by simp, by simp, by simp, by simp⟩

/-- An operation is emitted only while nothing is pending. -/
theorem nextRequest_eq_ok (h : machine.nextRequest.2 = .ok (some operation)) :
    ∃ action, machine.pending = none ∧ machine.nextAction = .ok (some (action, operation)) := by
  unfold nextRequest at h
  split at h
  · cases h
  next hquiet =>
  rw [Bool.not_eq_true, Option.isSome_eq_false_iff, Option.isNone_iff_eq_none] at hquiet
  cases hasked : machine.nextAction with
  | error error =>
    rw [hasked] at h
    cases h
  | ok asked =>
    rw [hasked] at h
    cases asked with
    | none => cases h
    | some asked =>
      cases h
      exact ⟨asked.1, hquiet, rfl⟩

/-- The phases of a run that was stopped or has faulted. -/
def Ending (phase : GraphRunPhase) : Prop := phase ∈ [.stopping, .awaitingStopped, .complete]

/-- Where a report leads: never back to the start, and from a stop only on with it. -/
theorem advance_eq_ok (h : machine.advance action report = .ok phase) :
    phase ≠ .starting ∧ (Ending action.phase → Ending phase) ∧
      (phase = .complete → report.phase = .active ∧ stoppedMatches report machine.request) := by
  unfold advance at h
  cases action <;> cases hphase : report.phase <;>
    simp only [hphase, Except.pure_eq_ok, reduceCtorEq] at h
  all_goals first
    | cases h
      simp [Ending, GraphRunAction.phase]
    | cases h
    | split at h
      · next hmatches =>
        cases h
        simp [Ending, GraphRunAction.phase, hmatches]
      · cases h

/-- A call that stops the run: a stop that succeeded, or an accepted fault. -/
def Ends (event : Call × Outcome) : Prop :=
  event.2 = .stopped (.ok ()) ∨
    ∃ report, acceptedReport event = some report ∧ report.phase = .executionFaulted

/-- What is known of a machine from its history. -/
structure Tracked (request : GraphRunRequest) (history : List (Call × Outcome))
    (machine : GraphRunMachine) : Prop where
  request : machine.request = request
  fits : ∀ action, machine.pending = some action → machine.phase = action.phase
  started : (∃ event ∈ history, (acceptedReport event).isSome) → machine.phase ≠ .starting
  ended : (∃ event ∈ history, Ends event) → Ending machine.phase
  fault : machine.fault =
    (history.filterMap acceptedReport).find? (·.phase = .executionFaulted)

theorem not_acceptedReport (h : outcome ≠ .accepted (.ok ())) :
    acceptedReport (call, outcome) = none := by
  unfold acceptedReport
  split
  · next heq =>
    cases heq
    exact absurd rfl h
  · rfl

/-- A call that accepts nothing and stops nothing adds nothing to what is known. -/
theorem Tracked.quiet {request : GraphRunRequest} (hs : Tracked request history machine)
    (hnext : next.request = machine.request) (hphase : next.phase = machine.phase)
    (hfault : next.fault = machine.fault)
    (hfits : ∀ action, next.pending = some action → next.phase = action.phase)
    (hunaccepted : acceptedReport event = none) (hunstopped : event.2 ≠ .stopped (.ok ())) :
    Tracked request (history ++ [event]) next := by
  have hquiet : ¬ Ends event := by
    rintro (hstopped | ⟨report, haccepted, -⟩)
    · exact hunstopped hstopped
    · rw [hunaccepted] at haccepted
      cases haccepted
  refine ⟨hnext.trans hs.request, hfits, ?_, ?_, ?_⟩
  · rintro ⟨earlier, hmem, haccepted⟩
    rw [hphase]
    rcases List.mem_append.1 hmem with hold | hlast
    · exact hs.started ⟨earlier, hold, haccepted⟩
    · rw [List.mem_singleton.1 hlast, hunaccepted] at haccepted
      cases haccepted
  · rintro ⟨earlier, hmem, hends⟩
    rw [hphase]
    rcases List.mem_append.1 hmem with hold | hlast
    · exact hs.ended ⟨earlier, hold, hends⟩
    · rw [List.mem_singleton.1 hlast] at hends
      exact absurd hends hquiet
  · rw [hfault, hs.fault, List.filterMap_append, List.filterMap_cons, hunaccepted,
      List.filterMap_nil, List.append_nil]

/-- What is known of a machine stays known after a call. -/
theorem tracked_step {request : GraphRunRequest} (h : Step machine event next)
    (hs : Tracked request history machine) : Tracked request (history ++ [event]) next := by
  obtain ⟨call, outcome⟩ := event
  cases perform_cases h with
  | kept _ _ pending latest silent unaccepted unstopped settles =>
    refine hs.quiet rfl rfl rfl ?_ (not_acceptedReport unaccepted) unstopped
    rintro action rfl
    rcases settles with hsame | hnone
    · exact hs.fits action hsame.symm
    · cases hnone
  | issued action operation quiet asked =>
    refine hs.quiet rfl rfl rfl ?_ rfl nofun
    rintro _ ⟨⟩
    exact (nextAction_eq_ok asked).1
  | faulted response report decoded identity faulted =>
    have haccepted : acceptedReport (.acceptResponse response, .accepted (.ok ())) =
        some report := by
      rw [acceptedReport, decoded]
      rfl
    refine ⟨hs.request, ?_, ?_, fun _ => by simp [Ending], ?_⟩
    · rintro _ ⟨⟩
    · rintro - ⟨⟩
    · show machine.fault.or (some report) = _
      rw [hs.fault, List.filterMap_append, List.filterMap_cons, haccepted, List.filterMap_nil,
        List.find?_append, List.find?_cons_of_pos (by simpa using faulted)]
  | advanced response report action phase found decoded identity running clear advances =>
    have haccepted : acceptedReport (.acceptResponse response, .accepted (.ok ())) =
        some report := by
      rw [acceptedReport, decoded]
      rfl
    obtain ⟨hstarted, hending, -⟩ := advance_eq_ok advances
    refine ⟨hs.request, ?_, fun _ => hstarted, ?_, ?_⟩
    · rintro _ ⟨⟩
    · rintro ⟨earlier, hmem, hends⟩
      rcases List.mem_append.1 hmem with hold | hlast
      · have hphase := hs.ended ⟨earlier, hold, hends⟩
        rw [hs.fits action found] at hphase
        exact hending hphase
      · rw [List.mem_singleton.1 hlast] at hends
        rcases hends with hstopped | ⟨other, hother, hfaulted⟩
        · cases hstopped
        · rw [haccepted, Option.some.injEq] at hother
          exact absurd (hother ▸ hfaulted) running
    · show machine.fault = _
      rw [hs.fault, List.filterMap_append, List.filterMap_cons, haccepted, List.filterMap_nil,
        List.find?_append, List.find?_cons_of_neg (by simpa using running), List.find?_nil,
        Option.or_none]
  | stopping quiet started =>
    refine ⟨hs.request, ?_, ?_, fun _ => by simp [Ending], ?_⟩
    · intro action haction
      rw [show machine.pending = some action from haction] at quiet
      cases quiet
    · rintro - ⟨⟩
    · rw [List.filterMap_append]
      simpa [acceptedReport] using hs.fault
  | stopped quiet ending =>
    refine ⟨hs.request, hs.fits, ?_, fun _ => ending, ?_⟩
    · rintro - hstarting
      simp [hstarting] at ending
    · rw [List.filterMap_append]
      simpa [acceptedReport] using hs.fault

/-- A run coordinator acts on exact evidence. -/
structure Disciplined (request : GraphRunRequest) (history : List (Call × Outcome))
    (machine : GraphRunMachine) : Prop where
  /-- Every start and every stop carries the bound request. -/
  bound : ∀ operation, machine.nextRequest.2 = .ok (some operation) →
    operation.operation ∈ [.graphStart, .graphStop] →
    GraphWire.encodeRun request = .ok operation.body
  /-- No start follows an accepted report. -/
  once : (∃ event ∈ history, (acceptedReport event).isSome) →
    ∀ operation, machine.nextRequest.2 = .ok (some operation) → operation.operation ≠ .graphStart
  /-- A stop or a fault leaves only the way to the end. -/
  ends : (∃ event ∈ history, Ends event) → Ending machine.phase
  stops : machine.phase = .stopping → machine.pending = none →
    ∀ body, GraphWire.encodeRun request = .ok body →
      machine.nextRequest.2 = .ok (some ⟨.graphStop, body⟩)
  /-- The run is complete only on a report of this run with everything stopped. -/
  completes : ∀ event next, Step machine event next → next.phase = .complete →
    machine.phase = .complete ∨ ∃ report, acceptedReport event = some report ∧
      report.phase = .active ∧ report.fault = .none ∧ stoppedMatches report request
  /-- The retained fault is the first one accepted. -/
  fault : machine.fault =
    (history.filterMap acceptedReport).find? (·.phase = .executionFaulted)

/-- What is known of a machine is enough to act on. -/
theorem Tracked.disciplined {request : GraphRunRequest} (hs : Tracked request history machine) :
    Disciplined request history machine := by
  refine
    { bound := ?_
      once := ?_
      ends := hs.ended
      stops := ?_
      completes := ?_
      fault := hs.fault }
  · intro operation hemitted hmutates
    obtain ⟨action, -, hasked⟩ := nextRequest_eq_ok hemitted
    rw [← hs.request]
    exact (nextAction_eq_ok hasked).2.2.2.1 hmutates
  · intro haccepted operation hemitted hstart
    obtain ⟨action, -, hasked⟩ := nextRequest_eq_ok hemitted
    exact hs.started haccepted ((nextAction_eq_ok hasked).2.1 hstart)
  · intro hphase hquiet body hbody
    have hasked : machine.nextAction = .ok (some (.stop, ⟨.graphStop, body⟩)) := by
      rw [nextAction, hphase, hs.request, hbody]
      rfl
    rw [nextRequest, hquiet, hasked]
    rfl
  · rintro ⟨call, outcome⟩ next hstep hcomplete
    cases perform_cases hstep with
    | kept => exact Or.inl hcomplete
    | issued => exact Or.inl hcomplete
    | faulted => cases hcomplete
    | advanced response report action phase found decoded identity running clear advances =>
      obtain ⟨hactive, hmatches⟩ := (advance_eq_ok advances).2.2 hcomplete
      refine Or.inr ⟨report, ?_, hactive, clear.1, hs.request ▸ hmatches⟩
      rw [acceptedReport, decoded]
      rfl
    | stopping => cases hcomplete
    | stopped => exact Or.inl hcomplete

theorem tracked_of_run {request : GraphRunRequest} {start : GraphRunMachine}
    (hbuilt : GraphRunMachine.new request = .ok start) (h : Run Step start history machine) :
    Tracked request history machine := by
  simp only [GraphRunMachine.new, Except.bind_eq_ok, Except.exists_unit,
    Except.pure_eq_ok] at hbuilt
  obtain ⟨-, rfl⟩ := hbuilt
  have hinitial : Tracked request [] ⟨request, .starting, none, none, none⟩ :=
    ⟨rfl, by simp, by simp, by simp, rfl⟩
  exact h.along_history (fun _ _ _ _ hstep hs => tracked_step hstep hs) hinitial

end GraphRunMachine

/-! ## The install coordinator -/

namespace GraphInstallMachine

variable {machine next : GraphInstallMachine} {call : Call} {outcome : Outcome}
  {action : GraphInstallAction} {operation : GraphOperation} {report : GraphCoordinatorReport}
  {phase : GraphInstallPhase} {event : Call × Outcome} {history : List (Call × Outcome)}

/-- The report a call accepted. -/
def acceptedReport : Call × Outcome → Option GraphCoordinatorReport
  | (.acceptResponse response, .accepted (.ok ())) =>
    (GraphWire.decodeReport response.body).toOption
  | _ => none

/-- Everything a call can do. -/
inductive Transition (machine : GraphInstallMachine) :
    Call × Outcome → GraphInstallMachine → Prop
  | kept (call : Call) (outcome : Outcome) (pending : Option GraphInstallAction)
      (latest : Option GraphCoordinatorReport) :
      Transition machine (call, outcome) { machine with pending, latest }
  | advanced (response : Response) (report : GraphCoordinatorReport) (action : GraphInstallAction)
      (phase : GraphInstallPhase) (decoded : GraphWire.decodeReport response.body = .ok report)
      (identity : reportIdentity report machine.selection)
      (advances : machine.advance action report = .ok phase) :
      Transition machine (.acceptResponse response, .accepted (.ok ()))
        { machine with pending := none, latest := some report, phase }

private theorem acceptResponse_transition (machine : GraphInstallMachine) (response : Response) :
    Transition machine (.acceptResponse response, .accepted (machine.acceptResponse response).2)
      (machine.acceptResponse response).1 := by
  unfold acceptResponse
  cases hpending : machine.pending with
  | none => exact .kept _ _ machine.pending _
  | some action =>
    simp only
    split
    · exact .kept _ _ _ _
    cases hdecoded : GraphWire.decodeReport response.body with
    | error error => exact .kept _ _ _ _
    | ok report =>
      simp only [acceptReport]
      split
      · exact .kept _ _ _ _
      next hidentity =>
      rw [not_not] at hidentity
      split
      · exact .kept _ _ _ _
      have hsame : advance { machine with pending := none, latest := some report } action report =
          machine.advance action report := rfl
      rw [hsame]
      cases hadvance : machine.advance action report with
      | error error => exact .kept _ _ _ _
      | ok phase => exact .advanced response report action phase hdecoded hidentity hadvance

theorem perform_cases (h : Step machine (call, outcome) next) :
    Transition machine (call, outcome) next := by
  have hperform : machine.perform call = (next, outcome) := h
  have hgoal : Transition machine (call, (machine.perform call).2) (machine.perform call).1 := by
    cases call with
    | nextRequest =>
      simp only [perform, nextRequest]
      split
      · exact .kept _ _ _ _
      cases machine.nextAction with
      | error error => exact .kept _ _ _ _
      | ok asked =>
        cases asked with
        | none => exact .kept _ _ _ _
        | some asked => exact .kept _ _ _ _
    | acceptResponse response => exact acceptResponse_transition machine response
    | abandonPending => exact .kept _ _ _ _
  rw [hperform] at hgoal
  exact hgoal

/-- An activation is emitted in its phase only. -/
theorem activating_of_nextRequest (h : machine.nextRequest.2 = .ok (some operation))
    (hactivate : operation.operation = .graphActivate) : machine.phase = .activating := by
  unfold nextRequest at h
  split at h
  · cases h
  unfold nextAction at h
  cases hphase : machine.phase <;> simp only [hphase] at h
  case activating => rfl
  case installing =>
    cases hbody : GraphWire.encodePublication machine.publication with
    | error error =>
      rw [hbody] at h
      cases h
    | ok body =>
      rw [hbody] at h
      cases h
      cases hactivate
  all_goals
    cases h
    try cases hactivate

/-- What led a report to an activation or to the end. -/
theorem advance_eq_ok (h : machine.advance action report = .ok phase) :
    (phase = .activating → report.phase = .candidateValid) ∧
      (phase = .complete → report.phase = .active ∧ activeMatches report machine.selection) := by
  unfold advance at h
  cases action <;> cases hphase : report.phase <;>
    simp only [hphase, Except.pure_eq_ok, reduceCtorEq] at h
  all_goals first
    | cases h
      simp
    | cases h
    | split at h
      · next hmatches =>
        cases h
        simp [hmatches]
      · cases h

/-- What is known of a machine from its history. -/
structure Tracked (publication : GraphPublication) (history : List (Call × Outcome))
    (machine : GraphInstallMachine) : Prop where
  selection : machine.selection = Client.selection publication
  candidate : machine.phase = .activating → ∃ event ∈ history, ∃ report,
    acceptedReport event = some report ∧ report.phase = .candidateValid ∧
      reportIdentity report (Client.selection publication)

/-- What is known of a machine stays known after a call. -/
theorem tracked_step {publication : GraphPublication} (h : Step machine event next)
    (hs : Tracked publication history machine) : Tracked publication (history ++ [event]) next := by
  obtain ⟨call, outcome⟩ := event
  cases perform_cases h with
  | kept _ _ pending latest =>
    refine ⟨hs.selection, fun hphase => ?_⟩
    obtain ⟨earlier, hmem, hevidence⟩ := hs.candidate hphase
    exact ⟨earlier, List.mem_append_left _ hmem, hevidence⟩
  | advanced response report action phase decoded identity advances =>
    refine ⟨hs.selection, fun hphase => ?_⟩
    refine ⟨_, List.mem_append_right _ (List.mem_singleton_self _), report, ?_,
      (advance_eq_ok advances).1 hphase, hs.selection ▸ identity⟩
    rw [acceptedReport, decoded]
    rfl

/-- An install coordinator acts on exact evidence. -/
structure Disciplined (publication : GraphPublication) (history : List (Call × Outcome))
    (machine : GraphInstallMachine) : Prop where
  /-- An activation follows an accepted candidate of this exact package. -/
  activates : ∀ operation, machine.nextRequest.2 = .ok (some operation) →
    operation.operation = .graphActivate → ∃ event ∈ history, ∃ report,
      acceptedReport event = some report ∧ report.phase = .candidateValid ∧
        reportIdentity report (Client.selection publication)
  /-- The installation is complete only on a report of this package, active and authorized. -/
  completes : ∀ event next, Step machine event next → next.phase = .complete →
    machine.phase = .complete ∨ ∃ report, acceptedReport event = some report ∧
      report.phase = .active ∧ reportIdentity report (Client.selection publication) ∧
      activeMatches report (Client.selection publication)

/-- What is known of a machine is enough to act on. -/
theorem Tracked.disciplined {publication : GraphPublication}
    (hs : Tracked publication history machine) : Disciplined publication history machine := by
  refine ⟨fun operation hemitted hactivate =>
    hs.candidate (activating_of_nextRequest hemitted hactivate), ?_⟩
  rintro ⟨call, outcome⟩ next hstep hcomplete
  cases perform_cases hstep with
  | kept => exact Or.inl hcomplete
  | advanced response report action phase decoded identity advances =>
    obtain ⟨hactive, hmatches⟩ := (advance_eq_ok advances).2 hcomplete
    rw [hs.selection] at identity hmatches
    refine Or.inr ⟨report, ?_, hactive, identity, hmatches⟩
    rw [acceptedReport, decoded]
    rfl

theorem tracked_of_run {publication : GraphPublication} {start : GraphInstallMachine}
    (hbuilt : GraphInstallMachine.new publication = .ok start)
    (h : Run Step start history machine) : Tracked publication history machine := by
  simp only [GraphInstallMachine.new, Except.bind_eq_ok, Except.exists_unit,
    Except.pure_eq_ok] at hbuilt
  obtain ⟨-, rfl⟩ := hbuilt
  have hinitial : Tracked publication []
      ⟨publication, Client.selection publication, .installing, none, none⟩ := ⟨rfl, by simp⟩
  exact h.along_history (fun _ _ _ _ hstep hs => tracked_step hstep hs) hinitial

end GraphInstallMachine

/-! ## Both coordinators -/

/-- Over every run both coordinators act on exact evidence only. -/
theorem graphLifecycle {request : GraphRunRequest} {publication : GraphPublication}
    {startRun run : GraphRunMachine} {startInstall install : GraphInstallMachine}
    {runHistory : List (GraphRunMachine.Call × GraphRunMachine.Outcome)}
    {installHistory : List (GraphInstallMachine.Call × GraphInstallMachine.Outcome)}
    (hrequest : GraphRunMachine.new request = .ok startRun)
    (hrun : Run GraphRunMachine.Step startRun runHistory run)
    (hpublication : GraphInstallMachine.new publication = .ok startInstall)
    (hinstall : Run GraphInstallMachine.Step startInstall installHistory install) :
    GraphRunMachine.Disciplined request runHistory run ∧
      GraphInstallMachine.Disciplined publication installHistory install :=
  ⟨(GraphRunMachine.tracked_of_run hrequest hrun).disciplined,
    (GraphInstallMachine.tracked_of_run hpublication hinstall).disciplined⟩

end Runs

/-! ## One package -/

section Sample

open HostLibrary

def candidate : GraphPublication where
  transactionId := 7
  publication :=
    ⟨⟨.deployedGraph, ⟨.sha256, .replicate 32 0x31⟩, 768⟩, ⟨.sha256, .replicate 32 0x32⟩⟩
  packageDigest := .replicate 32 0x33
  implementationDigest := .replicate 32 0x34

def boundRequest : GraphRunRequest :=
  ⟨7, 9, 5000, .replicate 32 0x31, .replicate 32 0x33, .replicate 32 0x34⟩

/-- A report of the package and its run, with both actors idle. -/
def reportIn (phase : GraphCoordinatorPhase) : GraphCoordinatorReport where
  phase
  fault := .none
  transactionId := 7
  contentDigest := .replicate 32 0x31
  packageDigest := .replicate 32 0x33
  activeContentDigest := .replicate 32 0x31
  realtime := ⟨.active, 7, .replicate 32 0x31, .replicate 32 0x33, .replicate 32 0x31, true, []⟩
  execution := ⟨9, 5000, .installed, .installed, .empty, none, none, none, []⟩
  details := []

def reports (phase : GraphCoordinatorPhase) : Response :=
  ⟨.ok, encodeGraphReport (reportIn phase)⟩

/-- The package is validated, activated and active. -/
def installCalls : List GraphInstallMachine.Call := [
    .nextRequest, .acceptResponse (reports .candidateValid), .nextRequest,
    .acceptResponse (reports .active)]

/-- The run is started, faults, and is stopped. -/
def faultedCalls : List GraphRunMachine.Call := [
    .nextRequest, .abandonPending, .nextRequest, .acceptResponse (reports .starting), .nextRequest,
    .acceptResponse (reports .executionFaulted), .nextRequest, .acceptResponse (reports .active)]

def installSession : GraphInstallMachine :=
  ⟨candidate, selection candidate, .installing, none, none⟩

def runSession : GraphRunMachine := ⟨boundRequest, .starting, none, none, none⟩

theorem installSession_built : GraphInstallMachine.new candidate = .ok installSession := by
  rfl

theorem runSession_built : GraphRunMachine.new boundRequest = .ok runSession := by
  rfl

theorem graphLifecycle_sample :
    (Run.execute GraphRunMachine.perform runSession faultedCalls).1.phase = .complete ∧
      GraphRunMachine.Disciplined boundRequest
        (Run.execute GraphRunMachine.perform runSession faultedCalls).2
        (Run.execute GraphRunMachine.perform runSession faultedCalls).1 ∧
      GraphInstallMachine.Disciplined candidate
        (Run.execute GraphInstallMachine.perform installSession installCalls).2
        (Run.execute GraphInstallMachine.perform installSession installCalls).1 :=
  ⟨by decide +kernel,
    graphLifecycle runSession_built (Run.run_execute _ _ _) installSession_built
      (Run.run_execute _ _ _)⟩

end Sample

end Alumina.Client
