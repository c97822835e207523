import Alumina.Client.HostLibrary
import Alumina.Spec.ParticipantSchedule

/-!
# Terminal evidence of a participant

The phase of a participant is computed from three independently reported sub-states,
while the regression guard compares the schedules only. `KeepsEvidence` is the exact
condition on two consecutive reports under which a terminal phase survives.

## Key results

- `phase_stable_iff`: a retained report keeps every terminal phase exactly when it keeps
  the evidence
- `phase_absorbing`: over runs whose reports keep the evidence, terminal phases are
  absorbing and an installed schedule is never forgotten
- `phase_absorbing_fails`: without the condition a cancelled participant becomes empty
-/

namespace Alumina.Client

/-! ## Phases and states -/

def ParticipantSchedulePhase.terminal (phase : ParticipantSchedulePhase) : Bool :=
  phase ∈ [.aborted, .cancelled, .expired, .complete, .faulted]

/-- The phases before a schedule is reported installed. -/
def ParticipantSchedulePhase.beforeInstall (phase : ParticipantSchedulePhase) : Bool :=
  phase ∈ [.empty, .preparing, .ready, .installing]

def JobScheduleState.terminal (state : JobScheduleState) : Bool :=
  state ∈ [.aborted, .expired, .complete, .faulted]

/-- The phase a reported schedule state stands for once it is installed. -/
def JobScheduleState.phase : JobScheduleState → ParticipantSchedulePhase
  | .prepared => .ready
  | .installed => .installed
  | .confirmed => .confirmed
  | .priming => .priming
  | .primed => .primed
  | .running => .running
  | .aborted => .aborted
  | .expired => .expired
  | .complete => .complete
  | .faulted => .faulted

theorem JobScheduleState.terminal_phase {state : JobScheduleState} (h : state ≠ .prepared) :
    state.phase.terminal = state.terminal := by
  cases state <;> rfl

theorem JobScheduleState.phase_beforeInstall {state : JobScheduleState} (h : state ≠ .prepared) :
    state.phase.beforeInstall = false := by
  cases state <;> first | rfl | exact absurd rfl h

theorem JobScheduleState.phase_injective : Function.Injective JobScheduleState.phase := by
  intro a b h
  cases a <;> cases b <;> first | rfl | cases h

/-- A report cannot show both actors cancelled and one of them faulted. -/
theorem JobStatusReport.not_actorFaulted_of_cancelled {report : JobStatusReport}
    (h : report.actorsCancelled) : report.actorFaulted = false := by
  obtain ⟨service, realtime, schedule⟩ := report
  cases service <;> cases realtime <;>
    simp_all [JobStatusReport.actorsCancelled, JobStatusReport.actorFaulted]

/-! ## What the guard lets a schedule do -/

/-- A terminal state is only followed by itself. -/
theorem state_eq_of_terminal {previous next : JobScheduleReport}
    (h : scheduleReportAdvances previous next) (hterminal : previous.state.terminal) :
    next.state = previous.state := by
  unfold scheduleReportAdvances at h
  split at h
  · next heq => rw [heq]
  · split at h
    · cases h
    · split at h
      · next hsame => exact hsame.1.symm
      · cases hstate : previous.state <;> simp_all [JobScheduleState.precedes,
          JobScheduleState.terminal]

/-- An installed schedule is never reported prepared again. -/
theorem state_ne_prepared {previous next : JobScheduleReport}
    (h : scheduleReportAdvances previous next) (hstate : previous.state ≠ .prepared) :
    next.state ≠ .prepared := by
  unfold scheduleReportAdvances at h
  split at h
  · next heq => exact heq ▸ hstate
  · split at h
    · cases h
    · split at h
      · next hsame => exact hsame.1 ▸ hstate
      · intro hnext
        rw [hnext] at h
        cases hprevious : previous.state <;> simp_all [JobScheduleState.precedes]

/-- A report without its schedule is accepted only when both actors are cancelled. -/
theorem schedule_of_advances {previous next : JobStatusReport} {schedule : JobScheduleReport}
    (h : jobReportAdvances previous next) (hprevious : previous.schedule = some schedule) :
    next.actorsCancelled ∨
      ∃ later, next.schedule = some later ∧ scheduleReportAdvances schedule later := by
  unfold jobReportAdvances at h
  rw [hprevious] at h
  cases hnext : next.schedule with
  | none =>
    rw [hnext] at h
    exact Or.inl h
  | some later =>
    rw [hnext] at h
    exact Or.inr ⟨later, rfl, h⟩

namespace ParticipantScheduleMachine

variable {axes : Nat} {machine machine' : ParticipantScheduleMachine axes}
  {report previous next : JobStatusReport} {schedule : JobScheduleReport}

/-! ## The phase of a report -/

theorem phase_of_actorFaulted (hreport : machine.report = some report)
    (h : report.actorFaulted) : machine.phase = .faulted := by
  have hdefault : report ≠ default := by
    rintro rfl
    cases h
  simp [phase, hreport, hdefault, h]

theorem phase_of_actorsCancelled (hreport : machine.report = some report)
    (h : report.actorsCancelled) : machine.phase = .cancelled := by
  have hdefault : report ≠ default := by
    rintro rfl
    cases h
  simp [phase, hreport, hdefault, h, JobStatusReport.not_actorFaulted_of_cancelled h]

theorem phase_of_schedule (hreport : machine.report = some report)
    (hfault : report.actorFaulted = false) (hcancel : report.actorsCancelled = false)
    (hschedule : report.schedule = some schedule) (hstate : schedule.state ≠ .prepared) :
    machine.phase = schedule.state.phase := by
  have hdefault : report ≠ default := by
    rintro rfl
    cases hschedule
  simp only [phase, hreport, hdefault, hfault, hcancel, hschedule]
  cases hcase : schedule.state <;> first | rfl | exact absurd hcase hstate

/-- A phase from before installation that is not a terminal one. -/
theorem phase_of_unscheduled (hreport : machine.report = some report)
    (hfault : report.actorFaulted = false) (hcancel : report.actorsCancelled = false)
    (hschedule : ∀ schedule, report.schedule = some schedule → schedule.state = .prepared) :
    machine.phase.beforeInstall = true := by
  simp only [phase, hreport, hfault, hcancel, Bool.false_eq_true, if_false]
  split
  · rfl
  · cases hcase : report.schedule with
    | none => rfl
    | some schedule =>
      simp only [hschedule schedule hcase]
      split
      · rfl
      · split <;> rfl

/-- A phase that is not from before installation is read off the report alone. -/
theorem phase_congr (hreport : machine'.report = machine.report)
    (h : machine.phase.beforeInstall = false) : machine'.phase = machine.phase := by
  cases hcase : machine.report with
  | none =>
    simp [phase, hcase, ParticipantSchedulePhase.beforeInstall] at h
  | some report =>
    rw [hcase] at hreport
    by_cases hfault : report.actorFaulted
    · rw [phase_of_actorFaulted hcase hfault, phase_of_actorFaulted hreport hfault]
    · by_cases hcancel : report.actorsCancelled
      · rw [phase_of_actorsCancelled hcase hcancel, phase_of_actorsCancelled hreport hcancel]
      · rw [Bool.not_eq_true] at hfault hcancel
        by_cases hstate : ∀ schedule, report.schedule = some schedule → schedule.state = .prepared
        · rw [phase_of_unscheduled hcase hfault hcancel hstate] at h
          cases h
        · simp only [not_forall] at hstate
          obtain ⟨schedule, hschedule, hstate⟩ := hstate
          rw [phase_of_schedule hcase hfault hcancel hschedule hstate,
            phase_of_schedule hreport hfault hcancel hschedule hstate]

theorem not_beforeInstall_of_terminal {phase : ParticipantSchedulePhase} (h : phase.terminal) :
    phase.beforeInstall = false := by
  cases phase <;> first | rfl | cases h

/-! ## Keeping the evidence -/

/-- The next report keeps the terminal evidence of the previous one: a fault stays visible,
two cancelled actors stay cancelled, and a terminal schedule is not overridden by other
evidence. -/
structure KeepsEvidence (previous next : JobStatusReport) : Prop where
  fault : previous.actorFaulted → next.actorFaulted ∨
    next.actorsCancelled = false ∧ next.schedule.map (·.state) = some .faulted
  cancelled : previous.actorsCancelled → next.actorsCancelled
  schedule : previous.actorFaulted = false → previous.actorsCancelled = false →
    ∀ state, previous.schedule.map (·.state) = some state → state.terminal →
    next.actorsCancelled = false ∧ (next.actorFaulted → state = .faulted)

/-- When a machine reads as faulted. -/
theorem phase_eq_faulted_iff (hreport : machine.report = some report) :
    machine.phase = .faulted ↔ report.actorFaulted ∨
      report.actorsCancelled = false ∧ report.schedule.map (·.state) = some .faulted := by
  by_cases hfault : report.actorFaulted
  · simp [phase_of_actorFaulted hreport hfault, hfault]
  rw [Bool.not_eq_true] at hfault
  by_cases hcancel : report.actorsCancelled
  · simp [phase_of_actorsCancelled hreport hcancel, hfault, hcancel]
  rw [Bool.not_eq_true] at hcancel
  by_cases hstate : ∀ schedule, report.schedule = some schedule → schedule.state = .prepared
  · have hbefore := phase_of_unscheduled hreport hfault hcancel hstate
    constructor
    · intro hphase
      rw [hphase] at hbefore
      cases hbefore
    · rintro (h | ⟨-, h⟩)
      · rw [hfault] at h
        cases h
      · rw [Option.map_eq_some_iff] at h
        obtain ⟨schedule, hschedule, hfaulted⟩ := h
        rw [hstate schedule hschedule] at hfaulted
        cases hfaulted
  · simp only [not_forall] at hstate
    obtain ⟨schedule, hschedule, hstate⟩ := hstate
    rw [phase_of_schedule hreport hfault hcancel hschedule hstate, hfault, hcancel, hschedule]
    simp only [Bool.false_eq_true, false_or, true_and, Option.map_some, Option.some.injEq]
    constructor
    · intro hphase
      exact JobScheduleState.phase_injective hphase
    · intro hfaulted
      rw [hfaulted]
      rfl

/-- When a machine reads as cancelled. -/
theorem phase_eq_cancelled_iff (hreport : machine.report = some report) :
    machine.phase = .cancelled ↔ report.actorsCancelled := by
  constructor
  · intro hphase
    by_contra hcancel
    rw [Bool.not_eq_true] at hcancel
    by_cases hfault : report.actorFaulted
    · rw [phase_of_actorFaulted hreport hfault] at hphase
      cases hphase
    rw [Bool.not_eq_true] at hfault
    by_cases hstate : ∀ schedule, report.schedule = some schedule → schedule.state = .prepared
    · have hbefore := phase_of_unscheduled hreport hfault hcancel hstate
      rw [hphase] at hbefore
      cases hbefore
    · simp only [not_forall] at hstate
      obtain ⟨schedule, hschedule, hstate⟩ := hstate
      rw [phase_of_schedule hreport hfault hcancel hschedule hstate] at hphase
      cases hcase : schedule.state <;> simp [hcase, JobScheduleState.phase] at hphase
  · exact phase_of_actorsCancelled hreport

/-- A retained report keeps every terminal phase exactly when it keeps the evidence. -/
theorem phase_stable_iff (hbefore : machine.report = some previous)
    (hafter : machine'.report = some next) (hadvances : jobReportAdvances previous next) :
    (machine.phase.terminal → machine'.phase = machine.phase) ↔ KeepsEvidence previous next := by
  constructor
  · intro hstable
    refine ⟨?_, ?_, ?_⟩
    · intro hfault
      have hphase := phase_of_actorFaulted hbefore hfault
      rw [hphase] at hstable
      exact (phase_eq_faulted_iff hafter).1 (hstable rfl)
    · intro hcancel
      have hphase := phase_of_actorsCancelled hbefore hcancel
      rw [hphase] at hstable
      exact (phase_eq_cancelled_iff hafter).1 (hstable rfl)
    · intro hfault hcancel state hmap hterminal
      rw [Option.map_eq_some_iff] at hmap
      obtain ⟨schedule, hschedule, rfl⟩ := hmap
      have hstate : schedule.state ≠ .prepared := by
        intro hprepared
        rw [hprepared] at hterminal
        cases hterminal
      have hphase := phase_of_schedule hbefore hfault hcancel hschedule hstate
      rw [hphase, JobScheduleState.terminal_phase hstate] at hstable
      have hnext := hstable hterminal
      constructor
      · -- a cancelled pair would read as cancelled, which no schedule state does
        by_contra hcancelled
        rw [Bool.not_eq_false] at hcancelled
        rw [phase_of_actorsCancelled hafter hcancelled] at hnext
        cases hcase : schedule.state <;> simp [hcase, JobScheduleState.phase] at hnext
      · intro hnextFault
        rw [phase_of_actorFaulted hafter hnextFault] at hnext
        exact JobScheduleState.phase_injective hnext.symm
  · intro hkeeps hterminal
    by_cases hfault : previous.actorFaulted
    · rw [phase_of_actorFaulted hbefore hfault]
      exact (phase_eq_faulted_iff hafter).2 (hkeeps.fault hfault)
    by_cases hcancel : previous.actorsCancelled
    · rw [phase_of_actorsCancelled hbefore hcancel]
      exact (phase_eq_cancelled_iff hafter).2 (hkeeps.cancelled hcancel)
    rw [Bool.not_eq_true] at hfault hcancel
    by_cases hprepared :
        ∀ schedule, previous.schedule = some schedule → schedule.state = .prepared
    · have hearly := phase_of_unscheduled hbefore hfault hcancel hprepared
      rw [not_beforeInstall_of_terminal hterminal] at hearly
      cases hearly
    simp only [not_forall] at hprepared
    obtain ⟨schedule, hschedule, hstate⟩ := hprepared
    have hphase := phase_of_schedule hbefore hfault hcancel hschedule hstate
    rw [hphase, JobScheduleState.terminal_phase hstate] at hterminal
    obtain ⟨hnextCancel, hnextFault⟩ :=
      hkeeps.schedule hfault hcancel schedule.state (by rw [hschedule]; rfl) hterminal
    rw [hphase]
    -- the guard only lets the same terminal state follow
    rcases schedule_of_advances hadvances hschedule with hcancelled | ⟨later, hlater, hsame⟩
    · rw [hnextCancel] at hcancelled
      cases hcancelled
    · have hlaterState := state_eq_of_terminal hsame hterminal
      by_cases hfaultNext : next.actorFaulted
      · rw [phase_of_actorFaulted hafter hfaultNext, hnextFault hfaultNext]
        rfl
      · rw [Bool.not_eq_true] at hfaultNext
        rw [phase_of_schedule hafter hfaultNext hnextCancel hlater (by rw [hlaterState]; exact hstate),
          hlaterState]

end ParticipantScheduleMachine

/-! ## A participant -/

section Sample

open HostLibrary

def sampleDescriptor : JobDescriptor where
  prepareId := 41
  partition := ⟨⟨.machineJobPartition, ⟨.sha256, .replicate 32 0x51⟩, 512⟩,
    ⟨.sha256, .replicate 32 0x52⟩⟩
  blockCount := 1
  details := []

def sampleBoot : BootId := .replicate 16 0x31

def sampleToken : PreparedJobToken :=
  ⟨2 :: (List.replicate 16 0x31 ++ encodeDescriptor sampleDescriptor)⟩

/-- A participant that has made no call yet. -/
def sampleMachine : ParticipantScheduleMachine 2 :=
  ⟨sampleDescriptor, sampleBoot, sampleToken, none, none, none, none, false⟩

theorem sampleMachine_new :
    ParticipantScheduleMachine.new sampleDescriptor sampleBoot = .ok sampleMachine := rfl

def sampleCommit : JobCommitRequest where
  policy := .networkAttended
  prepareId := 41
  bootId := sampleBoot
  globalJobDigest := .replicate 32 0x61
  participantSetDigest := .replicate 32 0x62
  preparedToken := sampleToken
  partitionDigest := .replicate 32 0x51
  localStartCycle := 5000000
  confirmDeadlineCycle := 4600000
  abortGuardCycle := 4800000
  leaseExpiryCycle := 8000000
  clockProbeId := 7
  clockUncertaintyCycles := 300
  requiredSyncToleranceCycles := 2000
  commitId := ⟨List.replicate 16 0x63⟩

/-- The schedule report of the commit in a state. -/
def sampleSchedule (state : JobScheduleState) : JobScheduleReport where
  descriptorToken := sampleToken
  preparedToken := if state = .prepared then some sampleToken else none
  policy := if state = .prepared then none else some .networkAttended
  localStartCycle := if state = .prepared then 0 else 5000000
  confirmDeadlineCycle := if state = .prepared then 0 else 4600000
  abortGuardCycle := if state = .prepared then 0 else 4800000
  leaseExpiryCycle := if state = .prepared then 0 else 8000000
  commitId := if state = .prepared then [] else List.replicate 16 0x63
  state := state
  startObservation := none
  details := []

def sampleReport (service : ServiceJobState) (realtime : RealtimeJobState)
    (schedule : Option JobScheduleReport) : JobStatusReport where
  service := some ⟨41, service, 2, 1, []⟩
  realtime := some ⟨41, realtime, 1, true, []⟩
  schedule := schedule

/-- The device answers with a report. -/
def reported (report : JobStatusReport) : ParticipantScheduleMachine.Call :=
  .acceptResponse ⟨.ok, encodeStatus report⟩

end Sample

/-! ## Runs -/

namespace ParticipantScheduleMachine

section Runs

variable [JobWire] {axes : Nat} {machine machine' : ParticipantScheduleMachine axes}
  {e : Call × Outcome} {report previous received : JobStatusReport} {response : Response}

/-- A report the machine is about to retain keeps the evidence of the one it holds. -/
def Keeping (machine : ParticipantScheduleMachine axes) (call : Call) : Prop :=
  ∀ response received previous, call = .acceptResponse response → machine.pending.isSome →
    response.body ≠ [] → JobWire.decodeStatus response.body = .ok received →
    machine.validateReport received = .ok () → machine.report = some previous →
    jobReportAdvances previous received → KeepsEvidence previous received

/-- A call whose report keeps the evidence. -/
def Kept (machine : ParticipantScheduleMachine axes) (e : Call × Outcome)
    (machine' : ParticipantScheduleMachine axes) : Prop :=
  Step machine e machine' ∧ machine.Keeping e.1

/-- A validated report that advances is retained. -/
theorem report_acceptResponse (hpending : machine.pending.isSome) (hbody : response.body ≠ [])
    (hdecoded : JobWire.decodeStatus response.body = .ok received)
    (hvalid : machine.validateReport received = .ok ()) (hprevious : machine.report = some previous)
    (hadvances : jobReportAdvances previous received) :
    (machine.acceptResponse response).1.report = some received := by
  obtain ⟨action, haction⟩ := Option.isSome_iff_exists.1 hpending
  have hvalid' : ParticipantScheduleMachine.validateReport
      { machine with
        pending := none
        reconciliationRequired := machine.reconciliationRequired || action.mutates }
      received = .ok () := hvalid
  simp only [hprevious] at hvalid'
  simp [acceptResponse, haction, hbody, hdecoded, hprevious, hvalid', hadvances, retain]

/-- A call leaves the report alone or retains one. -/
theorem report_step (h : Step machine e machine') :
    machine'.report = machine.report ∨
      ∃ response received, e.1 = .acceptResponse response ∧ machine.pending.isSome ∧
        response.body ≠ [] ∧ JobWire.decodeStatus response.body = .ok received ∧
        ((machine.report = none ∧ machine'.report = some default) ∨
          machine'.report = some received ∧ machine.validateReport received = .ok () ∧
            ∀ previous, machine.report = some previous → jobReportAdvances previous received) := by
  obtain ⟨call, outcome⟩ := e
  cases perform_cases h with
  | refused _ _ quiet => exact Or.inl rfl
  | issued _ operation _ issues => cases issues <;> exact Or.inl rfl
  | settled _ _ action _ quiet pending settles =>
    cases settles with
    | dropped _ => exact Or.inl rfl
    | retained response received report body decoded accepted =>
      refine Or.inr ⟨response, received, rfl, by rw [pending]; rfl, body, decoded, ?_⟩
      rcases accepted with ⟨-, hnone, -, -, rfl⟩ | ⟨rfl, hvalid, hadvances⟩
      · exact Or.inl ⟨hnone, rfl⟩
      · exact Or.inr ⟨rfl, hvalid, hadvances⟩

/-- A kept call keeps every terminal phase. -/
theorem terminal_step (h : Kept machine e machine') (hterminal : machine.phase.terminal) :
    machine'.phase = machine.phase := by
  rcases report_step h.1 with hsame | ⟨response, received, hcall, hpending, hbody, hdecoded, hnew⟩
  · exact phase_congr hsame (not_beforeInstall_of_terminal hterminal)
  · cases hprevious : machine.report with
    | none =>
      have hphase : machine.phase = .empty := by simp [phase, hprevious]
      rw [hphase] at hterminal
      cases hterminal
    | some previous =>
      rcases hnew with ⟨hnone, -⟩ | ⟨hreport, hvalid, hadvances⟩
      · rw [hnone] at hprevious
        cases hprevious
      · have hadvances := hadvances previous hprevious
        exact (phase_stable_iff hprevious hreport hadvances).2
          (h.2 response received previous hcall hpending hbody hdecoded hvalid hprevious hadvances)
          hterminal

/-- A report of an installed schedule, or of its cancellation. -/
def JobStatusReport.Installed (report : JobStatusReport) : Prop :=
  report.actorsCancelled ∨ ∃ schedule, report.schedule = some schedule ∧ schedule.state ≠ .prepared

/-- A kept call never forgets an installed schedule. -/
theorem installed_step (h : Kept machine e machine')
    (hinstalled : ∃ report, machine.report = some report ∧ JobStatusReport.Installed report) :
    ∃ report, machine'.report = some report ∧ JobStatusReport.Installed report := by
  obtain ⟨previous, hprevious, hinstalled⟩ := hinstalled
  rcases report_step h.1 with hsame | ⟨response, received, hcall, hpending, hbody, hdecoded, hnew⟩
  · exact ⟨previous, by rw [hsame, hprevious], hinstalled⟩
  · rcases hnew with ⟨hnone, -⟩ | ⟨hreport, hvalid, hadvances⟩
    · rw [hnone] at hprevious
      cases hprevious
    · have hadvances := hadvances previous hprevious
      have hkeeps :=
        h.2 response received previous hcall hpending hbody hdecoded hvalid hprevious hadvances
      refine ⟨received, hreport, ?_⟩
      rcases hinstalled with hcancelled | ⟨schedule, hschedule, hstate⟩
      · exact Or.inl (hkeeps.cancelled hcancelled)
      · rcases schedule_of_advances hadvances hschedule with hcancelled | ⟨later, hlater, hsame⟩
        · exact Or.inl hcancelled
        · exact Or.inr ⟨later, hlater, state_ne_prepared hsame hstate⟩

omit [JobWire] in
theorem not_beforeInstall_of_installed (hreport : machine.report = some report)
    (h : JobStatusReport.Installed report) : machine.phase.beforeInstall = false := by
  by_cases hfault : report.actorFaulted
  · rw [phase_of_actorFaulted hreport hfault]
    rfl
  by_cases hcancel : report.actorsCancelled
  · rw [phase_of_actorsCancelled hreport hcancel]
    rfl
  rw [Bool.not_eq_true] at hfault hcancel
  rcases h with hcancelled | ⟨schedule, hschedule, hstate⟩
  · rw [hcancel] at hcancelled
    cases hcancelled
  · rw [phase_of_schedule hreport hfault hcancel hschedule hstate]
    exact JobScheduleState.phase_beforeInstall hstate

/-- A call whose report drops the evidence changes a terminal phase. -/
theorem terminal_lost (h : Step machine e machine') (hdrops : ¬ machine.Keeping e.1) :
    machine.phase.terminal ∧ machine'.phase ≠ machine.phase := by
  simp only [Keeping, not_forall] at hdrops
  obtain ⟨response, received, previous, hcall, hpending, hbody, hdecoded, hvalid, hprevious,
    hadvances, hdrops⟩ := hdrops
  obtain ⟨call, outcome⟩ := e
  obtain rfl : call = .acceptResponse response := hcall
  have hmachine : machine' = (machine.acceptResponse response).1 := by
    have hstep : machine.perform (.acceptResponse response) = (machine', outcome) := h
    rw [← show (machine.perform (.acceptResponse response)).1 = machine' from by rw [hstep]]
    rfl
  have hreport := report_acceptResponse hpending hbody hdecoded hvalid hprevious hadvances
  rw [← hmachine] at hreport
  rw [← phase_stable_iff hprevious hreport hadvances] at hdrops
  simpa only [Classical.not_imp] using hdrops

/-- Over every run whose reports keep the evidence, a terminal phase stays and an installed
schedule is never forgotten. A report that drops the evidence changes a terminal phase. -/
theorem phase_absorbing :
    (∀ (machine machine' : ParticipantScheduleMachine axes) later,
      Run Kept machine later machine' →
      (machine.phase.terminal → machine'.phase = machine.phase) ∧
      ∀ report schedule, machine.report = some report → report.schedule = some schedule →
        schedule.state ≠ .prepared → machine'.phase.beforeInstall = false) ∧
    ∀ (machine machine' : ParticipantScheduleMachine axes) e, Step machine e machine' →
      ¬ machine.Keeping e.1 → machine.phase.terminal ∧ machine'.phase ≠ machine.phase := by
  refine ⟨?_, fun machine machine' e h hdrops => terminal_lost h hdrops⟩
  intro machine machine' later h
  constructor
  · intro hterminal
    -- the phase stays what it was, so it stays terminal
    have hkeeps : ∀ (s : ParticipantScheduleMachine axes) e t, Kept s e t → s.phase = machine.phase → t.phase = machine.phase := by
      intro s e t hstep hs
      rw [← hs] at hterminal ⊢
      exact terminal_step hstep hterminal
    exact h.invariant (p := fun m => m.phase = machine.phase) hkeeps rfl
  · intro report schedule hreport hschedule hstate
    obtain ⟨report', hreport', hinstalled⟩ := h.invariant
      (fun _ _ _ hstep hs => installed_step hstep hs)
      ⟨report, hreport, Or.inr ⟨schedule, hschedule, hstate⟩⟩
    exact not_beforeInstall_of_installed hreport' hinstalled

end Runs

section Sample

open HostLibrary

/-- The same report again keeps its evidence. -/
theorem KeepsEvidence.refl (report : JobStatusReport) : KeepsEvidence report report where
  fault h := Or.inl h
  cancelled h := h
  schedule hfault hcancel _ _ _ := ⟨hcancel, fun h => absurd h (by simp [hfault])⟩

/-- A status request answered with a report. -/
def observe (report : JobStatusReport) : List Call := [.beginStatus, reported report]

def completeReport : JobStatusReport :=
  sampleReport .complete .complete (some (sampleSchedule .complete))

/-- The participant once it has reported completion. -/
def completeMachine : ParticipantScheduleMachine 2 :=
  (Run.execute perform sampleMachine (observe completeReport)).1

theorem phase_absorbing_complete :
    (Run.execute perform completeMachine (observe completeReport)).1.phase = .complete := by
  have hphase : completeMachine.phase = .complete := by decide +kernel
  have hdecode : whole decodeStatus (encodeStatus completeReport) = .ok completeReport := by
    decide +kernel
  have hreport : (perform completeMachine .beginStatus).1.report = some completeReport := by
    decide +kernel
  have halong : Run.Along perform Keeping completeMachine (observe completeReport) := by
    refine ⟨?_, ?_, trivial⟩
    · intro response received previous hcall
      cases hcall
    · intro response received previous hcall _ _ hdecoded _ hprevious _
      cases hcall
      obtain rfl : completeReport = received := Except.ok.inj (hdecode.symm.trans hdecoded)
      obtain rfl : completeReport = previous := Option.some.inj (hreport.symm.trans hprevious)
      exact KeepsEvidence.refl _
  have hstays := (phase_absorbing.1 _ _ _ (Run.run_execute_along halong)).1
  rw [hstays (by rw [hphase]; rfl), hphase]

/-- A service fault, then a report of the same running schedule without it. -/
def faultCalls : List Call :=
  observe (sampleReport .faulted .admitted (some (sampleSchedule .running)))

def recoveryCalls : List Call :=
  observe (sampleReport .prefetching .admitted (some (sampleSchedule .running)))

/-- An installed schedule, then two cancelled actors without it, then an empty report. -/
def installedCalls : List Call :=
  observe (sampleReport .prefetching .admitted (some (sampleSchedule .installed)))

def erasureCalls : List Call :=
  observe (sampleReport .cancelled .cancelled none) ++ observe default

theorem phase_absorbing_fails :
    ¬ (∀ (machine machine' : ParticipantScheduleMachine 2) history later,
        Run Step sampleMachine history machine → Run Step machine later machine' →
        machine.phase.terminal → machine'.phase = machine.phase) ∧
    ¬ ∀ (machine machine' : ParticipantScheduleMachine 2) history later report schedule,
        Run Step sampleMachine history machine → Run Step machine later machine' →
        machine.report = some report → report.schedule = some schedule →
        schedule.state ≠ .prepared → machine'.phase.beforeInstall = false := by
  constructor
  · intro h
    have hfault := h _ _ _ _ (Run.run_execute perform sampleMachine faultCalls)
      (Run.run_execute perform _ recoveryCalls)
    revert hfault
    decide +kernel
  · intro h
    have hinstalled := h _ _ _ _ _ (sampleSchedule .installed)
      (Run.run_execute perform sampleMachine installedCalls)
      (Run.run_execute perform _ erasureCalls)
      (show _ = some (sampleReport .prefetching .admitted (some (sampleSchedule .installed))) by
        decide +kernel) rfl (by decide)
    revert hinstalled
    decide +kernel

end Sample

end ParticipantScheduleMachine

end Alumina.Client
