import Alumina.Spec.ScheduleAuthority

/-!
# Start evidence of a participant

The regression guard compares two schedule reports field by field while the state stays, and by
state alone when it changes; a report without a schedule ends the comparison altogether. A
machine is watched here together with the schedule it accepted last, so that evidence can be
followed across such a report.

## Key results

- `eq_of_same_state`: what the guard keeps while the state stays
- `Repeats`: what the guard leaves unchecked
- `startEvidence`: evidence is kept exactly by the reports that repeat it
- `startEvidence_fails`: completion erases a start observation
-/

namespace Alumina.Client

/-! ## What the guard compares -/

section Guard

variable {previous next : JobScheduleReport}

/-- No state precedes itself. -/
theorem JobScheduleState.not_precedes_self (state : JobScheduleState) :
    state.precedes state = false := by
  cases state <;> decide

/-- While the state stays, only the first observation and a later lease are new. -/
theorem normalized_of_same_state (h : scheduleReportAdvances previous next)
    (hstate : previous.state = next.state) :
    previous = next ∨ previous.normalized next = previous := by
  unfold scheduleReportAdvances at h
  split at h
  · next heq => exact Or.inl heq
  · split at h
    · cases h
    · split at h
      · next hsame => exact Or.inr hsame.2
      · rw [hstate, JobScheduleState.not_precedes_self] at h
        cases h

/-- An observation stays as long as the state does. -/
theorem observation_of_same_state (h : scheduleReportAdvances previous next)
    (hstate : previous.state = next.state) {observation : JobStartObservation}
    (hobserved : previous.startObservation = some observation) :
    next.startObservation = some observation := by
  obtain rfl | hnormal := normalized_of_same_state h hstate
  · exact hobserved
  · have hsame := congrArg JobScheduleReport.startObservation hnormal
    unfold JobScheduleReport.normalized at hsame
    simp only [hobserved, Option.isNone_some, Bool.false_eq_true, false_and, and_false,
      if_false] at hsame
    split at hsame
    · exact hsame
    · exact hsame

/-- An attended lease is not taken back. -/
theorem lease_of_attended (h : scheduleReportAdvances previous next)
    (hpolicy : previous.policy = some .networkAttended) :
    previous.leaseExpiryCycle ≤ next.leaseExpiryCycle := by
  unfold scheduleReportAdvances at h
  split at h
  · next heq => exact heq ▸ UInt64.le_refl _
  · split at h
    · cases h
    · next hlease =>
      rw [not_and, UInt64.not_lt] at hlease
      exact hlease hpolicy

end Guard

namespace ParticipantScheduleMachine

section Runs

variable [JobWire] {axes : Nat} {machine machine' start : ParticipantScheduleMachine axes}

/-! ## The schedule accepted last -/

omit [JobWire] in
/-- The schedule of the retained report. -/
def schedule (machine : ParticipantScheduleMachine axes) : Option JobScheduleReport :=
  machine.report.bind (·.schedule)

/-- A machine with the last schedule that any report it accepted has carried. -/
structure Watched (axes : Nat) where
  machine : ParticipantScheduleMachine axes
  last : Option JobScheduleReport

/-- A call on a watched machine. -/
def WatchedStep (w : Watched axes) (e : Call × Outcome) (w' : Watched axes) : Prop :=
  Step w.machine e w'.machine ∧ w'.last = w'.machine.schedule.or w.last

variable {w w' : Watched axes} {e : Call × Outcome}

omit [JobWire] in
/-- The schedule accepted last is the one that is retained, unless none is, and there is none
before the first report. -/
structure Watched.Sound (w : Watched axes) : Prop where
  current : ∀ schedule, w.machine.schedule = some schedule → w.last = some schedule
  unreported : w.machine.report = none → w.last = none

omit [JobWire] in
theorem Watched.Sound.last_eq {last : Option JobScheduleReport} {schedule : JobScheduleReport}
    (h : Watched.Sound ⟨machine, last⟩) (hschedule : machine.schedule = some schedule) :
    last = some schedule :=
  h.current schedule hschedule

theorem Watched.Sound.step (hw : w.Sound) (h : WatchedStep w e w') : w'.Sound where
  current schedule hschedule := by rw [h.2, hschedule, Option.some_or]
  unreported hnone := by
    have hschedule : w'.machine.schedule = none := by rw [schedule, hnone, Option.bind_none]
    rw [h.2, hschedule, Option.none_or]
    apply hw.unreported
    obtain hsame | ⟨_, received, -, -, -, -, ⟨-, hreport⟩ | ⟨hreport, -⟩⟩ := report_step h.1
    · rw [← hsame, hnone]
    · rw [hreport] at hnone
      cases hnone
    · rw [hreport] at hnone
      cases hnone

omit [JobWire] in
/-- The schedule accepted last is part of the retained report. -/
def Watched.compared (w : Watched axes) : Bool := w.machine.schedule.isSome

/-! ## Reports that repeat the evidence -/

omit [JobWire] in
/-- A commit whose lease the network attends. -/
def attended (machine : ParticipantScheduleMachine axes) : Prop :=
  ∃ commit, machine.commit = some commit ∧ commit.policy = .networkAttended

omit [JobWire] in
/-- The next schedule repeats what the guard does not compare: the start observation when the
state changes, the lease while no attended policy is reported, and both when the schedule
accepted last is not retained. -/
structure Repeats (w : Watched axes) (last next : JobScheduleReport) : Prop where
  observation : (w.compared = true → last.state ≠ next.state) →
    ∀ observation, last.startObservation = some observation →
      next.startObservation = some observation
  lease : w.machine.attended →
    (w.compared = true → last.policy ≠ some .networkAttended) →
      last.leaseExpiryCycle ≤ next.leaseExpiryCycle

/-- A schedule that the machine is about to retain repeats the evidence of the last one. -/
def Repeating (w : Watched axes) (call : Call) : Prop :=
  ∀ response received last next, call = .acceptResponse response → w.machine.pending.isSome →
    response.body ≠ [] → JobWire.decodeStatus response.body = .ok received →
    w.machine.validateReport received = .ok () →
    (∀ previous, w.machine.report = some previous → jobReportAdvances previous received) →
    w.last = some last → received.schedule = some next → Repeats w last next

/-- A call whose report repeats the evidence. -/
def RepeatingStep (w : Watched axes) (e : Call × Outcome) (w' : Watched axes) : Prop :=
  WatchedStep w e w' ∧ Repeating w e.1

/-- What one call keeps of the schedule accepted last. -/
structure KeepsStart (w w' : Watched axes) : Prop where
  observation : ∀ last next observation, w.last = some last → w'.last = some next →
    last.startObservation = some observation → next.startObservation = some observation
  lease : w.machine.attended → ∀ last next, w.last = some last → w'.last = some next →
    last.leaseExpiryCycle ≤ next.leaseExpiryCycle

/-! ## One call -/

/-- What a call does to the schedule accepted last: nothing, or a validated report that advances
replaces it. -/
theorem last_cases (hw : w.Sound) (h : WatchedStep w e w') :
    w'.last = w.last ∨ ∃ response received next, e.1 = .acceptResponse response ∧
      w.machine.pending.isSome ∧ response.body ≠ [] ∧
      JobWire.decodeStatus response.body = .ok received ∧
      w.machine.validateReport received = .ok () ∧
      (∀ previous, w.machine.report = some previous → jobReportAdvances previous received) ∧
      received.schedule = some next ∧ w'.last = some next := by
  rw [h.2]
  obtain hsame | ⟨response, received, hcall, hpending, hbody, hdecoded, ⟨-, hdefault⟩ |
    ⟨hreport, hvalid, hadvances⟩⟩ := report_step h.1
  · left
    unfold schedule
    rw [hsame]
    cases hschedule : w.machine.schedule with
    | none =>
      rw [← schedule, hschedule, Option.none_or]
    | some current =>
      rw [← schedule, hschedule, Option.some_or, hw.current current hschedule]
  · left
    unfold schedule
    rw [hdefault]
    rfl
  · unfold schedule
    rw [hreport, Option.bind_some]
    cases hnext : received.schedule with
    | none => exact Or.inl Option.none_or
    | some next =>
      exact Or.inr ⟨response, received, next, hcall, hpending, hbody, hdecoded, hvalid,
        hadvances, hnext, Option.some_or⟩

omit [JobWire] in
/-- A report that the machine compared shows its schedule after the one accepted last. -/
theorem advances_of_compared (hw : w.Sound) (hcompared : w.compared = true)
    {received : JobStatusReport} {last next : JobScheduleReport} (hlast : w.last = some last)
    (hnext : received.schedule = some next)
    (hadvances : ∀ previous, w.machine.report = some previous →
      jobReportAdvances previous received) :
    scheduleReportAdvances last next := by
  obtain ⟨current, hcurrent⟩ := Option.isSome_iff_exists.1 hcompared
  have hsame := hw.current current hcurrent
  rw [hlast, Option.some.injEq] at hsame
  subst hsame
  obtain ⟨previous, hprevious, hschedule⟩ := Option.bind_eq_some_iff.1 hcurrent
  have h := hadvances previous hprevious
  unfold jobReportAdvances at h
  rw [hschedule, hnext] at h
  exact h

/-- A call keeps the start evidence exactly if its report repeats it. -/
theorem repeating_iff (hw : w.Sound) (h : WatchedStep w e w') :
    Repeating w e.1 ↔ KeepsStart w w' := by
  constructor
  · intro hrepeats
    obtain hsame | ⟨response, received, next, hcall, hpending, hbody, hdecoded, hvalid, hadvances,
      hnext, hlast'⟩ := last_cases hw h
    · constructor
      · intro last next observation hlast hlast' hobserved
        rw [hsame, hlast, Option.some.injEq] at hlast'
        exact hlast' ▸ hobserved
      · intro _ last next hlast hlast'
        rw [hsame, hlast, Option.some.injEq] at hlast'
        exact hlast' ▸ UInt64.le_refl _
    · have hrepeat : ∀ last, w.last = some last → Repeats w last next := fun last hlast =>
        hrepeats response received last next hcall hpending hbody hdecoded hvalid hadvances hlast
          hnext
      have hguard : w.compared = true → ∀ last, w.last = some last →
          scheduleReportAdvances last next := fun hcompared last hlast =>
        advances_of_compared hw hcompared hlast hnext hadvances
      constructor
      · intro last next' observation hlast hnext' hobserved
        rw [hlast', Option.some.injEq] at hnext'
        subst hnext'
        by_cases hstate : w.compared = true ∧ last.state = next.state
        · exact observation_of_same_state (hguard hstate.1 last hlast) hstate.2 hobserved
        · exact (hrepeat last hlast).observation (fun hcompared hsame =>
            hstate ⟨hcompared, hsame⟩) observation hobserved
      · intro hattended last next' hlast hnext'
        rw [hlast', Option.some.injEq] at hnext'
        subst hnext'
        by_cases hpolicy : w.compared = true ∧ last.policy = some .networkAttended
        · exact lease_of_attended (hguard hpolicy.1 last hlast) hpolicy.2
        · exact (hrepeat last hlast).lease hattended fun hcompared hsame =>
            hpolicy ⟨hcompared, hsame⟩
  · intro hkeeps response received last next hcall hpending hbody hdecoded hvalid hadvances hlast
      hnext
    obtain ⟨previous, hprevious⟩ : ∃ previous, w.machine.report = some previous := by
      apply Option.ne_none_iff_exists'.1
      intro hnone
      rw [hw.unreported hnone] at hlast
      cases hlast
    -- the report is retained, so its schedule is the one accepted last
    have hlast' : w'.last = some next := by
      have hretained := report_acceptResponse hpending hbody hdecoded hvalid hprevious
        (hadvances previous hprevious)
      have hperform : w.machine.perform e.1 = (w'.machine, e.2) := h.1
      rw [hcall] at hperform
      have hmachine : w'.machine = (w.machine.acceptResponse response).1 :=
        (congrArg Prod.fst hperform).symm
      rw [h.2, schedule, hmachine, hretained, Option.bind_some, hnext, Option.some_or]
    exact ⟨fun _ observation hobserved =>
        hkeeps.observation last next observation hlast hlast' hobserved,
      fun hattended _ => hkeeps.lease hattended last next hlast hlast'⟩

/-! ## Runs -/

/-- A schedule once accepted is only replaced. -/
theorem last_isSome (h : WatchedStep w e w') (hlast : w.last.isSome) : w'.last.isSome := by
  rw [h.2, Option.isSome_or, hlast, Bool.or_true]

theorem attended_step (h : Step machine e machine') (hattended : machine.attended) :
    machine'.attended := by
  obtain ⟨commit, hcommit, hpolicy⟩ := hattended
  exact ⟨commit, commit_step h hcommit, hpolicy⟩

/-- In a run whose reports repeat the evidence it is kept throughout. -/
theorem keepsStart_of_run {later : List (Call × Outcome)} (hw : w.Sound)
    (h : Run RepeatingStep w later w') : KeepsStart w w' := by
  induction h with
  | nil w =>
    constructor
    · intro last next observation hlast hnext hobserved
      rw [hlast, Option.some.injEq] at hnext
      exact hnext ▸ hobserved
    · intro _ last next hlast hnext
      rw [hlast, Option.some.injEq] at hnext
      exact hnext ▸ UInt64.le_refl _
  | @cons w u w' e later head tail ih =>
    have hfirst := (repeating_iff hw head.1).1 head.2
    have hrest := ih (hw.step head.1)
    constructor
    · intro last next observation hlast hnext hobserved
      obtain ⟨middle, hmiddle⟩ := Option.isSome_iff_exists.1 (last_isSome head.1 (by rw [hlast]; rfl))
      have hkept := hfirst.observation last middle observation hlast hmiddle hobserved
      exact hrest.observation middle next observation hmiddle hnext hkept
    · intro hattended last next hlast hnext
      obtain ⟨middle, hmiddle⟩ := Option.isSome_iff_exists.1 (last_isSome head.1 (by rw [hlast]; rfl))
      have hgrows := hfirst.lease hattended last middle hlast hmiddle
      have hgrows' := hrest.lease (attended_step head.1.1 hattended) middle next hmiddle hnext
      exact UInt64.le_trans hgrows hgrows'

omit [JobWire] in
/-- A machine that has made no call yet, watched from there on. -/
def Watched.initial (machine : ParticipantScheduleMachine axes) : Watched axes := ⟨machine, none⟩

theorem sound_start {descriptor : JobDescriptor} {bootId : BootId}
    (h : new descriptor bootId = .ok start) : (Watched.initial start).Sound where
  current schedule hschedule := by
    have hnone : (Watched.initial start).machine.report = none := (state_new h).2.2.1
    unfold ParticipantScheduleMachine.schedule at hschedule
    rw [hnone] at hschedule
    cases hschedule
  unreported _ := rfl

theorem sound_of_run {history : List (Call × Outcome)} (hw : w.Sound)
    (h : Run WatchedStep w history w') : w'.Sound :=
  h.invariant (fun _ _ _ hstep hs => hs.step hstep) hw

/-- Start evidence is kept over every run whose reports repeat it, and by a call of any run
exactly if its report does. -/
theorem startEvidence {descriptor : JobDescriptor} {bootId : BootId}
    (hnew : new descriptor bootId = .ok start) :
    (∀ history w later w', Run RepeatingStep (Watched.initial start) history w →
      Run RepeatingStep w later w' → KeepsStart w w') ∧
    ∀ history w e w', Run WatchedStep (Watched.initial start) history w → WatchedStep w e w' →
      (Repeating w e.1 ↔ KeepsStart w w') := by
  constructor
  · intro history w later w' hhistory hlater
    have hwatched : Run WatchedStep (Watched.initial start) history w :=
      hhistory.mono fun _ _ _ hstep => hstep.1
    exact keepsStart_of_run (sound_of_run (sound_start hnew) hwatched) hlater
  · intro history w e w' hhistory hstep
    exact repeating_iff (sound_of_run (sound_start hnew) hhistory) hstep

/-- Every run of a machine is one of the watched machine. -/
theorem run_watched {history : List (Call × Outcome)} (h : Run Step machine history machine')
    (last : Option JobScheduleReport) :
    ∃ last', Run WatchedStep ⟨machine, last⟩ history ⟨machine', last'⟩ := by
  induction h generalizing last with
  | nil machine => exact ⟨last, .nil _⟩
  | @cons machine next machine' e history head tail ih =>
    obtain ⟨last', hrest⟩ := ih (next.schedule.or last)
    exact ⟨last', .cons ⟨head, rfl⟩ hrest⟩

end Runs

section Sample

open HostLibrary

theorem startEvidence_sample :
    (∀ history w later w', Run RepeatingStep (Watched.initial sampleMachine) history w →
      Run RepeatingStep w later w' → KeepsStart w w') ∧
    ∀ history w e w', Run WatchedStep (Watched.initial sampleMachine) history w →
      WatchedStep w e w' → (Repeating w e.1 ↔ KeepsStart w w') :=
  startEvidence sampleMachine_new

/-- The latch that a running device reports. -/
def sampleObservation : JobStartObservation := ⟨.simulatedLatch, 17, 5000000, 5000003, 5000003⟩

/-- A running schedule with its start observation. -/
def startedSchedule : JobScheduleReport :=
  { sampleSchedule .running with startObservation := some sampleObservation }

def startedReport : JobStatusReport := sampleReport .complete .admitted (some startedSchedule)

/-- The machine once it has accepted the start, and once it has then seen completion. -/
def startedMachine : ParticipantScheduleMachine 2 :=
  (Run.execute perform sampleMachine (observe startedReport)).1

def endedMachine : ParticipantScheduleMachine 2 :=
  (Run.execute perform startedMachine (observe completeReport)).1

theorem schedule_startedMachine : startedMachine.schedule = some startedSchedule := by
  decide +kernel

theorem schedule_endedMachine : endedMachine.schedule = some (sampleSchedule .complete) := by
  decide +kernel

theorem startEvidence_fails :
    ¬ ∀ history later (w w' : Watched 2), Run WatchedStep (Watched.initial sampleMachine) history w →
      Run WatchedStep w later w' → KeepsStart w w' := by
  intro h
  have hstart : Run Step sampleMachine _ startedMachine := Run.run_execute perform _ _
  have hend : Run Step startedMachine _ endedMachine := Run.run_execute perform _ _
  obtain ⟨last, hstarted⟩ := run_watched hstart none
  obtain ⟨last', hended⟩ := run_watched hend last
  have hsound := sound_of_run (sound_start sampleMachine_new) hstarted
  have hsound' := sound_of_run hsound hended
  have hlast := hsound.last_eq schedule_startedMachine
  have hlast' := hsound'.last_eq schedule_endedMachine
  -- the device completes, and its report shows no observation any more
  have hkept := (h _ _ _ _ hstarted hended).observation _ _ sampleObservation hlast hlast' rfl
  cases hkept

end Sample

end ParticipantScheduleMachine

end Alumina.Client
