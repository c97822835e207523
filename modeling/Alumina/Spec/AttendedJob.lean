import Alumina.Client.WorkerLibrary
import Alumina.Spec.LeaseRenewal

/-!
# When the driver keeps a running job going

A job that is confirmed or runs is asked for its next operation by the driver. What the driver does
follows from the sweep flag, from the phases of the participants and from how their leases stand. A
due renewal that some participant refuses is an error of the driver, which faults the job.

## Key results

- `policy_of_run`: the coordinator of a job keeps the network policy of the job
- `attended_iff`: when the driver emits an operation, and of which round
-/

namespace Alumina.Client

open Alumina.Graph (DeviceId Sha256)

/-! ## The network policy of a job -/

namespace LiveCachedJob

section Policy

variable [StorageWire] [JobWire] [ClockEstimation] {job job' : LiveCachedJob}

/-- The coordinator of a job has the network policy of the job. -/
def Policed (job : LiveCachedJob) : Prop :=
  ∀ coordinator, job.coordinator = some coordinator →
    coordinator.networkPolicy = job.identity.networkPolicy

omit [StorageWire] in
theorem Readies.identity (h : job.Readies job') : job'.identity = job.identity := by
  cases h <;> rfl

theorem Emits.identity {result : LiveResult (Option LiveJobOperation)} (h : job.Emits result job') :
    job'.identity = job.identity := by
  cases h <;> rfl

/-- The identity is the one the job was built with. -/
theorem Transition.identity {event : Call × Outcome} (h : job.Transition event job') :
    job'.identity = job.identity := by
  cases h with
  | next result mid job' running readies emits => exact emits.identity.trans readies.identity
  | delivered call outcome connectionId job' settles silent fresh readies => exact readies.identity
  | _ => rfl

omit [StorageWire] in
/-- A job that was policed keeps its policy, if its coordinator made some calls. -/
theorem Policed.run (hp : job.Policed) {coordinator coordinator' : DistributedScheduleCoordinator}
    {history : List (DistributedScheduleCoordinator.Call × DistributedScheduleCoordinator.Outcome)}
    (hc : job.coordinator = some coordinator)
    (h : Run DistributedScheduleCoordinator.Step coordinator history coordinator') :
    coordinator'.networkPolicy = job.identity.networkPolicy :=
  h.invariant (p := fun c => c.networkPolicy = job.identity.networkPolicy)
    (fun _ _ _ hstep hc => (DistributedScheduleCoordinator.networkPolicy_step hstep).trans hc)
    (hp coordinator hc)

/-- A coordinator that is built takes the policy over. -/
theorem policed_of_initializeSchedule (hfresh : job.coordinator = none)
    (h : job.initializeSchedule = .ok job') : job'.Policed := by
  simp only [LiveCachedJob.initializeSchedule, hfresh, Option.isSome_none, Bool.false_eq_true,
    if_false, Except.bind_eq_ok, Except.exists_unit, Except.failIf_eq_ok, Except.mapError_eq_ok,
    Except.pure_eq_ok] at h
  obtain ⟨-, ready, -, coordinator, hbuilt, rfl⟩ := h
  rintro _ ⟨⟩
  simp only [DistributedScheduleCoordinator.afterCachedArtifacts, Except.bind_eq_ok,
    Except.exists_unit, Except.pure_eq_ok] at hbuilt
  obtain ⟨-, participants, -, rfl⟩ := hbuilt
  rfl

/-- The coordinator is asked for a request. -/
theorem Policed.nextScheduled (hp : job.Policed) {coordinator : DistributedScheduleCoordinator}
    (hc : job.coordinator = some coordinator) : (job.nextScheduled coordinator).1.Policed := by
  unfold LiveCachedJob.nextScheduled
  cases hresult : coordinator.nextRequest with
  | error error => exact hp
  | ok issued =>
    obtain ⟨request, coordinator'⟩ := issued
    have hstep : DistributedScheduleCoordinator.Step coordinator
        (.nextRequest, .next (.ok request)) coordinator' := by
      show coordinator.perform .nextRequest = _
      rw [DistributedScheduleCoordinator.perform, hresult]
    have hpolicy := (DistributedScheduleCoordinator.networkPolicy_step hstep).trans
      (hp coordinator hc)
    cases request <;> (rintro _ ⟨⟩; exact hpolicy)

omit [StorageWire] [JobWire] [ClockEstimation] in
theorem policed_of_fresh (hfresh : job.coordinator = none) : job.Policed := by
  intro coordinator hc
  rw [hfresh] at hc
  cases hc

/-- A job without a coordinator asks for cache operations until it builds one. -/
theorem policed_nextUnqueued [Sha256] (hfresh : job.coordinator = none) :
    job.nextUnqueued.1.Policed := by
  obtain ⟨identity, all, schedule, queue, required, rounds, stop, override⟩ := job
  obtain rfl : schedule = none := hfresh
  unfold nextUnqueued
  dsimp only
  generalize nextCacheOperation all = result
  obtain ⟨participants, result⟩ := result
  have hcached : Policed ⟨identity, participants, none, queue, required, rounds, stop, override⟩ :=
    policed_of_fresh rfl
  rcases result with error | _ | operation
  · exact hcached
  · dsimp only
    cases hinit : LiveCachedJob.initializeSchedule ⟨identity, participants, none, queue, required,
        rounds, stop, override⟩ with
    | error error => exact hcached
    | ok built =>
      have hbuilt := policed_of_initializeSchedule rfl hinit
      dsimp only
      cases hc : built.coordinator with
      | none => exact hbuilt
      | some coordinator => exact hbuilt.nextScheduled hc
  · exact hcached

/-- A job without a coordinator builds one after the last response of a cache. -/
theorem policed_acceptResponse (hfresh : job.coordinator = none) (connectionId : UInt64)
    (response : Response) : (job.acceptResponse connectionId response).1.Policed := by
  obtain ⟨identity, all, schedule, queue, required, rounds, stop, override⟩ := job
  obtain rfl : schedule = none := hfresh
  unfold acceptResponse
  split
  · exact policed_of_fresh rfl
  · dsimp only
    generalize acceptCacheResponse connectionId response all = result
    obtain ⟨participants, result⟩ := result
    have hcached : Policed ⟨identity, participants, none, queue, required, rounds, stop, override⟩ :=
      policed_of_fresh rfl
    cases result with
    | error error => exact hcached
    | ok _ =>
      dsimp only
      split
      · cases hinit : LiveCachedJob.initializeSchedule ⟨identity, participants, none, queue,
            required, rounds, stop, override⟩ with
        | error error => exact hcached
        | ok built => exact policed_of_initializeSchedule rfl hinit
      · exact hcached

theorem policed_abandonPending (hfresh : job.coordinator = none) (connectionId : UInt64) :
    (job.abandonPending connectionId).1.Policed := by
  obtain ⟨identity, all, schedule, queue, required, rounds, stop, override⟩ := job
  obtain rfl : schedule = none := hfresh
  unfold abandonPending
  split <;> exact policed_of_fresh rfl

theorem policed_nextOperation [Sha256] (hs : job.Sound) (hfresh : job.coordinator = none) :
    job.nextOperation.1.Policed := by
  have hempty := hs.fresh hfresh
  have hsweep : job.openSweep = (job, .ok ()) := by
    unfold openSweep
    rw [if_neg (by simp [hempty.2])]
  unfold nextOperation
  split
  · exact policed_of_fresh hfresh
  · rw [hsweep]
    dsimp only
    rw [hempty.1]
    exact policed_nextUnqueued hfresh

omit [StorageWire] in
/-- What a job with a coordinator does first are calls on it. -/
theorem Readies.scheduled_run (h : job.Readies job') {coordinator : DistributedScheduleCoordinator}
    (hc : job.coordinator = some coordinator) : ∃ coordinator' history,
      job'.coordinator = some coordinator' ∧
      Run DistributedScheduleCoordinator.Step coordinator history coordinator' := by
  cases h with
  | ready => exact ⟨coordinator, [], hc, .nil _⟩
  | cached participants fresh same =>
    rw [hc] at fresh
    cases fresh
  | initialised participants other identity cacheReady cached fresh same built devices =>
    rw [hc] at fresh
    cases fresh
  | swept other coordinator' requests found empty required round =>
    obtain rfl := Option.some.inj (hc.symm.trans found)
    exact ⟨coordinator', _, rfl, .cons round (.nil _)⟩

/-- What a job with a coordinator emits is a call on it at most. -/
theorem Emits.scheduled_run {result : LiveResult (Option LiveJobOperation)}
    (h : job.Emits result job') {coordinator : DistributedScheduleCoordinator}
    (hc : job.coordinator = some coordinator) : ∃ coordinator' history,
      job'.coordinator = some coordinator' ∧
      Run DistributedScheduleCoordinator.Step coordinator history coordinator' := by
  cases h with
  | nothing => exact ⟨coordinator, [], hc, .nil _⟩
  | cache => exact ⟨coordinator, [], hc, .nil _⟩
  | queued => exact ⟨coordinator, [], hc, .nil _⟩
  | requested other coordinator' request operation found empty clear step addressed =>
    obtain rfl := Option.some.inj (hc.symm.trans found)
    exact ⟨coordinator', _, rfl, .cons step (.nil _)⟩

/-- Every call keeps the policy. -/
theorem policed_step [Sha256] {event : Call × Outcome} (hs : job.Sound) (hp : job.Policed)
    (h : Step job event job') : job'.Policed := by
  have hpolicy : job'.identity = job.identity := (perform_cases hs h).identity
  have hrun : ∀ coordinator coordinator' history, job.coordinator = some coordinator →
      Run DistributedScheduleCoordinator.Step coordinator history coordinator' →
      ∀ other, some coordinator' = some other →
        other.networkPolicy = job.identity.networkPolicy := by
    rintro coordinator coordinator' history hc hrun _ ⟨⟩
    exact hp.run hc hrun
  obtain ⟨call, outcome⟩ := event
  have hperform : job.perform call = (job', outcome) := h
  rw [Policed, hpolicy]
  cases perform_cases hs h with
  | refused => exact hp
  | unknown => exact hp
  | next result mid _ running readies emits =>
    cases hc : job.coordinator with
    | none =>
      have hnext : job.nextOperation.1 = job' := congrArg Prod.fst hperform
      have hpoliced := policed_nextOperation hs hc
      rwa [hnext, Policed, hpolicy] at hpoliced
    | some coordinator =>
      obtain ⟨between, before, hbetween, hbefore⟩ := readies.scheduled_run hc
      obtain ⟨after, since, hafter, hsince⟩ := emits.scheduled_run hbetween
      rw [hafter]
      exact hrun _ _ _ hc (hbefore.append hsince)
  | delivered _ _ connectionId _ settles silent fresh readies =>
    cases call with
    | acceptResponse connectionId response =>
      have hpoliced := policed_acceptResponse fresh connectionId response
      have hnext : (job.acceptResponse connectionId response).1 = job' := congrArg Prod.fst hperform
      rwa [hnext, Policed, hpolicy] at hpoliced
    | abandonPending connectionId =>
      have hpoliced := policed_abandonPending fresh connectionId
      have hnext : (job.abandonPending connectionId).1 = job' := congrArg Prod.fst hperform
      rwa [hnext, Policed, hpolicy] at hpoliced
    | _ => cases settles
  | accepted connectionId response result binding coordinator found scheduled answered =>
    exact hrun _ _ _ scheduled
      (.cons (rfl : DistributedScheduleCoordinator.Step _ (.acceptResponse _ response, _) _) (.nil _))
  | idle connectionId binding coordinator found scheduled quiet =>
    exact hrun _ _ _ scheduled
      (.cons (rfl : DistributedScheduleCoordinator.Step _ (.abandonPending _, _) _) (.nil _))
  | abandoned connectionId binding coordinator coordinator' history found scheduled run settled =>
    exact hrun _ _ _ scheduled run
  | ordered call order coordinator coordinator' kept empty scheduled step =>
    exact hrun _ _ _ scheduled (.cons step (.nil _))
  | queried coordinator coordinator' requests empty scheduled step =>
    exact hrun _ _ _ scheduled (.cons step (.nil _))
  | renewed renewals rounds coordinator coordinator' requests empty clear scheduled step =>
    exact hrun _ _ _ scheduled (.cons step (.nil _))
  | withdrawn => exact hp
  | ended => exact hp
  | aborting coordinator coordinator' live scheduled step =>
    exact hrun _ _ _ scheduled (.cons step (.nil _))
  | cancelling coordinator coordinator' live scheduled step =>
    exact hrun _ _ _ scheduled (.cons step (.nil _))
  | faulted => exact hp

/-- A job that was built is sound, and it keeps the identity and the policy it was built with. -/
theorem policy_of_run [Sha256] {identity : DistributedJobIdentity} {start : LiveCachedJob}
    {artifacts : List LiveJobArtifacts} {history : List (Call × Outcome)}
    (hbuilt : tryNew identity artifacts = .ok start) (h : Run Step start history job) :
    job.Sound ∧ job.Policed ∧ job.identity.networkPolicy = identity.networkPolicy := by
  refine h.invariant
    (p := fun job => job.Sound ∧ job.Policed ∧ job.identity.networkPolicy = identity.networkPolicy)
    ?_ ?_
  · rintro before event after hstep ⟨hs, hp, hpolicy⟩
    have htransition := perform_cases hs hstep
    exact ⟨htransition.sound hs, policed_step hs hp hstep, by rw [htransition.identity, hpolicy]⟩
  · refine ⟨sound_of_tryNew hbuilt, ?_⟩
    simp only [tryNew, Except.bind_eq_ok, Except.exists_unit, Except.pure_eq_ok] at hbuilt
    obtain ⟨-, participants, -, last, -, rfl⟩ := hbuilt
    exact ⟨policed_of_fresh rfl, rfl⟩

end Policy

end LiveCachedJob

/-! ## A coordinator that runs -/

namespace DistributedScheduleCoordinator

open ParticipantCoordinator (Reaction firstReaction)

section Coordinators

variable [JobWire] [ClockEstimation] {s : DistributedScheduleCoordinator}
  {participant : ParticipantCoordinator}

/-- The participants of a reachable running coordinator with nothing pending are steady. -/
theorem steady_of_reached (hreached : s.Reached) (hphase : s.phase ∈ [.confirmed, .irrevocable])
    (hquiet : ∀ participant ∈ s.participants, participant.control.pending = none) :
    ∀ participant ∈ s.participants, Steady s participant := by
  obtain ⟨identity, cacheReady, cached, start, history, hbuilt, hrun⟩ := hreached
  have hconsistent := consistent_of_run hbuilt hrun
  have htarget : s.targetUiNs.isSome := by
    have hintent := intent_of_running hphase
    cases htarget : s.targetUiNs with
    | some target => rfl
    | none =>
      have hfresh := hconsistent.fresh.1 htarget
      simp only [List.mem_cons, List.not_mem_nil, or_false] at hintent hfresh
      rcases hintent with h | h | h <;> simp [h] at hfresh
  intro participant hmem
  exact
    { pending := hquiet participant hmem
      representable := representable_of_run hbuilt hrun participant hmem
      leased := leaseBound_of_run hbuilt hrun participant hmem
      planned := allPlanned_of_run hbuilt hrun htarget participant hmem
      bound := hconsistent.planned participant hmem }

/-- A running coordinator asks its participants in turn. -/
theorem nextRequest_of_running (hphase : s.phase ∈ [.confirmed, .irrevocable]) :
    s.nextRequest = (firstRequest (nextOperation s.intent false) s.participants >>= fun found =>
      match found with
      | none => pure (none, s)
      | some (request, participants) => pure (some request, { s with participants })) := by
  have hround : s.initialRound = false := by
    unfold initialRound
    have hintent := intent_of_running hphase
    simp only [List.mem_cons, List.not_mem_nil, or_false] at hintent
    rcases hintent with h | h | h <;> simp [h]
  have hrunning : s.phase ∉ [.aborted, .splitAfterAbort, .cancelled, .complete, .faulted] := by
    simp only [List.mem_cons, List.not_mem_nil, or_false] at hphase
    rcases hphase with h | h <;> simp [h]
  unfold nextRequest
  rw [if_neg hrunning, hround]
  all_goals rfl

omit [JobWire] [ClockEstimation] in
/-- A live participant that is passed over has started, or it has no commit. -/
theorem started_of_silent (hlive : ¬ terminalFailure participant.phase)
    (hintent : s.intent ∈ [.confirm, .abort]) (h : participant.reaction s.intent = .silent) :
    participant.control.commit = none ∨
      participant.phase ∈ [.confirmed, .priming, .primed, .running, .complete] := by
  unfold ParticipantCoordinator.reaction at h
  split at h
  · cases h
  unfold terminalFailure at hlive
  simp only [List.mem_cons, List.not_mem_nil, or_false] at hintent
  rcases hintent with hintent | hintent
  · right
    cases hphase : participant.phase <;> simp [hintent, hphase, postGuard] at h <;> simp
    split at h <;> cases h
  · cases hcommit : participant.control.commit with
    | none => exact .inl rfl
    | some commit =>
      right
      cases hphase : participant.phase <;> simp [hintent, hphase, hcommit, postGuard] at h <;>
        simp_all

omit [ClockEstimation] in
/-- A participant that is passed over while everything runs reports a lease it was granted. -/
theorem granted_of_silent (hs : Steady s participant) (hlive : ¬ terminalFailure participant.phase)
    (hintent : s.intent ∈ [.confirm, .abort]) (h : participant.reaction s.intent = .silent)
    {report : JobStatusReport} {schedule : JobScheduleReport} {authorized : DeviceCycle}
    (hreport : participant.control.report = some report) (hschedule : report.schedule = some schedule)
    (hauthorized : participant.control.authorizedLeaseExpiryCycle = some authorized) :
    schedule.leaseExpiryCycle ≤ authorized := by
  have hcommit : participant.control.commit.isSome := by
    rw [← hs.leased.authorized, hauthorized]
    rfl
  obtain ⟨commit, hcommit⟩ := Option.isSome_iff_exists.1 hcommit
  rcases started_of_silent hlive hintent h with hnone | hstarted
  · rw [hcommit] at hnone
    cases hnone
  · have hstate := participant.control.not_prepared_of_started hstarted hreport hschedule
    exact (hs.leased.reported commit report schedule hcommit hreport hschedule hstate).2.2 authorized
      hauthorized

omit [JobWire] [ClockEstimation] in
/-- A running coordinator whose participants are all passed over was told to confirm or to abort. -/
theorem intent_of_silent (hphase : s.phase ∈ [.confirmed, .irrevocable])
    (h : ∀ participant ∈ s.participants, participant.reaction s.intent = .silent) :
    s.intent ∈ [.confirm, .abort] := by
  have hintent := intent_of_running hphase
  simp only [List.mem_cons, List.not_mem_nil, or_false] at hintent ⊢
  rcases hintent with hinstall | hconfirm | habort
  · exfalso
    -- all participants are installed, and so is the coordinator
    have hall : s.participants.all (·.phase = .installed) := by
      rw [List.all_eq_true]
      intro participant hmem
      have hsilent := h participant hmem
      rw [hinstall] at hsilent
      unfold ParticipantCoordinator.reaction at hsilent
      by_contra hother
      simp only [decide_eq_true_eq] at hother
      dsimp only at hsilent
      rw [if_neg hother] at hsilent
      split at hsilent
      · cases hsilent
      · split at hsilent <;> cases hsilent
    unfold phase at hphase
    simp only [hinstall, hall, if_true] at hphase
    split at hphase <;> simp at hphase
  · exact .inl hconfirm
  · exact .inr habort

/-! ## Rounds -/

/-- A coordinator that has asked every participant for its status. -/
def queried (s : DistributedScheduleCoordinator) : DistributedScheduleCoordinator :=
  { s with participants := s.participants.map ParticipantCoordinator.querying }

/-- The requests of a status round. -/
def queries (s : DistributedScheduleCoordinator) : List DistributedScheduleRequest :=
  s.participants.map fun participant => ⟨participant.deviceId, ⟨.jobStatus, []⟩⟩

omit [JobWire] [ClockEstimation] in
theorem queries_ne_nil (s : DistributedScheduleCoordinator) (h : s.participants ≠ []) :
    s.queries ≠ [] := by
  simpa [queries] using h

/-- A coordinator with nothing pending opens a status round. -/
theorem beginStatusRound_quiet (s : DistributedScheduleCoordinator)
    (hquiet : ∀ participant ∈ s.participants, participant.control.pending = none) :
    s.beginStatusRound = (s.queried, .ok s.queries) := by
  unfold beginStatusRound
  rw [if_neg (by simpa using hquiet), statusEach_of_quiet hquiet]
  rfl

/-- Every participant has completed or still executes. -/
def Finishing (participants : List ParticipantCoordinator) : Prop :=
  ∀ participant ∈ participants, participant.phase = .complete ∨ participant.executes

/-- What keeps finishing participants going: a renewal for each that executes, a status round, or the
request one participant still owes because an earlier one of it is ambiguous or a stop was asked
for. -/
inductive KeepsGoing (intent : CoordinationIntent) (before after : List ParticipantCoordinator) :
    Prop
  | renewed (all : ∀ (i : Nat) participant, before[i]? = some participant → participant.executes →
      ∃ participant', after[i]? = some participant' ∧
        participant'.control.pending = some .renewLease) : KeepsGoing intent before after
  | queried (all : after = before.map ParticipantCoordinator.querying) :
      KeepsGoing intent before after
  | owed (i : Nat) (participant : ParticipantCoordinator) (operation : ScheduleOperation)
      (control : ParticipantScheduleMachine jobAxes) (index : before[i]? = some participant)
      (asked : nextOperation intent false participant = .ok (some (operation, control)))
      (reason : participant.control.reconciliationRequired ∨ intent = .abort)
      (rest : after = before.modify i ({ · with control })) : KeepsGoing intent before after

omit [JobWire] [ClockEstimation] in
/-- A finishing participant is asked only when an operation is ambiguous or a stop was asked for. -/
theorem reason_of_finishing {intent : CoordinationIntent}
    (hfinishing : participant.phase = .complete ∨ participant.executes)
    (h : participant.reaction intent = .asked) :
    participant.control.reconciliationRequired ∨ intent = .abort := by
  by_contra hother
  obtain ⟨hreconciled, habort⟩ := not_or.1 hother
  unfold ParticipantCoordinator.reaction at h
  rw [if_neg hreconciled] at h
  have hphase : participant.phase ∈ [.complete, .confirmed, .priming, .primed, .running] := by
    simp only [ParticipantCoordinator.executes, decide_eq_true_eq, List.mem_cons, List.not_mem_nil,
      or_false] at hfinishing ⊢
    exact hfinishing
  simp only [List.mem_cons, List.not_mem_nil, or_false] at hphase
  cases intent with
  | prepare => cases h
  | cancel => cases h
  | abort => exact habort rfl
  | install => rcases hphase with hphase | hphase | hphase | hphase | hphase <;> simp [hphase] at h
  | confirm =>
    rcases hphase with hphase | hphase | hphase | hphase | hphase <;> simp [hphase, postGuard] at h

/-- A renewal that opens is pending at every participant. -/
theorem pending_of_renewed {renewals : List ParticipantLeaseRenewal}
    {t : DistributedScheduleCoordinator} {requests : List DistributedScheduleRequest}
    (h : s.beginLeaseRenewal renewals = (t, .ok requests)) {i : Nat}
    (hi : s.participants[i]? = some participant) :
    ∃ participant', t.participants[i]? = some participant' ∧
      participant'.control.pending = some .renewLease := by
  rcases s.beginLeaseRenewal_cases renewals with
    ⟨error, hresult⟩ | ⟨staged, opened, hresult, -, -, hall, -, heach⟩
  · rw [hresult] at h
    cases h
  rw [hresult] at h
  cases h
  have hlength : (Table.sortByKey (fun renewal => deviceKey renewal.deviceId) renewals).length =
      s.participants.length := by
    rw [Table.length_sortByKey, hall]
  have hlt : i < s.participants.length := (List.getElem?_eq_some_iff.1 hi).1
  obtain ⟨-, -, hrenews⟩ := renewEach_eq_ok hlength heach
  obtain ⟨participant', _, hi', -, operation, control, hrenew, rfl, -⟩ :=
    hrenews i participant _ hi (List.getElem?_eq_getElem (hlength ▸ hlt))
  refine ⟨_, hi', ?_⟩
  cases ParticipantScheduleMachine.beginLeaseRenew_issues hrenew
  rfl

end Coordinators

end DistributedScheduleCoordinator

/-! ## The driver -/

namespace LiveCachedJob

open DistributedScheduleCoordinator (Finishing KeepsGoing)
open ParticipantCoordinator (firstReaction)

section Driver

variable [StorageWire] [JobWire] [ClockEstimation] {job job' : LiveCachedJob}
  {coordinator : DistributedScheduleCoordinator}

omit [StorageWire] in
/-- A job that is confirmed or irrevocable is the one of its coordinator. -/
theorem running_of_phase (hs : job.Sound) (hc : job.coordinator = some coordinator)
    (h : job.phase ∈ [.confirmed, .irrevocable]) :
    job.terminalOverride = none ∧ coordinator.phase ∈ [.confirmed, .irrevocable] := by
  unfold phase at h
  cases hoverride : job.terminalOverride with
  | some ended =>
    simp only [hoverride] at h
    rcases hs.override ended hoverride with rfl | rfl <;> simp at h
  | none =>
    refine ⟨rfl, ?_⟩
    simp only [hoverride, hc] at h
    unfold projectDistributedPhase at h
    split at h
    · simp at h
    · split at h
      · simp at h
      · cases hphase : coordinator.phase <;> simp [hphase, distributedPhase] at h <;> simp

/-- The first request of an opened queue goes out. -/
theorem nextOperation_of_opened [Sha256] {opened : LiveCachedJob} (hs : opened.Sound)
    (hrunning : job.terminalOverride = none) (hopen : job.openSweep = (opened, .ok ()))
    (hqueue : opened.statusQueue ≠ []) : ∃ operation,
      job.nextOperation.2 = .ok (some operation) ∧
        job.nextOperation.1.coordinator = opened.coordinator := by
  obtain ⟨request, rest, hqueue⟩ := List.exists_cons_of_ne_nil hqueue
  obtain ⟨operation, hoperation, -⟩ := hs.scheduleOperation (hs.queued request (by simp [hqueue]))
  have hnext : job.nextOperation =
      ({ opened with statusQueue := rest }, .ok (some operation)) := by
    unfold nextOperation
    rw [if_neg (by simp [hrunning]), hopen]
    simp only [hqueue, hoperation]
    rfl
  rw [hnext]
  exact ⟨operation, rfl, rfl⟩

/-- The first request of a queue goes out. -/
theorem nextOperation_of_queued [Sha256] (hs : job.Sound) (hrunning : job.terminalOverride = none)
    (hqueue : job.statusQueue ≠ []) : ∃ operation,
      job.nextOperation.2 = .ok (some operation) ∧
        job.nextOperation.1.coordinator = job.coordinator := by
  refine nextOperation_of_opened hs hrunning ?_ hqueue
  unfold openSweep
  rw [if_neg (by simp [hqueue])]

omit [StorageWire] in
theorem participants_ne_nil (hs : job.Sound) (hc : job.coordinator = some coordinator) :
    coordinator.participants ≠ [] := by
  intro hnil
  have hdevices := (hs.scheduled coordinator hc).1
  rw [DistributedScheduleCoordinator.devices, hnil] at hdevices
  exact hs.nonempty (List.map_eq_nil_iff.1 hdevices.symm)

theorem quiet_of_running (hrunning : job.terminalOverride = none)
    (hc : job.coordinator = some coordinator) (hempty : job.statusQueue = []) :
    (job.quiet : LiveResult _) = .ok coordinator := by
  unfold quiet
  rw [Except.bind_of_ok (Except.failIf_of_not (by simp [hrunning, hempty])), hc]
  rfl

/-- A status round asks every participant, and its first request goes out. -/
theorem nextOperation_of_statusRound [Sha256] (hs : job.Sound) (hrunning : job.terminalOverride = none)
    (hc : job.coordinator = some coordinator) (hempty : job.statusQueue = [])
    (hquiet : ∀ participant ∈ coordinator.participants, participant.control.pending = none) :
    ∃ job' operation, job.beginStatusRound = (job', .ok ()) ∧
      job'.nextOperation.2 = .ok (some operation) ∧
      job'.nextOperation.1.coordinator = some coordinator.queried := by
  have hbegin : job.beginStatusRound =
      ({ job with coordinator := some coordinator.queried, statusQueue := coordinator.queries },
        .ok ()) := by
    unfold beginStatusRound
    rw [quiet_of_running hrunning hc hempty]
    simp only [coordinator.beginStatusRound_quiet hquiet]
  have hsound : Sound { job with
      coordinator := some coordinator.queried, statusQueue := coordinator.queries } := by
    have hstep : Step job (.beginStatusRound, .done (.ok ())) _ :=
      show job.perform .beginStatusRound = _ by rw [perform, hbegin]
    exact (perform_cases hs hstep).sound hs
  obtain ⟨operation, hnext, hkept⟩ := nextOperation_of_queued hsound hrunning
    (coordinator.queries_ne_nil (participants_ne_nil hs hc))
  exact ⟨_, operation, hbegin, hnext, hkept⟩

/-- A required sweep asks every participant, and its first request goes out. -/
theorem nextOperation_of_sweep [Sha256] (hs : job.Sound) (hrunning : job.terminalOverride = none)
    (hc : job.coordinator = some coordinator) (hempty : job.statusQueue = [])
    (hquiet : ∀ participant ∈ coordinator.participants, participant.control.pending = none)
    (hrequired : job.scheduleReconciliationSweepRequired) :
    ∃ operation, job.nextOperation.2 = .ok (some operation) ∧
      job.nextOperation.1.coordinator = some coordinator.queried := by
  have hround := coordinator.beginStatusRound_quiet hquiet
  have hopen : job.openSweep =
      ({ job with
          coordinator := some coordinator.queried
          statusQueue := coordinator.queries
          scheduleReconciliationSweepRequired := false }, .ok ()) := by
    unfold openSweep
    rw [if_pos ⟨hempty, hrequired⟩, hc]
    simp only [hround]
  have hstep : DistributedScheduleCoordinator.Step coordinator
      (.beginStatusRound, .round (.ok coordinator.queries)) coordinator.queried := by
    show coordinator.perform .beginStatusRound = _
    rw [DistributedScheduleCoordinator.perform, hround]
  have hsound := (Readies.swept coordinator _ _ hc hempty hrequired hstep).sound hs
  exact nextOperation_of_opened hsound hrunning hopen
    (coordinator.queries_ne_nil (participants_ne_nil hs hc))

/-- What a running job without a queue asks for follows from the reaction to the first participant
that is not passed over. -/
theorem nextOperation_of_reaction [Sha256] (wire : JobWire.Attends) (hs : job.Sound)
    (hrunning : job.terminalOverride = none) (hc : job.coordinator = some coordinator)
    (hempty : job.statusQueue = []) (hclear : job.scheduleReconciliationSweepRequired = false)
    (hphase : coordinator.phase ∈ [.confirmed, .irrevocable])
    (hquiet : ∀ participant ∈ coordinator.participants, participant.control.pending = none) :
    (firstReaction coordinator.intent coordinator.participants = .silent ∧
        (∀ participant ∈ coordinator.participants,
          participant.reaction coordinator.intent = .silent) ∧
        job.nextOperation = (job, .ok none)) ∨
      (firstReaction coordinator.intent coordinator.participants = .stuck ∧
        ∃ error, job.nextOperation = (job, .error error)) ∨
      firstReaction coordinator.intent coordinator.participants = .asked ∧
        ∃ i participant asked control operation, coordinator.participants[i]? = some participant ∧
          participant.reaction coordinator.intent = .asked ∧
          DistributedScheduleCoordinator.nextOperation coordinator.intent false participant =
            .ok (some (asked, control)) ∧
          job.nextOperation.2 = .ok (some operation) ∧
          job.nextOperation.1.coordinator = some { coordinator with
            participants := coordinator.participants.modify i ({ · with control }) } := by
  have hnext : job.nextOperation = job.nextScheduled coordinator := by
    have hsweep : job.openSweep = (job, .ok ()) := by
      unfold openSweep
      rw [if_neg (by simp [hclear])]
    unfold nextOperation
    rw [if_neg (by simp [hrunning]), hsweep]
    simp only [hempty, nextUnqueued, hc]
  have hsame : ({ job with coordinator := some coordinator } : LiveCachedJob) = job := by
    rw [← hc]
  have hsteady := DistributedScheduleCoordinator.steady_of_reached (hs.scheduled coordinator hc).2
    hphase hquiet
  have hrequest := DistributedScheduleCoordinator.nextRequest_of_running hphase
  rw [hnext]
  unfold nextScheduled
  rcases DistributedScheduleCoordinator.firstRequest_reaction wire hsteady
    (DistributedScheduleCoordinator.intent_of_running hphase) with
    ⟨hreaction, hall, hfound⟩ | ⟨hreaction, error, hfound⟩ |
    ⟨hreaction, i, participant, asked, control, hi, hlater, hasked, hfound⟩
  · rw [Except.bind_of_ok hfound] at hrequest
    rw [hrequest]
    exact .inl ⟨hreaction, hall, by rw [← hsame]; rfl⟩
  · rw [hfound] at hrequest
    rw [hrequest]
    exact .inr (.inl ⟨hreaction, _, rfl⟩)
  · have hdevice : participant.deviceId ∈ job.devices := by
      rw [← (hs.scheduled coordinator hc).1]
      exact List.mem_map_of_mem (List.mem_of_getElem? hi)
    obtain ⟨operation, hoperation, -⟩ : ∃ operation,
        job.scheduleOperation ⟨participant.deviceId, asked⟩ = .ok operation ∧ _ :=
      hs.scheduleOperation hdevice
    rw [Except.bind_of_ok hfound] at hrequest
    rw [hrequest]
    refine .inr (.inr ⟨hreaction, i, participant, asked, control, operation, hi, hlater, hasked, ?_,
      rfl⟩)
    show some <$> job.scheduleOperation _ = _
    rw [hoperation]
    rfl

end Driver

/-! ## Renewals -/

section Renewals

variable [CapabilityWire] [ClockEstimation] [StorageWire] [JobWire] [DiagnosticWire] [WorkerWire]
  [BoardCapabilities] {runtime : ControlWorkerRuntime} {head : WorkerJobHead} {job : LiveCachedJob}
  {coordinator : DistributedScheduleCoordinator} {nowUiNs targetUiNs : UInt64}

/-- A job that is confirmed or runs, with nothing pending, no failed participant, and every device
connected, eligible and clocked. -/
structure Healthy (runtime : ControlWorkerRuntime) (head : WorkerJobHead) (job : LiveCachedJob)
    (coordinator : DistributedScheduleCoordinator) (nowUiNs targetUiNs : UInt64) : Prop where
  scheduled : job.coordinator = some coordinator
  phase : job.phase ∈ [.confirmed, .irrevocable]
  queue : job.statusQueue = []
  quiet : ∀ participant ∈ coordinator.participants, participant.control.pending = none
  live : ∀ participant ∈ coordinator.participants, ¬ terminalFailure participant.phase
  now : runtime.monotonicNs = some nowUiNs
  target : nowUiNs.checkedAdd 9000000000 = some targetUiNs
  attendable : ∀ binding ∈ job.bindings, Attendable runtime head job nowUiNs targetUiNs binding

/-- The driver emits an operation, and finishing participants are kept going. -/
structure Attended (coordinator : DistributedScheduleCoordinator)
    (result : LiveCachedJob × WorkerJobResult (Option LiveJobOperation)) : Prop where
  emits : ∃ operation, result.2 = .ok (some operation)
  going : Finishing coordinator.participants → ∃ coordinator',
    result.1.coordinator = some coordinator' ∧
      KeepsGoing coordinator.intent coordinator.participants coordinator'.participants

/-- A renewal opens on a job without a stop whose participants all execute. -/
def Renewable (job : LiveCachedJob) (coordinator : DistributedScheduleCoordinator) : Prop :=
  job.stopRequested = false ∧ ∀ participant ∈ coordinator.participants, participant.executes

/-- The states in which the driver keeps a running job going: a sweep is required, or the first
participant that is not passed over can be asked, or there is none and the leases are all known and
no renewal is to open that some participant would refuse. -/
def Continues (runtime : ControlWorkerRuntime) (job : LiveCachedJob)
    (coordinator : DistributedScheduleCoordinator) (nowUiNs : UInt64) : Prop :=
  job.scheduleReconciliationSweepRequired ∨
    match firstReaction coordinator.intent coordinator.participants with
    | .stuck => False
    | .asked => True
    | .silent =>
      match leasesState runtime job nowUiNs job.bindings with
      | .missing => False
      | .lapsed => True
      | .due => Renewable job coordinator
      | .held => job.leaseRenewalRounds = 0 → Renewable job coordinator

omit [CapabilityWire] [ClockEstimation] [StorageWire] [JobWire] [DiagnosticWire] [WorkerWire]
  [BoardCapabilities] in
/-- The lease of a binding is the one its participant reports. -/
theorem lease_of_participant (hs : coordinator.Ordered) (hc : job.coordinator = some coordinator)
    {deviceId : DeviceId} {reported : DeviceCycle}
    (h : job.participantLeaseExpiryCycle deviceId = some reported) :
    ∃ participant ∈ coordinator.participants, participant.deviceId = deviceId ∧
      job.participantAuthorizedLeaseExpiryCycle deviceId =
        participant.control.authorizedLeaseExpiryCycle ∧
      ∃ report schedule, participant.control.report = some report ∧
        report.schedule = some schedule ∧ schedule.leaseExpiryCycle = reported := by
  rw [LiveCachedJob.participantLeaseExpiryCycle, hc, Option.bind_some,
    DistributedScheduleCoordinator.participantLeaseExpiryCycle] at h
  obtain ⟨participant, hparticipant, h⟩ := Option.bind_eq_some_iff.1 h
  obtain ⟨report, hreport, h⟩ := Option.bind_eq_some_iff.1 h
  obtain ⟨schedule, hschedule, h⟩ := Option.bind_eq_some_iff.1 h
  obtain ⟨_, -, h⟩ := Option.bind_eq_some_iff.1 h
  obtain ⟨hmem, hdevice⟩ := (DistributedScheduleCoordinator.participant_eq_some hs).1 hparticipant
  refine ⟨participant, hmem, hdevice, ?_, report, schedule, hreport, hschedule, Option.some.inj h⟩
  rw [LiveCachedJob.participantAuthorizedLeaseExpiryCycle, hc, Option.bind_some,
    DistributedScheduleCoordinator.participantAuthorizedLeaseExpiryCycle, hparticipant]
  rfl

omit [DiagnosticWire] [WorkerWire] [BoardCapabilities] [CapabilityWire] [StorageWire] in
/-- While all participants are passed over, the reported leases of a running job were granted. -/
theorem granted_of_running (hs : job.Sound) (hc : job.coordinator = some coordinator)
    (hphase : coordinator.phase ∈ [.confirmed, .irrevocable])
    (hquiet : ∀ participant ∈ coordinator.participants, participant.control.pending = none)
    (hlive : ∀ participant ∈ coordinator.participants, ¬ terminalFailure participant.phase)
    (hsilent : ∀ participant ∈ coordinator.participants,
      participant.reaction coordinator.intent = .silent) (binding : LiveJobParticipantBinding) :
    Granted job binding := by
  intro reported authorized hreported hauthorized
  have hsteady := DistributedScheduleCoordinator.steady_of_reached (hs.scheduled coordinator hc).2
    hphase hquiet
  obtain ⟨participant, hmem, -, hsame, report, schedule, hreport, hschedule, rfl⟩ :=
    lease_of_participant (hs.ordered hc) hc hreported
  exact DistributedScheduleCoordinator.granted_of_silent (hsteady participant hmem)
    (hlive participant hmem) (DistributedScheduleCoordinator.intent_of_silent hphase hsilent)
    (hsilent participant hmem) hreport hschedule (hsame ▸ hauthorized)

/-- The renewals to open follow from how the leases stand. -/
theorem dueRenewals_cases (h : Healthy runtime head job coordinator nowUiNs targetUiNs)
    (hattended : job.identity.networkPolicy = .networkAttended)
    (hgranted : ∀ binding ∈ job.bindings, Granted job binding) :
    (leasesState runtime job nowUiNs job.bindings = .missing ∧
        ∃ error, dueRenewals runtime head job = .error error) ∨
      ((leasesState runtime job nowUiNs job.bindings = .lapsed ∨
          leasesState runtime job nowUiNs job.bindings = .held ∧ job.leaseRenewalRounds ≠ 0) ∧
        dueRenewals runtime head job = .ok none) ∨
      (leasesState runtime job nowUiNs job.bindings = .due ∨
          leasesState runtime job nowUiNs job.bindings = .held ∧ job.leaseRenewalRounds = 0) ∧
        ∃ renewals, List.Forall₂ (Extends job) job.bindings renewals ∧
          dueRenewals runtime head job = .ok (some renewals) := by
  have hnow : runtime.monotonicNs.okOr
      (WorkerJobError.message "worker monotonic clock is unavailable") = .ok nowUiNs := by
    rw [h.now]
    rfl
  have hhorizon : (jobAttendedRenewalHorizonSeconds.checkedMul 1000000000).okOr
      (WorkerJobError.message "attended lease horizon overflowed") = .ok 9000000000 := rfl
  have htarget : (nowUiNs.checkedAdd 9000000000).okOr
      (WorkerJobError.message "attended lease target overflowed") = .ok targetUiNs := by
    rw [h.target]
    rfl
  unfold dueRenewals
  rw [if_neg (by simp [hattended]), Except.bind_of_ok hnow, Except.bind_of_ok hhorizon,
    Except.bind_of_ok htarget]
  dsimp only
  rcases attendedRenewals_eq h.attendable hgranted with ⟨hmissing, error, hcollected⟩ |
    ⟨hlapsed, hcollected⟩ | ⟨due, renewals, hstate, hextends, hcollected⟩
  · rw [show job.participants.map (·.binding) = job.bindings from rfl, hcollected]
    exact .inl ⟨hmissing, error, rfl⟩
  · rw [show job.participants.map (·.binding) = job.bindings from rfl,
      Except.bind_of_ok hcollected]
    exact .inr (.inl ⟨.inl hlapsed, rfl⟩)
  · rw [show job.participants.map (·.binding) = job.bindings from rfl,
      Except.bind_of_ok hcollected, hstate]
    cases due with
    | true => exact .inr (.inr ⟨.inl rfl, renewals, hextends, by simp⟩)
    | false =>
      by_cases hfirst : job.leaseRenewalRounds = 0
      · exact .inr (.inr ⟨.inr ⟨rfl, hfirst⟩, renewals, hextends, by simp [hfirst]⟩)
      · exact .inr (.inl ⟨.inr ⟨rfl, hfirst⟩, by simp [hfirst]⟩)

omit [DiagnosticWire] [WorkerWire] [BoardCapabilities] [CapabilityWire] [StorageWire] in
/-- Renewals that extend the leases of all participants open exactly when all of them execute. -/
theorem coordinator_renews_iff (wire : JobWire.Attends) (hs : job.Sound)
    (hc : job.coordinator = some coordinator) (hattended : coordinator.networkPolicy = .networkAttended)
    (hphase : coordinator.phase ∈ [.confirmed, .irrevocable])
    (hquiet : ∀ participant ∈ coordinator.participants, participant.control.pending = none)
    (hsilent : ∀ participant ∈ coordinator.participants,
      participant.reaction coordinator.intent = .silent)
    {renewals : List ParticipantLeaseRenewal}
    (hextends : List.Forall₂ (Extends job) job.bindings renewals) :
    (∃ requests, (coordinator.beginLeaseRenewal renewals).2 = .ok requests) ↔
      ∀ participant ∈ coordinator.participants, participant.executes := by
  have hordered := hs.ordered hc
  have hdevices := (hs.scheduled coordinator hc).1
  have hrenewed : renewals.map (·.deviceId) = coordinator.devices := by
    rw [hdevices]
    exact (hextends.map_eq_map fun binding renewal h => h.1.symm).symm
  refine DistributedScheduleCoordinator.beginLeaseRenewal_isOk_iff hordered hattended hphase hquiet
    hrenewed ?_
  have hsteady := DistributedScheduleCoordinator.steady_of_reached (hs.scheduled coordinator hc).2
    hphase hquiet
  rw [List.forall₂_iff_get] at hextends ⊢
  have hlength : coordinator.participants.length = job.bindings.length := by
    have hlengths := congrArg List.length hdevices
    simpa [DistributedScheduleCoordinator.devices, devices] using hlengths
  refine ⟨hlength.trans hextends.1, ?_⟩
  intro i hi hj hexecutes
  have hbinding : i < job.bindings.length := hlength ▸ hi
  obtain ⟨hrenewal, reported, authorized, hreported, hauthorized, hlater, hgreatest⟩ :=
    hextends.2 i hbinding hj
  have hdevice : (coordinator.participants.get ⟨i, hi⟩).deviceId =
      (job.bindings.get ⟨i, hbinding⟩).deviceId := by
    have hsame := congrArg (fun ids : List DeviceId => ids[i]?) hdevices
    simpa [DistributedScheduleCoordinator.devices, devices, hi, hbinding] using hsame
  obtain ⟨participant, hmem, hfound, hsame, report, schedule, hreport, hschedule, rfl⟩ :=
    lease_of_participant hordered hc hreported
  obtain rfl : participant = coordinator.participants.get ⟨i, hi⟩ := by
    have hleft := (DistributedScheduleCoordinator.participant_eq_some hordered).2 ⟨hmem, hfound⟩
    have hright := (DistributedScheduleCoordinator.participant_eq_some hordered).2
      ⟨List.get_mem coordinator.participants ⟨i, hi⟩, hdevice⟩
    exact Option.some.inj (hleft.symm.trans hright)
  exact DistributedScheduleCoordinator.beginLeaseRenew_of_executes wire (hsteady _ hmem) hattended
    (ParticipantCoordinator.clean_of_silent (hsilent _ hmem)) hexecutes (hsame ▸ hauthorized) hreport
    hschedule hlater hgreatest

omit [CapabilityWire] [DiagnosticWire] [WorkerWire] [BoardCapabilities] in
/-- A renewal that is refused leaves the job as it was. -/
theorem beginLeaseRenewal_refused {renewals : List ParticipantLeaseRenewal}
    {error : LiveCachedJobError} (h : (job.beginLeaseRenewal renewals).2 = .error error) :
    (job.beginLeaseRenewal renewals).1 = job := by
  unfold beginLeaseRenewal at h ⊢
  split at h
  · next hclosed => rw [if_pos hclosed]
  next hopen =>
  rw [if_neg hopen]
  cases hquiet : (job.quiet : LiveResult _) with
  | error error => rfl
  | ok coordinator =>
    have hc : job.coordinator = some coordinator := by
      simp only [quiet, Except.bind_eq_ok, Except.exists_unit, Option.okOr_eq_ok] at hquiet
      exact hquiet.2
    rw [hquiet] at h
    dsimp only at h ⊢
    rcases coordinator.beginLeaseRenewal_cases renewals with
      ⟨error, hresult⟩ | ⟨staged, requests, hresult, -⟩
    · rw [hresult, ← hc]
    · rw [hresult] at h
      cases h

omit [CapabilityWire] [DiagnosticWire] [WorkerWire] [BoardCapabilities] in
/-- A renewal of all leases of a running job opens, and its first request goes out, or it is refused,
as the job is renewable or not. -/
theorem beginLeaseRenewal_outcome [Sha256] (wire : JobWire.Attends) (hs : job.Sound)
    (hrunning : job.terminalOverride = none) (hc : job.coordinator = some coordinator)
    (hempty : job.statusQueue = []) (hclear : job.scheduleReconciliationSweepRequired = false)
    (hattended : coordinator.networkPolicy = .networkAttended)
    (hphase : coordinator.phase ∈ [.confirmed, .irrevocable])
    (hquiet : ∀ participant ∈ coordinator.participants, participant.control.pending = none)
    (hsilent : ∀ participant ∈ coordinator.participants,
      participant.reaction coordinator.intent = .silent)
    {renewals : List ParticipantLeaseRenewal}
    (hextends : List.Forall₂ (Extends job) job.bindings renewals) :
    (Renewable job coordinator ∧ ∃ job' coordinator' operation,
        job.beginLeaseRenewal renewals = (job', .ok ()) ∧
        job'.nextOperation.2 = .ok (some operation) ∧
        job'.nextOperation.1.coordinator = some coordinator' ∧
        ∀ (i : Nat) participant, coordinator.participants[i]? = some participant →
          ∃ participant', coordinator'.participants[i]? = some participant' ∧
            participant'.control.pending = some .renewLease) ∨
      ¬ Renewable job coordinator ∧ ∃ error, job.beginLeaseRenewal renewals = (job, .error error) := by
  have hrenews := coordinator_renews_iff wire hs hc hattended hphase hquiet hsilent hextends
  by_cases hstop : job.stopRequested
  · refine .inr ⟨fun hrenewable => ?_, .state, ?_⟩
    · rw [hrenewable.1] at hstop
      cases hstop
    · unfold beginLeaseRenewal
      rw [if_pos (.inr hstop)]
  have hopen : ¬ (job.scheduleReconciliationSweepRequired ∨ job.stopRequested) := by
    simp [hclear, hstop]
  rcases coordinator.beginLeaseRenewal_cases renewals with
    ⟨error, hresult⟩ | ⟨staged, requests, hresult, -, -, hall, -, heach⟩
  · refine .inr ⟨fun hrenewable => ?_, .schedule error, ?_⟩
    · obtain ⟨requests, hok⟩ := hrenews.2 hrenewable.2
      rw [hresult] at hok
      cases hok
    · unfold beginLeaseRenewal
      rw [if_neg hopen, quiet_of_running hrunning hc hempty]
      dsimp only
      rw [hresult, ← hc]
  · have hbegin : job.beginLeaseRenewal renewals =
        ({ job with
            coordinator := some { coordinator with participants := staged }
            statusQueue := requests
            leaseRenewalRounds := .ofNat (min (job.leaseRenewalRounds.toNat + 1) (2 ^ 32 - 1)) },
          .ok ()) := by
      unfold beginLeaseRenewal
      rw [if_neg hopen, quiet_of_running hrunning hc hempty]
      dsimp only
      rw [hresult]
    have hstep : Step job (.beginLeaseRenewal renewals, .done (.ok ())) _ :=
      show job.perform (.beginLeaseRenewal renewals) = _ by rw [perform, hbegin]
    have hsound := (perform_cases hs hstep).sound hs
    have hqueue : requests ≠ [] := by
      obtain ⟨-, hlength, -⟩ := DistributedScheduleCoordinator.renewEach_eq_ok
        (by rw [Table.length_sortByKey, hall]) heach
      rw [← List.length_pos_iff_ne_nil, hlength]
      exact List.length_pos_iff_ne_nil.2 (participants_ne_nil hs hc)
    obtain ⟨operation, hnext, hkept⟩ := nextOperation_of_queued hsound hrunning hqueue
    refine .inl ⟨⟨by simpa using hstop, hrenews.1 ⟨requests, by rw [hresult]⟩⟩, _, _, operation,
      hbegin, hnext, hkept, ?_⟩
    intro i participant hi
    exact DistributedScheduleCoordinator.pending_of_renewed hresult hi

/-! ## The driver of a running job -/

omit [DiagnosticWire] [WorkerWire] [BoardCapabilities] in
theorem nextJobOperation_of_some [Sha256] {operation : LiveJobOperation}
    (h : job.nextOperation.2 = .ok (some operation)) :
    nextJobOperation job = (job.nextOperation.1, .ok (some operation)) := by
  unfold nextJobOperation
  dsimp only
  rw [h]
  rfl

/-- An operation of the job goes out as it is. -/
theorem prepare_of_some [Sha256] {operation : LiveJobOperation}
    (h : job.nextOperation.2 = .ok (some operation)) :
    prepareNextJobOperation runtime head job = (job.nextOperation.1, .ok (some operation)) := by
  unfold prepareNextJobOperation
  rw [nextJobOperation_of_some h]

/-- A running job without a request of its own is attended. -/
theorem prepare_of_none [Sha256] (h : job.nextOperation = (job, .ok none))
    (hphase : job.phase ∈ [.confirmed, .irrevocable]) :
    prepareNextJobOperation runtime head job =
      match attendRunning runtime head job with
      | (job, .error error) => (job, .error error)
      | (job, .ok ()) => nextJobOperation job := by
  have hnext : nextJobOperation job = (job, .ok none) := by
    unfold nextJobOperation
    rw [h]
    rfl
  unfold prepareNextJobOperation
  rw [hnext]
  simp only [List.mem_cons, List.not_mem_nil, or_false] at hphase
  dsimp only
  rcases hphase with hphase | hphase <;> rw [hphase] <;> rfl

/-- A running job whose participants are all passed over is renewed when a lease is due and is asked
for its status otherwise. -/
theorem attended_of_silent [Sha256] (wire : JobWire.Attends) (hs : job.Sound)
    (hrunning : job.terminalOverride = none)
    (h : Healthy runtime head job coordinator nowUiNs targetUiNs)
    (hclear : job.scheduleReconciliationSweepRequired = false)
    (hattended : job.identity.networkPolicy = .networkAttended)
    (hpolicy : coordinator.networkPolicy = .networkAttended)
    (hphase : coordinator.phase ∈ [.confirmed, .irrevocable])
    (hsilent : ∀ participant ∈ coordinator.participants,
      participant.reaction coordinator.intent = .silent)
    (hnext : job.nextOperation = (job, .ok none)) :
    Attended coordinator (prepareNextJobOperation runtime head job) ↔
      match leasesState runtime job nowUiNs job.bindings with
      | .missing => False
      | .lapsed => True
      | .due => Renewable job coordinator
      | .held => job.leaseRenewalRounds = 0 → Renewable job coordinator := by
  have hgranted : ∀ binding ∈ job.bindings, Granted job binding := fun binding _ =>
    granted_of_running hs h.scheduled hphase h.quiet h.live hsilent binding
  have hfails : ∀ error, attendRunning runtime head job = (job, .error error) →
      ¬ Attended coordinator (prepareNextJobOperation runtime head job) := by
    intro error hresult hemits
    rw [prepare_of_none hnext h.phase, hresult] at hemits
    obtain ⟨operation, hemitted⟩ := hemits.emits
    cases hemitted
  rcases dueRenewals_cases h hattended hgranted with ⟨hstate, error, hdue⟩ | ⟨hstate, hdue⟩ |
    ⟨hstate, renewals, hextends, hdue⟩
  · have hresult : attendRunning runtime head job = (job, .error error) := by
      unfold attendRunning beginAttendedLeaseRenewalIfDue
      rw [hdue]
    rw [hstate]
    exact iff_of_false (hfails error hresult) id
  · obtain ⟨job', operation, hround, hemitted, hqueried⟩ :=
      nextOperation_of_statusRound hs hrunning h.scheduled h.queue h.quiet
    have hresult : attendRunning runtime head job = (job', .ok ()) := by
      unfold attendRunning beginAttendedLeaseRenewalIfDue
      rw [hdue]
      dsimp only
      rw [hround]
      rfl
    rw [prepare_of_none hnext h.phase, hresult]
    dsimp only
    rw [nextJobOperation_of_some hemitted]
    refine iff_of_true ⟨⟨operation, rfl⟩, fun _ => ⟨_, hqueried, .queried rfl⟩⟩ ?_
    rcases hstate with hlapsed | ⟨hheld, hlater⟩
    · rw [hlapsed]
      trivial
    · rw [hheld]
      exact fun hfirst => absurd hfirst hlater
  · have hcondition : (match leasesState runtime job nowUiNs job.bindings with
        | .missing => False
        | .lapsed => True
        | .due => Renewable job coordinator
        | .held => job.leaseRenewalRounds = 0 → Renewable job coordinator) ↔
        Renewable job coordinator := by
      rcases hstate with hdue | ⟨hheld, hfirst⟩
      · rw [hdue]
      · rw [hheld]
        exact ⟨fun hrenewable => hrenewable hfirst, fun hrenewable _ => hrenewable⟩
    rw [hcondition]
    rcases beginLeaseRenewal_outcome wire hs hrunning h.scheduled h.queue hclear hpolicy hphase
      h.quiet hsilent hextends with
      ⟨hrenewable, job', coordinator', operation, hbegin, hemitted, hkept, hpending⟩ |
      ⟨hrefused, error, hbegin⟩
    · have hresult : attendRunning runtime head job = (job', .ok ()) := by
        unfold attendRunning beginAttendedLeaseRenewalIfDue
        rw [hdue]
        dsimp only
        rw [hbegin]
      rw [prepare_of_none hnext h.phase, hresult]
      dsimp only
      rw [nextJobOperation_of_some hemitted]
      refine iff_of_true ⟨⟨operation, rfl⟩, fun _ => ⟨coordinator', hkept, .renewed ?_⟩⟩ hrenewable
      exact fun i participant hi _ => hpending i participant hi
    · have hresult : attendRunning runtime head job = (job, .error (.job error)) := by
        unfold attendRunning beginAttendedLeaseRenewalIfDue
        rw [hdue]
        dsimp only
        rw [hbegin]
      exact iff_of_false (hfails _ hresult) hrefused

/-- In every reachable state of an attended job that is confirmed or runs, with nothing pending, no
failed participant and every device connected, eligible and clocked, the driver emits an operation,
and one that keeps finishing participants going, exactly when the job continues. A renewal that is
refused changes nothing. -/
theorem attended_iff [Sha256] (wire : JobWire.Attends) {identity : DistributedJobIdentity}
    {artifacts : List LiveJobArtifacts} {start : LiveCachedJob} {history : List (Call × Outcome)}
    (hbuilt : tryNew identity artifacts = .ok start) (hrun : Run Step start history job)
    (hattended : identity.networkPolicy = .networkAttended)
    (h : Healthy runtime head job coordinator nowUiNs targetUiNs) :
    (Attended coordinator (prepareNextJobOperation runtime head job) ↔
        Continues runtime job coordinator nowUiNs) ∧
      ∀ renewals error, (job.beginLeaseRenewal renewals).2 = .error error →
        (job.beginLeaseRenewal renewals).1 = job := by
  obtain ⟨hs, hpoliced, hpolicy⟩ := policy_of_run hbuilt hrun
  obtain ⟨hrunning, hphase⟩ := running_of_phase hs h.scheduled h.phase
  have hjobAttended : job.identity.networkPolicy = .networkAttended := hpolicy.trans hattended
  have hpolicy : coordinator.networkPolicy = .networkAttended :=
    (hpoliced coordinator h.scheduled).trans hjobAttended
  refine ⟨?_, fun renewals error => beginLeaseRenewal_refused⟩
  unfold Continues
  by_cases hsweep : job.scheduleReconciliationSweepRequired
  · obtain ⟨operation, hnext, hqueried⟩ :=
      nextOperation_of_sweep hs hrunning h.scheduled h.queue h.quiet hsweep
    rw [prepare_of_some hnext]
    refine iff_of_true ⟨⟨operation, rfl⟩, fun _ => ⟨_, hqueried, .queried rfl⟩⟩ (.inl hsweep)
  have hclear : job.scheduleReconciliationSweepRequired = false := by simpa using hsweep
  rw [or_iff_right hsweep]
  rcases nextOperation_of_reaction wire hs hrunning h.scheduled h.queue hclear hphase h.quiet with
    ⟨hreaction, hsilent, hnext⟩ | ⟨hreaction, error, hnext⟩ |
    ⟨hreaction, i, participant, asked, control, operation, hi, hlater, hasked, hnext, hkept⟩
  · rw [hreaction]
    exact attended_of_silent wire hs hrunning h hclear hjobAttended hpolicy hphase hsilent hnext
  · rw [hreaction]
    refine iff_of_false ?_ id
    rintro ⟨⟨operation, hemitted⟩, -⟩
    have hfails : nextJobOperation job = (job, .error (.job error)) := by
      unfold nextJobOperation
      rw [hnext]
      rfl
    unfold prepareNextJobOperation at hemitted
    rw [hfails] at hemitted
    cases hemitted
  · rw [hreaction, prepare_of_some hnext]
    refine iff_of_true ⟨⟨operation, rfl⟩, fun hfinishing => ⟨_, hkept, ?_⟩⟩ trivial
    exact .owed i participant asked control hi hasked
      (DistributedScheduleCoordinator.reason_of_finishing
        (hfinishing participant (List.mem_of_getElem? hi)) hlater) rfl

end Renewals

/-! ## Two devices -/

section Sample

open HostLibrary Graph.HostLibrary BoardLibrary
open DistributedScheduleCoordinator (deviceA deviceB sampleIdentity sampleInput hostLibrary_stoppable)
open LiveSession (sampleArtifacts sampleJob sampleJob_built answers readyCalls)
open ParticipantScheduleMachine (installedReport confirmedReport)

theorem hostLibrary_attends : JobWire.Attends where
  toStoppable := hostLibrary_stoppable
  confirm := by
    intro commit body h
    have hcheck : ∃ checked, HostLibrary.checkCommit commit = .ok checked := by
      obtain ⟨checked, hcheck, -⟩ := Except.bind_eq_ok.1 h
      exact ⟨checked, hcheck⟩
    obtain ⟨checked, hcheck⟩ := hcheck
    exact ⟨_, Except.bind_eq_ok.2 ⟨checked, hcheck, rfl⟩⟩
  renew := by
    intro commit body expiry _ hpolicy hlater
    refine ⟨_, Except.bind_eq_ok.2 ⟨(), Except.failIf_of_not ?_, rfl⟩⟩
    simp [hpolicy, hlater]

/-- A board without visuals can be armed. -/
local instance sampleBoards : BoardCapabilities where
  armable view := BoardView.visuals view = []

/-- Both devices are confirmed. -/
def confirmedCalls : List Call :=
  readyCalls ++ [.beginStart 1000000000 5000000000 [sampleInput deviceA, sampleInput deviceB],
    .nextOperation, answers 11 installedReport, .nextOperation, answers 12 installedReport,
    .beginConfirmation 1000000000 [sampleInput deviceA, sampleInput deviceB],
    .nextOperation, answers 11 confirmedReport, .nextOperation, answers 12 confirmedReport]

def confirmedJob : LiveCachedJob := (Run.execute perform sampleJob confirmedCalls).1

/-- A connected device with its production credential and a qualified clock. -/
def sampleDevice (connectionId : UInt64) (deviceId : DeviceId) : DeviceState where
  connectionId := connectionId
  generation := 1
  sessionOpen := true
  identity := some ⟨"board", .deviceStored, deviceId, ⟨256, .replicate 32 0x72⟩⟩
  clock := (sampleInput deviceId).clock
  maximumUncertaintyCycles := 1000
  configuration := some ⟨.active, true, 0, .replicate 32 0x71, 64, none⟩
  capability := ⟨⟨none, [0, 0, 0, 0], 4, true⟩, (4096 : UInt32), none⟩
  phase := .clockQualified

def sampleRuntime : ControlWorkerRuntime where
  monotonicNs := some 6000000000
  devices
    | 11 => some (.idle (sampleDevice 11 deviceA))
    | 12 => some (.idle (sampleDevice 12 deviceB))
    | _ => none

def sampleHead : WorkerJobHead := ⟨1, .hardware⟩

/-- The instant of a clock that has counted from zero. -/
def sampleEstimate : ClockInstantEstimate := ⟨sampleBoot, 6000000000, 6000300, 300⟩

def samplePrediction : ClockPrediction :=
  ⟨sampleBoot, 6000000000, 15000000000, 6000300, 15000000, 300, 7⟩

theorem deviceA_attendable (hroom : (confirmedJob.participantAuthorizedLeaseExpiryCycle deviceA).all
    fun authorized => authorized.toNat + 1 < 2 ^ 64) :
    Attendable sampleRuntime sampleHead confirmedJob 6000000000 15000000000
      (sampleArtifacts 11 deviceA).binding where
  device := ⟨sampleDevice 11 deviceA, heartbeat 7 900000000 sampleBoot 900000, sampleEstimate,
    samplePrediction, rfl, rfl, rfl, by decide, rfl, rfl, rfl, rfl⟩
  room authorized hauthorized := by
    rw [show (sampleArtifacts 11 deviceA).binding.deviceId = deviceA from rfl] at hauthorized
    simpa [hauthorized] using hroom

theorem deviceB_attendable (hroom : (confirmedJob.participantAuthorizedLeaseExpiryCycle deviceB).all
    fun authorized => authorized.toNat + 1 < 2 ^ 64) :
    Attendable sampleRuntime sampleHead confirmedJob 6000000000 15000000000
      (sampleArtifacts 12 deviceB).binding where
  device := ⟨sampleDevice 12 deviceB, heartbeat 7 900000000 sampleBoot 900000, sampleEstimate,
    samplePrediction, rfl, rfl, rfl, by decide, rfl, rfl, rfl, rfl⟩
  room authorized hauthorized := by
    rw [show (sampleArtifacts 12 deviceB).binding.deviceId = deviceB from rfl] at hauthorized
    simpa [hauthorized] using hroom

theorem attended_iff_sample : ∃ coordinator, confirmedJob.coordinator = some coordinator ∧
    Attended coordinator (prepareNextJobOperation sampleRuntime sampleHead confirmedJob) := by
  have hrun : Run Step sampleJob (Run.execute perform sampleJob confirmedCalls).2 confirmedJob :=
    Run.run_execute perform sampleJob confirmedCalls
  have hphase : confirmedJob.phase = .confirmed := by decide +kernel
  have hqueue : confirmedJob.statusQueue = [] := by decide +kernel
  have hbindings : confirmedJob.bindings =
      [(sampleArtifacts 11 deviceA).binding, (sampleArtifacts 12 deviceB).binding] := by
    decide +kernel
  have hparticipants : confirmedJob.coordinator.all fun coordinator =>
      coordinator.participants.all (fun participant => participant.control.pending.isNone &&
        !terminalFailure participant.phase && participant.executes) &&
      firstReaction coordinator.intent coordinator.participants = .silent := by
    decide +kernel
  have hroomA : (confirmedJob.participantAuthorizedLeaseExpiryCycle deviceA).all
      fun authorized => authorized.toNat + 1 < 2 ^ 64 := by
    decide +kernel
  have hroomB : (confirmedJob.participantAuthorizedLeaseExpiryCycle deviceB).all
      fun authorized => authorized.toNat + 1 < 2 ^ 64 := by
    decide +kernel
  have hlease : leasesState sampleRuntime confirmedJob 6000000000 confirmedJob.bindings = .due := by
    decide +kernel
  have hstop : confirmedJob.stopRequested = false := by decide +kernel
  obtain ⟨coordinator, hc⟩ : ∃ coordinator, confirmedJob.coordinator = some coordinator :=
    Option.isSome_iff_exists.1 (by decide +kernel)
  have hattendable := And.intro (deviceA_attendable hroomA) (deviceB_attendable hroomB)
  rw [hc] at hparticipants
  simp only [Option.all_some, Bool.and_eq_true, List.all_eq_true, decide_eq_true_eq,
    Option.isNone_iff_eq_none, Bool.not_eq_true'] at hparticipants
  obtain ⟨hparticipants, hreaction⟩ := hparticipants
  have hhealthy : Healthy sampleRuntime sampleHead confirmedJob coordinator 6000000000
      15000000000 :=
    { scheduled := hc
      phase := by simp [hphase]
      queue := hqueue
      quiet := fun participant hmem => (hparticipants participant hmem).1.1
      live := fun participant hmem => by simp [(hparticipants participant hmem).1.2]
      now := rfl
      target := rfl
      attendable := by
        rw [hbindings]
        simpa using hattendable }
  have hiff := (attended_iff hostLibrary_attends sampleJob_built hrun rfl hhealthy).1
  refine ⟨coordinator, hc, hiff.2 (.inr ?_)⟩
  rw [hreaction, hlease]
  exact ⟨hstop, fun participant hmem => (hparticipants participant hmem).2⟩

end Sample

end LiveCachedJob

end Alumina.Client
