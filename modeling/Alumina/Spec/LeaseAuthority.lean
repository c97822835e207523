import Alumina.Spec.AbortDrain

/-!
# What a reachable coordinator knows about leases

A participant that has its commit also has a greatest requested lease. No reported lease exceeds it,
and none is shorter than the lease of the commit. Once a start is bound, every participant has a
planned commit that can be installed.

## Key results

- `leaseBound_of_run`: the leases of a reachable coordinator
- `allPlanned_of_run`: and its planned commits
-/

namespace Alumina.Client

/-! ## One participant -/

namespace ParticipantScheduleMachine

variable {axes : Nat}

/-- A bound commit has a greatest requested lease. A lease reported for it lies between the one of
the commit and the greatest requested one. -/
structure LeaseBound (machine : ParticipantScheduleMachine axes) : Prop where
  authorized : machine.authorizedLeaseExpiryCycle.isSome = machine.commit.isSome
  reported : ∀ commit report schedule, machine.commit = some commit →
    machine.report = some report → report.schedule = some schedule → schedule.state ≠ .prepared →
    schedule.policy = some commit.policy ∧
      commit.leaseExpiryCycle ≤ schedule.leaseExpiryCycle ∧
      ∀ authorized, machine.authorizedLeaseExpiryCycle = some authorized →
        schedule.leaseExpiryCycle ≤ authorized

/-- The lease of a schedule that matches its commit. -/
theorem lease_of_matches {schedule : JobScheduleReport} {commit : JobCommitRequest}
    {authorized : Option DeviceCycle} (h : scheduleMatchesCommit schedule commit authorized) :
    schedule.policy = some commit.policy ∧
      commit.leaseExpiryCycle ≤ schedule.leaseExpiryCycle ∧
      ∀ expiry, authorized = some expiry → schedule.leaseExpiryCycle ≤ expiry := by
  unfold scheduleMatchesCommit at h
  simp only [Bool.and_eq_true, decide_eq_true_eq] at h
  obtain ⟨⟨⟨⟨⟨⟨hpolicy, -⟩, -⟩, -⟩, -⟩, hlease⟩, -⟩ := h
  refine ⟨hpolicy, ?_⟩
  cases hcase : commit.policy with
  | networkAttended =>
    simp only [hcase, Option.any_eq_true, Bool.and_eq_true, decide_eq_true_eq] at hlease
    obtain ⟨greatest, hgreatest, hlower, hupper⟩ := hlease
    refine ⟨hlower, ?_⟩
    intro expiry hexpiry
    rw [hgreatest] at hexpiry
    cases hexpiry
    exact hupper
  | cachedAutonomous =>
    simp only [hcase, Bool.and_eq_true, decide_eq_true_eq] at hlease
    obtain ⟨hsame, hgreatest⟩ := hlease
    refine ⟨hsame ▸ UInt64.le_refl _, ?_⟩
    intro expiry hexpiry
    rw [hgreatest] at hexpiry
    cases hexpiry
    exact hsame ▸ UInt64.le_refl _

variable [JobWire] {machine machine' : ParticipantScheduleMachine axes} {e : Call × Outcome}

theorem leaseBound_step (h : Step machine e machine') (hm : machine.LeaseBound) :
    machine'.LeaseBound := by
  obtain ⟨call, outcome⟩ := e
  cases perform_cases h with
  | refused _ _ quiet => exact hm
  | issued _ operation _ issues =>
    cases issues with
    | install commit' body idle identity unbound phase encoded =>
      refine ⟨rfl, ?_⟩
      -- the report shows a prepared schedule
      intro commit report schedule _ hreport hschedule hstate
      obtain ⟨report', schedule', hreport', hschedule', hprepared⟩ := prepared_of_phase phase
      obtain rfl : report' = report := Option.some.inj (hreport'.symm.trans hreport)
      obtain rfl : schedule' = schedule := Option.some.inj (hschedule'.symm.trans hschedule)
      exact absurd hprepared hstate
    | renew commit' expiry schedule' body idle bound phase reported later greatest encoded =>
      constructor
      · show true = machine.commit.isSome
        rw [bound]
        rfl
      · intro commit report schedule hcommit hreport hschedule hstate
        obtain ⟨hpolicy, hlower, -⟩ := hm.reported commit report schedule hcommit hreport hschedule
          hstate
        refine ⟨hpolicy, hlower, ?_⟩
        intro authorized hauthorized
        cases hauthorized
        have hreport : machine.report = some report := hreport
        rw [hreport, Option.bind_some, hschedule, Option.some_inj] at reported
        rw [reported]
        exact UInt64.le_of_lt later
    | _ => exact ⟨hm.authorized, hm.reported⟩
  | settled _ _ action _ quiet pending settles =>
    cases settles with
    | dropped _ => exact ⟨hm.authorized, hm.reported⟩
    | retained response received report body decoded accepted =>
      refine ⟨hm.authorized, ?_⟩
      intro commit report' schedule hcommit hreport hschedule hstate
      obtain rfl : report = report' := Option.some.inj hreport
      rcases accepted with ⟨-, -, hnone, -, rfl⟩ | ⟨rfl, hvalid, -⟩
      · rw [show machine.commit = some commit from hcommit] at hnone
        cases hnone
      · exact lease_of_matches (matches_of_validateReport hvalid hcommit hschedule hstate)

theorem leaseBound_new {descriptor : JobDescriptor} {bootId : BootId}
    (h : new descriptor bootId = .ok machine) : machine.LeaseBound := by
  obtain ⟨hcommit, hauthorized, -⟩ := state_new h
  refine ⟨by rw [hcommit, hauthorized]; rfl, ?_⟩
  intro commit report schedule hsome
  rw [hcommit] at hsome
  cases hsome

/-- What a machine was built for. -/
structure SameIdentity (machine machine' : ParticipantScheduleMachine axes) : Prop where
  descriptor : machine'.descriptor = machine.descriptor
  bootId : machine'.bootId = machine.bootId
  preparedToken : machine'.preparedToken = machine.preparedToken

theorem sameIdentity_step (h : Step machine e machine') : SameIdentity machine machine' := by
  obtain ⟨call, outcome⟩ := e
  cases perform_cases h with
  | refused _ _ quiet => exact ⟨rfl, rfl, rfl⟩
  | issued _ operation _ issues => cases issues <;> exact ⟨rfl, rfl, rfl⟩
  | settled _ _ action _ quiet pending settles => cases settles <;> exact ⟨rfl, rfl, rfl⟩

end ParticipantScheduleMachine

/-! ## All participants -/

namespace DistributedScheduleCoordinator

variable [JobWire] [ClockEstimation] {s t : DistributedScheduleCoordinator} {e : Call × Outcome}
  {participant : ParticipantCoordinator}

theorem networkPolicy_step (h : Step s e t) : t.networkPolicy = s.networkPolicy := by
  obtain ⟨call, outcome⟩ := e
  cases perform_cases h with
  | accepted deviceId response result i participant found index =>
    simp only [settled]
    split
    · unfold activateFaultCleanupIfObserved
      split <;> rfl
    · rfl
  | _ => rfl

/-- A commit that can be installed on a participant. -/
structure Plannable (s : DistributedScheduleCoordinator) (participant : ParticipantCoordinator)
    (commit : JobCommitRequest) : Prop where
  identity : commit.prepareId = participant.control.descriptor.prepareId ∧
    commit.bootId = participant.control.bootId ∧
    commit.preparedToken = participant.control.preparedToken ∧
    commit.partitionDigest = participant.control.descriptor.partition.object.content.digest
  policy : commit.policy = s.networkPolicy
  encoded : ∃ body, JobWire.encodeCommit commit = .ok body

/-- A bound start planned a commit for every participant. -/
def AllPlanned (s : DistributedScheduleCoordinator) : Prop :=
  s.targetUiNs.isSome → ∀ participant ∈ s.participants, ∃ commit,
    participant.plannedCommit = some commit ∧ Plannable s participant commit

theorem plannable_of_planCommit {nowUiNs targetUiNs : UInt64} {input : ParticipantStartInput}
    {commit : JobCommitRequest}
    (h : s.planCommit nowUiNs targetUiNs participant input = .ok commit) :
    Plannable s participant commit := by
  simp only [planCommit, Except.bind_eq_ok, Except.exists_unit, Except.mapError_eq_ok,
    Except.pure_eq_ok] at h
  obtain ⟨-, -, prediction, -, latest, -, -, confirm, -, abort, -, lease, -, -, required, -, -,
    body, hbody, rfl⟩ := h
  exact ⟨⟨rfl, rfl, rfl, rfl⟩, rfl, body, hbody⟩

omit [ClockEstimation] in
/-- The identity of a participant stays the same over a call. -/
theorem sameIdentity_of_controlStep {control : ParticipantScheduleMachine jobAxes}
    (h : ControlStep participant control) :
    ParticipantScheduleMachine.SameIdentity participant.control control := by
  rcases h with rfl | ⟨⟨event, hevent⟩, -⟩
  · exact ⟨rfl, rfl, rfl⟩
  · exact ParticipantScheduleMachine.sameIdentity_step hevent

/-- A call plans the commits of all participants, or leaves the target as it was. -/
theorem planned_or_same (h : Step s e t) : t.targetUiNs = s.targetUiNs ∨ t.AllPlanned := by
  obtain ⟨call, outcome⟩ := e
  cases perform_cases h with
  | accepted deviceId response result i participant found index =>
    left
    simp only [settled]
    split
    · unfold activateFaultCleanupIfObserved
      split <;> rfl
    · rfl
  | bound nowUiNs targetUiNs inputs commits ready fresh all planned =>
    right
    intro _ participant' hmem
    obtain ⟨i, hi⟩ := List.mem_iff_getElem?.1 hmem
    simp only [List.getElem?_zipWith] at hi
    split at hi
    · next participant commit hparticipant hcommit =>
      cases hi
      obtain ⟨hlength, hplanned⟩ := List.forall₂_iff_get.1 planned
      obtain ⟨hlt, rfl⟩ := List.getElem?_eq_some_iff.1 hcommit
      have hplan := hplanned i (hlength ▸ hlt) hlt
      have hfirst : ((s.alignInputs inputs).get ⟨i, hlength ▸ hlt⟩).1 = participant := by
        obtain ⟨hilt, rfl⟩ := List.getElem?_eq_some_iff.1 hparticipant
        simp [alignInputs]
      have hcommit := plannable_of_planCommit hplan
      rw [hfirst] at hcommit
      exact ⟨_, rfl, hcommit.identity, hcommit.policy, hcommit.encoded⟩
    · cases hi
  | _ => exact .inl rfl

theorem allPlanned_step (h : Step s e t) (hs : s.AllPlanned) : t.AllPlanned := by
  rcases planned_or_same h with hsame | hplanned
  · intro htarget participant' hmem
    rw [hsame] at htarget
    obtain ⟨i, hi⟩ := List.mem_iff_getElem?.1 hmem
    obtain ⟨participant, hp, -, hplan, hmove⟩ := participants_step h hi
    obtain ⟨commit, hcommit, hplannable⟩ := hs htarget participant (List.mem_of_getElem? hp)
    obtain ⟨hdescriptor, hboot, htoken⟩ := sameIdentity_of_controlStep hmove
    rcases hplan with ⟨hfresh, -⟩ | hkept
    · rw [hfresh] at htarget
      cases htarget
    · refine ⟨commit, hkept.trans hcommit, ?_, ?_, hplannable.encoded⟩
      · rw [hdescriptor, hboot, htoken]
        exact hplannable.identity
      · rw [networkPolicy_step h]
        exact hplannable.policy
  · exact hplanned

theorem allPlanned_of_run {identity : DistributedJobIdentity}
    {cacheReady : List ParticipantCacheReady} {cached : List CachedParticipantSchedule}
    {start : DistributedScheduleCoordinator} {history : List (Call × Outcome)}
    (hbuilt : afterCachedArtifacts identity cacheReady cached = .ok start)
    (h : Run Step start history s) : s.AllPlanned := by
  obtain ⟨-, -, hfresh, -⟩ := participants_of_afterCachedArtifacts hbuilt
  refine h.invariant (p := AllPlanned) (fun _ _ _ => allPlanned_step) ?_
  intro htarget
  rw [hfresh] at htarget
  cases htarget

theorem leaseBound_of_run {identity : DistributedJobIdentity}
    {cacheReady : List ParticipantCacheReady} {cached : List CachedParticipantSchedule}
    {start : DistributedScheduleCoordinator} {history : List (Call × Outcome)}
    (hbuilt : afterCachedArtifacts identity cacheReady cached = .ok start)
    (h : Run Step start history s) :
    ∀ participant ∈ s.participants, participant.control.LeaseBound := by
  refine h.invariant (p := fun s => ∀ participant ∈ s.participants, participant.control.LeaseBound)
    (fun _ _ _ => controls_step fun _ _ _ => ParticipantScheduleMachine.leaseBound_step) ?_
  intro participant hmem
  obtain ⟨-, descriptor, bootId, hnew⟩ := new_of_afterCachedArtifacts hbuilt hmem
  exact ParticipantScheduleMachine.leaseBound_new hnew

end DistributedScheduleCoordinator

end Alumina.Client
