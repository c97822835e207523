import Alumina.Spec.ParticipantIdentity

/-!
# Binding a start

A start is bound by planning one commit per participant and writing them only when all were
planned. A ready coordinator has heard from every participant, and a response only ever
reaches one participant of a device, so its devices are distinct and the sorted inputs are
the same whatever order they came in.

## Key results

- `ceilProductRatio_eq_ok`: the 128-bit ratio is the exact ceiling
- `planned_of_planCommit`: what a planned commit satisfies
- `distinct_of_ready`: a ready coordinator has one participant per device
- `startBinding`: binding is atomic, ordered and independent of the input order, and lease
  renewals are atomic
-/

namespace Alumina.Client

open Alumina.Graph (DeviceId)

namespace DistributedScheduleCoordinator

section Planning

variable [JobWire] [ClockEstimation]

variable {s t : DistributedScheduleCoordinator} {participant : ParticipantCoordinator}
  {nowUiNs targetUiNs : UInt64} {input : ParticipantStartInput} {commit : JobCommitRequest}

/-! ## Timing -/

/-- The 128-bit ratio is the exact ceiling. -/
theorem ceilProductRatio_eq_ok {value multiplier divisor rounded : UInt64}
    (h : ceilProductRatio value multiplier divisor = .ok rounded) :
    rounded.toNat = (value.toNat * multiplier.toNat) ⌈/⌉ divisor.toNat := by
  simp only [ceilProductRatio, Except.bind_eq_ok, Except.exists_unit, Except.failIf_eq_ok,
    Except.pure_eq_ok, not_le] at h
  obtain ⟨hdivisor, -, -, hfits, rfl⟩ := h
  have hpos : 0 < divisor.toNat := by
    rw [Nat.pos_iff_ne_zero]
    intro hzero
    exact hdivisor (UInt64.toNat_inj.1 hzero)
  rw [UInt64.toNat_ofNat_of_lt' hfits, Nat.ceilDiv_eq_add_pred_div]
  congr 1
  omega

/-! ## One commit -/

/-- A commit planned for a participant of a coordinator from its input. -/
structure PlannedFrom (s : DistributedScheduleCoordinator) (nowUiNs targetUiNs : UInt64)
    (participant : ParticipantCoordinator) (input : ParticipantStartInput)
    (commit : JobCommitRequest) (prediction : ClockPrediction)
    (latest : ClockHeartbeatResponse) : Prop where
  device : input.deviceId = participant.deviceId
  predicted : input.clock.predict nowUiNs targetUiNs input.timing.maximumUncertaintyCycles =
    .ok prediction
  heartbeat : input.clock.latestResponse = some latest
  /-- The deadlines are strictly ordered in the device's cycles. -/
  ordered : prediction.nowLatestCycle < commit.confirmDeadlineCycle ∧
    commit.confirmDeadlineCycle < commit.abortGuardCycle ∧
    commit.abortGuardCycle < commit.localStartCycle ∧
    commit.localStartCycle < commit.leaseExpiryCycle
  start : commit.localStartCycle = prediction.scheduledCycle
  /-- The uncertainty is within the required tolerance. -/
  tolerance : commit.clockUncertaintyCycles = prediction.uncertaintyCycles ∧
    commit.requiredSyncToleranceCycles = input.timing.requiredSyncToleranceCycles ∧
    commit.clockUncertaintyCycles ≤ commit.requiredSyncToleranceCycles
  /-- All identities are the participant's own, of its current boot. -/
  identity : commit.prepareId = participant.control.descriptor.prepareId ∧
    commit.bootId = participant.control.bootId ∧
    commit.preparedToken = participant.control.preparedToken ∧
    commit.partitionDigest = participant.control.descriptor.partition.object.content.digest ∧
    commit.globalJobDigest = s.globalJobDigest ∧
    commit.participantSetDigest = s.participantSetDigest ∧
    commit.policy = s.networkPolicy ∧ commit.commitId = input.timing.commitId ∧
    commit.clockProbeId = prediction.latestProbeId
  clock : input.clock.bootId = some participant.control.bootId ∧
    prediction.bootId = participant.control.bootId ∧ prediction.nowUiNs = nowUiNs ∧
    prediction.targetUiNs = targetUiNs
  /-- The lease of an autonomous job covers the whole job in device cycles. -/
  lease : s.networkPolicy = .cachedAutonomous →
    (s.durationTicks.toNat * latest.frequencyHz.toNat) ⌈/⌉ s.globalTimebaseHz.toNat ≤
      commit.leaseExpiryCycle.toNat - commit.localStartCycle.toNat

theorem planned_of_planCommit
    (h : s.planCommit nowUiNs targetUiNs participant input = .ok commit) :
    ∃ prediction latest,
      PlannedFrom s nowUiNs targetUiNs participant input commit prediction latest := by
  simp only [planCommit, checkInput, validateTiming, Except.bind_eq_ok, Except.exists_unit,
    Except.failIf_eq_ok, Except.mapError_eq_ok, Option.okOr_eq_ok, Except.pure_eq_ok, not_or,
    not_not, not_and, UInt64.not_le, UInt64.not_lt] at h
  obtain ⟨⟨hdevice, hboot⟩, htiming, prediction, hprediction, latest, hlatest,
    ⟨hpboot, htarget, hnow, htolerance⟩, confirm, hconfirm, abort, habort, lease, hlease,
    ⟨hopen, hconfirmAbort, habortStart⟩, required, hrequired, hcovers, body, hbody, rfl⟩ := h
  have hleasePos := htiming.2.2.2.2.2
  rw [UInt64.checkedAdd_eq_some] at hlease
  have hleaseNat : 0 < input.timing.leaseCycles.toNat := by
    rw [Nat.pos_iff_ne_zero]
    intro hzero
    exact hleasePos (UInt64.toNat_inj.1 hzero)
  refine ⟨prediction, latest, hdevice, hprediction, hlatest,
    ⟨hopen, hconfirmAbort, habortStart, ?_⟩, rfl, ⟨rfl, rfl, htolerance⟩,
    ⟨rfl, rfl, rfl, rfl, rfl, rfl, rfl, rfl, rfl⟩, ⟨hboot, hpboot, hnow, htarget⟩, ?_⟩
  · show prediction.scheduledCycle < lease
    rw [UInt64.lt_iff_toNat_lt]
    omega
  · intro hpolicy
    have hle := UInt64.le_iff_toNat_le.1 (hcovers hpolicy)
    rw [ceilProductRatio_eq_ok hrequired] at hle
    show _ ≤ lease.toNat - prediction.scheduledCycle.toNat
    omega

/-! ## Distinct devices -/

variable {identity : DistributedJobIdentity} {cacheReady : List ParticipantCacheReady}
  {cached : List CachedParticipantSchedule} {start : DistributedScheduleCoordinator}
  {history : List (Call × Outcome)}

/-- Participants that have reported are the ones their devices are looked up as. -/
def ReportedFound (s : DistributedScheduleCoordinator) : Prop :=
  ∀ i participant, s.participants[i]? = some participant →
    participant.control.report.isSome → s.indexOf participant.deviceId = some i

omit [JobWire] [ClockEstimation] in
/-- A lookup depends on the devices alone. -/
theorem indexOf_congr
    (h : t.participants.map (·.deviceId) = s.participants.map (·.deviceId))
    (deviceId : DeviceId) : t.indexOf deviceId = s.indexOf deviceId := by
  have hkeys := congrArg (List.map deviceKey) h
  rw [List.map_map, List.map_map] at hkeys
  rw [indexOf, indexOf, Table.binarySearch_map _ _ t.participants,
    Table.binarySearch_map _ _ s.participants]
  exact congrArg (Table.binarySearch id (deviceKey deviceId)) hkeys

/-- A response reaches only the participant its device is looked up as. -/
theorem reportedFound_step {e : Call × Outcome} (h : Step s e t) (hs : s.ReportedFound) :
    t.ReportedFound := by
  intro i participant' hi hreport
  obtain ⟨participant, hp, hdevice, -, -⟩ := participants_step h hi
  rw [indexOf_congr (devices_step h), hdevice]
  by_cases haccept : ∃ deviceId response, e.1 = .acceptResponse deviceId response
  · obtain ⟨deviceId, response, hcall⟩ := haccept
    obtain ⟨call, outcome⟩ := e
    obtain rfl : call = .acceptResponse deviceId response := hcall
    cases perform_cases h with
    | refused _ _ quiet undone =>
      obtain rfl := Option.some.inj (hp.symm.trans hi)
      exact hs i participant hp hreport
    | accepted _ _ result j found hfound hj =>
      by_cases hij : j = i
      · subst hij
        -- the device looked up is the participant's own
        have hkey := Table.binarySearch_eq_some hfound
        rw [hp, Option.map_some, Option.some.injEq] at hkey
        rw [deviceKey_injective hkey]
        exact hfound
      · rw [participants_settled, getElem?_setControl_ne hij, hp, Option.some.injEq] at hi
        subst hi
        exact hs i participant hp hreport
  · -- no other call changes a report
    have hreports := reports_step h fun deviceId response hcall =>
      haccept ⟨deviceId, response, hcall⟩
    have hsame : participant'.control.report = participant.control.report := by
      have hat := congrArg (·[i]?) hreports
      simp only [List.getElem?_map, hi, hp, Option.map_some, Option.some.injEq] at hat
      exact hat
    exact hs i participant hp (hsame ▸ hreport)

/-- A ready coordinator has one participant per device. -/
theorem distinct_of_ready (hbuilt : afterCachedArtifacts identity cacheReady cached = .ok start)
    (hrun : Run Step start history s) (hready : s.phase = .ready) :
    (s.participants.map (·.deviceId)).Nodup := by
  have hfound : s.ReportedFound := by
    refine hrun.invariant (p := ReportedFound)
      (fun _ _ _ hstep hs => reportedFound_step hstep hs) ?_
    intro i participant hi hreport
    obtain ⟨-, descriptor, bootId, hnew⟩ :=
      new_of_afterCachedArtifacts hbuilt (List.mem_of_getElem? hi)
    rw [(ParticipantScheduleMachine.state_new hnew).2.2.1] at hreport
    cases hreport
  have hreported : ∀ participant ∈ s.participants, participant.control.report.isSome := by
    have hintent : s.intent = .prepare := intent_of_phase (by rw [hready]; rfl)
    unfold phase at hready
    simp only [hintent] at hready
    split at hready
    · cases hready
    · split at hready
      · cases hready
      · next hall =>
        simpa [Option.isSome_iff_ne_none] using hall
  rw [List.nodup_iff_injective_get]
  intro i j heq
  simp only [List.get_eq_getElem, List.getElem_map] at heq
  have hi : i.val < s.participants.length := by simpa using i.isLt
  have hj : j.val < s.participants.length := by simpa using j.isLt
  have hati := hfound i.val _ (List.getElem?_eq_getElem hi) (hreported _ (List.getElem_mem hi))
  have hatj := hfound j.val _ (List.getElem?_eq_getElem hj) (hreported _ (List.getElem_mem hj))
  rw [heq, hatj, Option.some.injEq] at hati
  exact Fin.ext hati.symm

/-! ## Input order -/

variable {inputs inputs' : List ParticipantStartInput}

/-- A start that was bound had one input for each participant's device. -/
theorem devices_of_bound (h : s.bindStart nowUiNs targetUiNs inputs = .ok t) :
    (inputs.map (·.deviceId)).Perm (s.participants.map (·.deviceId)) := by
  simp only [bindStart, Except.bind_eq_ok, Except.exists_unit, Except.failIf_eq_ok,
    not_not] at h
  obtain ⟨-, hlength, commits, hcommits, -⟩ := h
  have hsorted : (Table.sortByKey (fun input => deviceKey input.deviceId) inputs).length =
      s.participants.length := by
    rw [Table.length_sortByKey, hlength]
  have hall : ∀ pair ∈ s.alignInputs inputs, pair.2.deviceId = pair.1.deviceId := by
    intro pair hpair
    obtain ⟨commit, -, hcommit⟩ := (Except.mapM_eq_ok hcommits).exists_of_mem_left hpair
    obtain ⟨prediction, latest, hplanned⟩ := planned_of_planCommit hcommit
    exact hplanned.device
  have hsame := List.map_congr_left hall
  have hsnd := congrArg (List.map ParticipantStartInput.deviceId)
    (List.map_snd_zip (Nat.le_of_eq hsorted))
  have hfst := congrArg (List.map ParticipantCoordinator.deviceId)
    (List.map_fst_zip (Nat.le_of_eq hsorted.symm))
  rw [List.map_map] at hsnd hfst
  have hdevices : (Table.sortByKey (fun input => deviceKey input.deviceId) inputs).map
      (·.deviceId) = s.participants.map (·.deviceId) := hsnd.symm.trans (hsame.trans hfst)
  rw [← hdevices]
  exact (Table.sortByKey_perm.map _).symm

/-- Binding does not depend on the order of inputs of distinct devices. -/
theorem bindStart_congr (hperm : inputs'.Perm inputs)
    (hdistinct : (inputs.map (·.deviceId)).Nodup) :
    s.bindStart nowUiNs targetUiNs inputs' = s.bindStart nowUiNs targetUiNs inputs := by
  have hkeys := hdistinct.map deviceKey_injective
  rw [List.map_map] at hkeys
  have hsorted : s.alignInputs inputs' = s.alignInputs inputs :=
    congrArg s.participants.zip (Table.sortByKey_congr hperm.symm hkeys).symm
  simp only [bindStart, hsorted, hperm.length_eq]

/-! ## Binding -/

/-- A coordinator with one commit bound to each participant, and nothing else changed but
the target and the intent. -/
structure BoundFrom (s : DistributedScheduleCoordinator) (nowUiNs targetUiNs : UInt64)
    (inputs : List ParticipantStartInput) (t : DistributedScheduleCoordinator) : Prop where
  changed : t = { s with
    participants := t.participants, targetUiNs := some targetUiNs, intent := .install }
  commits : List.Forall₂ (fun participant participant' =>
    ∃ input ∈ inputs, ∃ commit prediction latest,
      participant' = { participant with plannedCommit := some commit } ∧
        PlannedFrom s nowUiNs targetUiNs participant input commit prediction latest)
    s.participants t.participants

theorem boundFrom_of_bindStart (h : s.bindStart nowUiNs targetUiNs inputs = .ok t) :
    BoundFrom s nowUiNs targetUiNs inputs t := by
  simp only [bindStart, Except.bind_eq_ok, Except.exists_unit, Except.failIf_eq_ok, not_not,
    Except.pure_eq_ok] at h
  obtain ⟨-, hlength, commits, hcommits, rfl⟩ := h
  refine ⟨rfl, ?_⟩
  have hpairs := (Except.mapM_eq_ok hcommits).zipWith_of_zip
    (f := fun participant commit => { participant with plannedCommit := some commit })
    (by rw [Table.length_sortByKey, hlength])
  refine hpairs.imp ?_
  rintro participant participant' ⟨input, hinput, commit, hcommit, rfl⟩
  obtain ⟨prediction, latest, hplanned⟩ := planned_of_planCommit hcommit
  exact ⟨input, Table.mem_sortByKey.1 hinput, commit, prediction, latest, rfl, hplanned⟩

/-- Binding a start changes nothing or binds every participant, and whether it does, and to
what, does not depend on the order of the inputs. Inputs of distinct devices are refused
with the same error too. -/
structure BindsAtomically (s : DistributedScheduleCoordinator) : Prop where
  atomic : ∀ nowUiNs targetUiNs inputs outcome t,
    Step s (.bindStart nowUiNs targetUiNs inputs, outcome) t →
    (∃ error, outcome = .done (.error error)) ∧ t = s ∨
      outcome = .done (.ok ()) ∧ BoundFrom s nowUiNs targetUiNs inputs t
  order : ∀ nowUiNs targetUiNs inputs inputs', inputs'.Perm inputs →
    (s.bindStart nowUiNs targetUiNs inputs').toOption =
        (s.bindStart nowUiNs targetUiNs inputs).toOption ∧
      ((inputs.map (·.deviceId)).Nodup →
        s.bindStart nowUiNs targetUiNs inputs' = s.bindStart nowUiNs targetUiNs inputs)

/-- With one participant per device, inputs that bind a start bind it in every order. -/
private theorem bindStart_of_perm (hdistinct : (s.participants.map (·.deviceId)).Nodup)
    (hperm : inputs'.Perm inputs) (h : s.bindStart nowUiNs targetUiNs inputs = .ok t) :
    s.bindStart nowUiNs targetUiNs inputs' = .ok t := by
  rw [bindStart_congr hperm ((devices_of_bound h).nodup_iff.2 hdistinct), h]

theorem bindsAtomically_of_distinct (hdistinct : (s.participants.map (·.deviceId)).Nodup) :
    s.BindsAtomically where
  atomic := by
    intro nowUiNs targetUiNs inputs outcome t h
    have hperform : s.changed (s.bindStart nowUiNs targetUiNs inputs) = (t, outcome) := h
    cases hresult : s.bindStart nowUiNs targetUiNs inputs with
    | error error =>
      rw [hresult] at hperform
      cases hperform
      exact Or.inl ⟨⟨error, rfl⟩, rfl⟩
    | ok bound =>
      rw [hresult] at hperform
      cases hperform
      exact Or.inr ⟨rfl, boundFrom_of_bindStart hresult⟩
  order := by
    intro nowUiNs targetUiNs inputs inputs' hperm
    refine ⟨?_, bindStart_congr hperm⟩
    cases hresult : s.bindStart nowUiNs targetUiNs inputs with
    | ok bound => rw [bindStart_of_perm hdistinct hperm hresult]
    | error error =>
      cases hresult' : s.bindStart nowUiNs targetUiNs inputs' with
      | error error' => rfl
      | ok bound =>
        rw [bindStart_of_perm hdistinct hperm.symm hresult'] at hresult
        cases hresult

/-! ## Renewals -/

/-- A coordinator with a lease renewal opened on every participant, and nothing else
changed. -/
structure RenewedFrom (s : DistributedScheduleCoordinator)
    (renewals : List ParticipantLeaseRenewal) (requests : List DistributedScheduleRequest)
    (t : DistributedScheduleCoordinator) : Prop where
  changed : t = { s with participants := t.participants }
  lengths : t.participants.length = s.participants.length ∧
    requests.length = s.participants.length
  opened : ∀ (i : Nat) (participant : ParticipantCoordinator),
    s.participants[i]? = some participant → ∃ renewal ∈ renewals,
      renewal.deviceId = participant.deviceId ∧ t.participants[i]? = some { participant with
        control := { participant.control with
          authorizedLeaseExpiryCycle := some renewal.leaseExpiryCycle
          pending := some .renewLease } } ∧
      ∃ body, requests[i]? = some ⟨participant.deviceId, ⟨.jobLeaseRenew, body⟩⟩

/-- A lease renewal changes nothing or opens one on every participant. -/
def RenewsAtomically (s : DistributedScheduleCoordinator) : Prop :=
  ∀ renewals outcome t, Step s (.beginLeaseRenewal renewals, outcome) t →
    (∃ error, outcome = .round (.error error)) ∧ t = s ∨
      ∃ requests, outcome = .round (.ok requests) ∧ RenewedFrom s renewals requests t

theorem renewsAtomically (s : DistributedScheduleCoordinator) : s.RenewsAtomically := by
  intro renewals outcome t h
  have hperform : ((s.beginLeaseRenewal renewals).1,
      Outcome.round (s.beginLeaseRenewal renewals).2) = (t, outcome) := h
  rcases s.beginLeaseRenewal_cases renewals with
    ⟨error, hresult⟩ | ⟨staged, requests, hresult, -, -, hall, haligned, hopened⟩
  · rw [hresult] at hperform
    cases hperform
    exact Or.inl ⟨⟨error, rfl⟩, rfl⟩
  · rw [hresult] at hperform
    cases hperform
    refine Or.inr ⟨requests, rfl, ?_⟩
    obtain ⟨hstaged, hrequests, heach⟩ :=
      renewEach_eq_ok (by rw [Table.length_sortByKey, hall]) hopened
    refine ⟨rfl, ⟨hstaged, hrequests⟩, ?_⟩
    intro i participant hi
    have hlt : i < s.participants.length := (List.getElem?_eq_some_iff.1 hi).1
    have hrenewal : i < (Table.sortByKey (fun renewal => deviceKey renewal.deviceId)
        renewals).length := by
      rw [Table.length_sortByKey, hall]
      exact hlt
    obtain ⟨participant', request, hi', hrequest, operation, control, hrenew, rfl, rfl⟩ :=
      heach i participant _ hi (List.getElem?_eq_getElem hrenewal)
    refine ⟨_, Table.mem_sortByKey.1 (List.getElem_mem hrenewal), ?_, ?_⟩
    · refine (haligned (participant, _) ?_).symm
      rw [List.mem_iff_getElem?]
      refine ⟨i, ?_⟩
      rw [List.getElem?_zip_eq_some]
      exact ⟨hi, List.getElem?_eq_getElem hrenewal⟩
    · cases ParticipantScheduleMachine.beginLeaseRenew_issues hrenew with
      | renew commit expiry schedule body => exact ⟨hi', body, hrequest⟩

/-- In every reachable coordinator that is ready, binding a start is atomic, ordered and
independent of the input order; lease renewals are atomic in every one. -/
theorem startBinding (hbuilt : afterCachedArtifacts identity cacheReady cached = .ok start)
    (hrun : Run Step start history s) :
    (s.phase = .ready → s.BindsAtomically) ∧ s.RenewsAtomically :=
  ⟨fun hready => bindsAtomically_of_distinct (distinct_of_ready hbuilt hrun hready),
    renewsAtomically s⟩

end Planning

/-! ## Two devices -/

section Sample

open HostLibrary

theorem startBinding_sample :
    (after readyCalls).BindsAtomically ∧ (after readyCalls).RenewsAtomically := by
  have hbinding := startBinding sampleStart_built (run_after readyCalls)
  exact ⟨hbinding.1 (by decide +kernel), hbinding.2⟩

end Sample

end DistributedScheduleCoordinator

end Alumina.Client
