import Alumina.Spec.StartSafety

/-!
# One participant per device

A coordinator looks its participants up by device identity, in a table it sorted when it was
built. Nothing compares neighbouring identities there, so the table has one participant per
device exactly when no identity was cached twice.

## Key results

- `indexOf_of_distinct`: over every run a lookup finds the participant of the device
- `served_of_step`: a request is pending at the participant its device is looked up as
- `participantIdentity`: the identity property, exactly under distinct identities
-/

namespace Alumina.Client

open Alumina.Graph (DeviceId)

theorem deviceKey_injective : Function.Injective deviceKey := by
  intro a b h
  have hbytes : Function.Injective UInt8.toNat := fun _ _ => UInt8.toNat_inj.1
  exact Subtype.ext (List.map_injective_iff.2 hbytes h)

namespace DistributedScheduleCoordinator

section Runs

variable [JobWire] [ClockEstimation]

variable {identity : DistributedJobIdentity} {cacheReady : List ParticipantCacheReady}
  {cached : List CachedParticipantSchedule} {start s t : DistributedScheduleCoordinator}
  {participant : ParticipantCoordinator} {history : List (Call × Outcome)}

/-! ## Construction -/

/-- The cache proofs in device order. -/
abbrev sortedReady (cacheReady : List ParticipantCacheReady) : List ParticipantCacheReady :=
  Table.sortByKey (fun item => deviceKey item.deviceId) cacheReady

/-- The cached schedules in device order. -/
abbrev sortedCached (cached : List CachedParticipantSchedule) : List CachedParticipantSchedule :=
  Table.sortByKey (fun item => deviceKey item.deviceId) cached

/-- Cache proofs, cached schedules and participants are paired in device order. -/
theorem devices_of_built (h : afterCachedArtifacts identity cacheReady cached = .ok start) :
    start.participants.map (·.deviceId) = (sortedCached cached).map (·.deviceId) ∧
      start.participants.map (·.deviceId) = (sortedReady cacheReady).map (·.deviceId) := by
  obtain ⟨hlength, hall, -, -⟩ := participants_of_afterCachedArtifacts h
  have hlength' : (sortedReady cacheReady).length = (sortedCached cached).length := by
    rw [Table.length_sortByKey, Table.length_sortByKey, hlength]
  have hcached := hall.map_eq_map (f := fun pair => pair.2.deviceId) (g := (·.deviceId))
    fun pair participant hbind => by
      obtain ⟨-, control, -, rfl⟩ := bindParticipant_eq_ok.1 hbind
      rfl
  have hready := hall.map_eq_map (f := fun pair => pair.1.deviceId) (g := (·.deviceId))
    fun pair participant hbind => by
      obtain ⟨hsame, control, -, rfl⟩ := bindParticipant_eq_ok.1 hbind
      exact hsame.1
  have hsnd := congrArg (List.map (·.deviceId))
    (List.map_snd_zip (Nat.le_of_eq hlength'.symm) : _ = sortedCached cached)
  have hfst := congrArg (List.map (·.deviceId))
    (List.map_fst_zip (Nat.le_of_eq hlength') : _ = sortedReady cacheReady)
  rw [List.map_map] at hsnd hfst
  exact ⟨hcached.symm.trans hsnd, hready.symm.trans hfst⟩

/-- Cached identities are distinct when the participants' are, and the other way. -/
theorem nodup_iff_of_built (h : afterCachedArtifacts identity cacheReady cached = .ok start) :
    (start.participants.map (·.deviceId)).Nodup ↔ (cached.map (·.deviceId)).Nodup := by
  rw [(devices_of_built h).1]
  exact (Table.sortByKey_perm.map _).nodup_iff

/-- Cache proofs and cached schedules name the same devices. -/
theorem perm_of_built (h : afterCachedArtifacts identity cacheReady cached = .ok start) :
    (cacheReady.map (·.deviceId)).Perm (cached.map (·.deviceId)) := by
  obtain ⟨hcached, hready⟩ := devices_of_built h
  calc (cacheReady.map (·.deviceId)).Perm ((sortedReady cacheReady).map (·.deviceId)) :=
        (Table.sortByKey_perm.map _).symm
    _ = (sortedCached cached).map (·.deviceId) := hready.symm.trans hcached
    List.Perm _ (cached.map (·.deviceId)) := Table.sortByKey_perm.map _

omit [JobWire] [ClockEstimation] in
private theorem keys_nodup {α : Type} (device : α → DeviceId) {xs : List α}
    (h : (xs.map device).Nodup) : (xs.map fun x => deviceKey (device x)).Nodup := by
  have hkeys := h.map deviceKey_injective
  rwa [List.map_map] at hkeys

/-- The participants are in strictly increasing device order. -/
theorem increasing_of_built (h : afterCachedArtifacts identity cacheReady cached = .ok start)
    (hdistinct : (cached.map (·.deviceId)).Nodup) :
    (start.participants.map fun participant => deviceKey participant.deviceId).Pairwise
      (· < ·) := by
  have hkeys := congrArg (List.map deviceKey) (devices_of_built h).1
  rw [List.map_map, List.map_map] at hkeys
  have hsorted : Table.Sorted (fun item => deviceKey item.deviceId) (sortedCached cached) :=
    Table.sortByKey_sorted
  have hstrict := hsorted.strict ((Table.sortByKey_perm.map _).nodup_iff.2
    (keys_nodup CachedParticipantSchedule.deviceId hdistinct))
  exact hkeys ▸ hstrict

/-- The inputs may come in any order. -/
theorem order_of_built (h : afterCachedArtifacts identity cacheReady cached = .ok start)
    (hdistinct : (cached.map (·.deviceId)).Nodup) {cacheReady' : List ParticipantCacheReady}
    {cached' : List CachedParticipantSchedule} (hready : cacheReady'.Perm cacheReady)
    (hcached : cached'.Perm cached) :
    afterCachedArtifacts identity cacheReady' cached' = .ok start := by
  have hdistinct' : (cacheReady.map (·.deviceId)).Nodup := (perm_of_built h).nodup_iff.2 hdistinct
  have hsortedReady := Table.sortByKey_congr hready.symm (keys_nodup ParticipantCacheReady.deviceId hdistinct')
  have hsortedCached := Table.sortByKey_congr hcached.symm (keys_nodup CachedParticipantSchedule.deviceId hdistinct)
  have hempty : cacheReady' = [] ↔ cacheReady = [] := by
    rw [← List.length_eq_zero_iff, ← List.length_eq_zero_iff, hready.length_eq]
  rw [afterCachedArtifacts] at h ⊢
  rw [← hsortedReady, ← hsortedCached, hready.length_eq, hcached.length_eq]
  simpa only [hempty] using h

/-! ## Lookups -/

/-- Over every run a lookup finds the participant of the device. -/
theorem indexOf_of_distinct (hbuilt : afterCachedArtifacts identity cacheReady cached = .ok start)
    (hdistinct : (cached.map (·.deviceId)).Nodup) (h : Run Step start history s) {i : Nat}
    (hi : s.participants[i]? = some participant) : s.indexOf participant.deviceId = some i := by
  have hdevices : s.participants.map (·.deviceId) = start.participants.map (·.deviceId) :=
    h.invariant
      (p := fun s => s.participants.map (·.deviceId) = start.participants.map (·.deviceId))
      (fun _ _ _ hstep hs => (devices_step hstep).trans hs) rfl
  have hkeys := congrArg (List.map deviceKey) hdevices
  rw [List.map_map, List.map_map] at hkeys
  have hincreasing := increasing_of_built hbuilt hdistinct
  have hstrict : (s.participants.map fun participant => deviceKey participant.deviceId).Pairwise
      (· < ·) := hkeys ▸ hincreasing
  refine (Table.binarySearch_iff ?_ (hstrict.imp fun h => ne_of_lt h)).2 (by rw [hi]; rfl)
  exact List.pairwise_map.1 (hstrict.imp fun h => le_of_lt h)

/-- A lookup of a participant's device acts on that participant alone. -/
structure RoutesTo (s : DistributedScheduleCoordinator) (i : Nat)
    (participant : ParticipantCoordinator) : Prop where
  lookup : s.participant participant.deviceId = some participant
  response : ∀ response, (s.acceptResponse participant.deviceId response).1.participants =
    s.participants.set i
      { participant with control := (participant.control.acceptResponse response).1 }
  abandon : (s.abandonPending participant.deviceId).1.participants =
    s.participants.set i { participant with control := participant.control.abandonPending.1 }

omit [JobWire] [ClockEstimation] in
private theorem setControl_eq_set {i : Nat} {control : ParticipantScheduleMachine jobAxes}
    (hi : s.participants[i]? = some participant) :
    (s.setControl i control).participants = s.participants.set i { participant with control } := by
  apply List.ext_getElem?
  intro j
  by_cases hij : i = j
  · subst hij
    rw [getElem?_setControl_self hi, List.getElem?_set_self (List.getElem?_eq_some_iff.1 hi).1]
  · rw [getElem?_setControl_ne hij, List.getElem?_set_ne hij]

theorem routesTo_of_indexOf {i : Nat} (hi : s.participants[i]? = some participant)
    (hindex : s.indexOf participant.deviceId = some i) : s.RoutesTo i participant where
  lookup := by
    rw [DistributedScheduleCoordinator.participant, hindex]
    exact hi
  response := by
    intro response
    unfold acceptResponse
    rw [hindex]
    simp only [hi]
    exact (participants_settled s i _).trans (setControl_eq_set hi)
  abandon := by
    unfold abandonPending
    rw [hindex]
    simp only [hi]
    exact setControl_eq_set hi

/-- An emitted request is pending at one participant, and was not before. -/
theorem served_of_step {e : Call × Outcome} (h : Step s e t)
    {request : DistributedScheduleRequest} (hrequest : request ∈ e.2.emitted) :
    ∃ (i : Nat) (before after : ParticipantCoordinator), s.participants[i]? = some before ∧
      t.participants[i]? = some after ∧ before.control.pending = none ∧
      after.control.pending.isSome ∧ after.deviceId = request.deviceId := by
  obtain ⟨call, outcome⟩ := e
  cases perform_cases h with
  | refused _ _ quiet undone =>
    rw [quiet] at hrequest
    cases hrequest
  | requested i participant operation control running index asked earlier =>
    simp only [Outcome.emitted, Option.toList_some, List.mem_singleton] at hrequest
    subst hrequest
    obtain ⟨call, -, hissues⟩ := asks_of_nextOperation asked
    obtain ⟨hquiet, hpending⟩ := pending_of_issues hissues
    exact ⟨i, participant, _, index, getElem?_setControl_self index, hquiet, hpending, rfl⟩
  | queried quiet =>
    simp only [Outcome.emitted, List.mem_map] at hrequest
    obtain ⟨participant, hmem, rfl⟩ := hrequest
    obtain ⟨i, hi⟩ := List.mem_iff_getElem?.1 hmem
    exact ⟨i, participant, participant.querying, hi, by simp [hi], quiet participant hmem, rfl, rfl⟩
  | renewed renewals staged requests attended phase all aligned opened =>
    obtain ⟨-, hrequests, hall⟩ := renewEach_eq_ok (by rw [Table.length_sortByKey, all]) opened
    obtain ⟨i, hi⟩ := List.mem_iff_getElem?.1 hrequest
    have hlt : i < s.participants.length := by
      rw [← hrequests]
      exact (List.getElem?_eq_some_iff.1 hi).1
    have hrenewal : i < (Table.sortByKey (fun renewal => deviceKey renewal.deviceId)
        renewals).length := by
      rw [Table.length_sortByKey, all]
      exact hlt
    obtain ⟨after, renewed, hafter, hi', operation, control, hrenew, rfl, rfl⟩ :=
      hall i _ _ (List.getElem?_eq_getElem hlt) (List.getElem?_eq_getElem hrenewal)
    obtain rfl := Option.some.inj (hi'.symm.trans hi)
    obtain ⟨hquiet, hpending⟩ :=
      pending_of_issues (ParticipantScheduleMachine.beginLeaseRenew_issues hrenew)
    exact ⟨i, _, _, List.getElem?_eq_getElem hlt, hafter, hquiet, hpending, rfl⟩
  | _ => cases hrequest

/-! ## Identity -/

/-- Participant identity: one participant per device in increasing order, one cache proof
and one cached schedule for each, whatever the order they came in, and responses that reach
the participant a request was emitted for. -/
structure UniqueIdentity (identity : DistributedJobIdentity)
    (cacheReady : List ParticipantCacheReady) (cached : List CachedParticipantSchedule)
    (start : DistributedScheduleCoordinator) : Prop where
  increasing : (start.participants.map fun participant =>
    deviceKey participant.deviceId).Pairwise (· < ·)
  devices : (start.participants.map (·.deviceId)).Perm (cached.map (·.deviceId)) ∧
    (cacheReady.map (·.deviceId)).Perm (cached.map (·.deviceId))
  paired : ∀ ready ∈ cacheReady, ∃! schedule, schedule ∈ cached ∧
    schedule.deviceId = ready.deviceId ∧ schedule.descriptor.partition = ready.partition ∧
    ready.globalManifest = identity.globalManifest
  order : ∀ cacheReady' cached', cacheReady'.Perm cacheReady → cached'.Perm cached →
    afterCachedArtifacts identity cacheReady' cached' = .ok start
  lookup : ∀ history s i participant, Run Step start history s →
    s.participants[i]? = some participant → s.RoutesTo i participant
  routing : ∀ history s e t request, Run Step start history s → Step s e t →
    request ∈ e.2.emitted → ∃ i before after, s.participants[i]? = some before ∧
      before.control.pending = none ∧ t.participants[i]? = some after ∧
      after.control.pending.isSome ∧ t.participant request.deviceId = some after ∧
      t.RoutesTo i after

private theorem paired_of_built (h : afterCachedArtifacts identity cacheReady cached = .ok start)
    (hdistinct : (cached.map (·.deviceId)).Nodup) {ready : ParticipantCacheReady}
    (hmem : ready ∈ cacheReady) :
    ∃! schedule, schedule ∈ cached ∧ schedule.deviceId = ready.deviceId ∧
      schedule.descriptor.partition = ready.partition ∧
      ready.globalManifest = identity.globalManifest := by
  obtain ⟨hlength, hall, -, -⟩ := participants_of_afterCachedArtifacts h
  have hsorted : (sortedReady cacheReady).length = (sortedCached cached).length := by
    rw [Table.length_sortByKey, Table.length_sortByKey, hlength]
  obtain ⟨schedule, hschedule, hpair⟩ :=
    List.exists_zip_of_mem hsorted (Table.mem_sortByKey.2 hmem)
  obtain ⟨participant, -, hbind⟩ := hall.exists_of_mem_left hpair
  obtain ⟨⟨hdevice, hpartition, hmanifest⟩, -⟩ := bindParticipant_eq_ok.1 hbind
  have hcached := Table.mem_sortByKey.1 hschedule
  refine ⟨schedule, ⟨hcached, hdevice.symm, hpartition.symm, hmanifest⟩, ?_⟩
  rintro other ⟨hother, hsame, -⟩
  exact List.inj_on_of_nodup_map hdistinct hother hcached (hsame.trans hdevice)

/-- Participant identity holds exactly when no device was cached twice. -/
theorem participantIdentity
    (hbuilt : afterCachedArtifacts identity cacheReady cached = .ok start) :
    UniqueIdentity identity cacheReady cached start ↔ (cached.map (·.deviceId)).Nodup := by
  refine ⟨fun h => ?_, fun hdistinct => ?_⟩
  · -- strictly increasing identities do not repeat
    rw [← nodup_iff_of_built hbuilt, List.Nodup, List.pairwise_map]
    refine (List.pairwise_map.1 h.increasing).imp ?_
    intro a b hlt heq
    rw [heq] at hlt
    exact lt_irrefl _ hlt
  have hlookup : ∀ history s i participant, Run Step start history s →
      s.participants[i]? = some participant → s.RoutesTo i participant := by
    intro history s i participant hrun hi
    exact routesTo_of_indexOf hi (indexOf_of_distinct hbuilt hdistinct hrun hi)
  refine ⟨increasing_of_built hbuilt hdistinct, ⟨?_, perm_of_built hbuilt⟩,
    fun _ => paired_of_built hbuilt hdistinct, fun _ _ => order_of_built hbuilt hdistinct,
    hlookup, ?_⟩
  · rw [(devices_of_built hbuilt).1]
    exact Table.sortByKey_perm.map _
  · intro history s e t request hrun hstep hrequest
    obtain ⟨i, before, after, hbefore, hafter, hquiet, hpending, hdevice⟩ :=
      served_of_step hstep hrequest
    have hroutes := hlookup _ t i after (hrun.snoc hstep) hafter
    exact ⟨i, before, after, hbefore, hquiet, hafter, hpending, hdevice ▸ hroutes.lookup, hroutes⟩

end Runs

/-! ## Two devices -/

section Sample

open HostLibrary

theorem participantIdentity_sample :
    UniqueIdentity sampleIdentity [sampleReady deviceA, sampleReady deviceB]
      [sampleCached deviceA, sampleCached deviceB] (sampleStart [deviceA, deviceB]) :=
  (participantIdentity sampleStart_built).2 (by decide)

/-- A device that is cached twice becomes two participants. -/
theorem participantIdentity_fails :
    ¬ ∀ identity cacheReady cached start,
        afterCachedArtifacts identity cacheReady cached = .ok start →
        UniqueIdentity identity cacheReady cached start := by
  intro h
  have hunique := h sampleIdentity [sampleReady deviceA, sampleReady deviceA]
    [sampleCached deviceA, sampleCached deviceA] (sampleStart [deviceA, deviceA]) rfl
  have hincreasing := hunique.increasing
  revert hincreasing
  decide

end Sample

end DistributedScheduleCoordinator

end Alumina.Client
