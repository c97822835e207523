import Alumina.Spec.ParticipantIdentity

/-!
# Pending requests

Which request a device has pending is read off a coordinator by a lookup. With this view a
call on the coordinator changes what is pending at one device, or asks every device while
nothing is pending.

## Key results

- `pendingOf_requested`, `pendingOf_accepted`, `pendingOf_abandoned`: calls about one device
- `pendingOf_queried`, `pendingOf_renewed`: rounds over all devices
- `pendingOf_ordered`: an order changes nothing that is pending
-/

namespace Alumina.Client

open Alumina.Graph (DeviceId)

namespace DistributedScheduleCoordinator

section Lookup

variable {s : DistributedScheduleCoordinator} {participant : ParticipantCoordinator}
  {control : ParticipantScheduleMachine jobAxes} {deviceId : DeviceId} {i : Nat}

/-- The devices in the order of the participants. -/
def devices (s : DistributedScheduleCoordinator) : List DeviceId :=
  s.participants.map (·.deviceId)

/-- The request a device has pending. -/
def pendingOf (s : DistributedScheduleCoordinator) (deviceId : DeviceId) :
    Option ScheduleAction :=
  (s.participant deviceId).bind (·.control.pending)

/-- The devices are in strictly increasing order. -/
def Ordered (s : DistributedScheduleCoordinator) : Prop :=
  (s.devices.map deviceKey).Pairwise (· < ·)

theorem indexOf_of_ordered (hs : s.Ordered) (hi : s.participants[i]? = some participant) :
    s.indexOf participant.deviceId = some i := by
  have hstrict : (s.participants.map fun participant => deviceKey participant.deviceId).Pairwise
      (· < ·) := by
    have hkeys := hs
    rwa [Ordered, devices, List.map_map] at hkeys
  refine (Table.binarySearch_iff ?_ (hstrict.imp fun h => ne_of_lt h)).2 (by rw [hi]; rfl)
  exact List.pairwise_map.1 (hstrict.imp fun h => le_of_lt h)

/-- A lookup finds a participant of the device. -/
theorem getElem?_of_indexOf (h : s.indexOf deviceId = some i) :
    ∃ participant, s.participants[i]? = some participant ∧ participant.deviceId = deviceId := by
  obtain ⟨participant, hi, hkey⟩ := Option.map_eq_some_iff.1 (Table.binarySearch_eq_some h)
  exact ⟨participant, hi, deviceKey_injective hkey⟩

theorem participant_eq_some (hs : s.Ordered) : s.participant deviceId = some participant ↔
    participant ∈ s.participants ∧ participant.deviceId = deviceId := by
  constructor
  · intro h
    obtain ⟨i, hindex, hi⟩ := Option.bind_eq_some_iff.1 h
    obtain ⟨found, hfound, hdevice⟩ := getElem?_of_indexOf hindex
    obtain rfl := Option.some.inj (hfound.symm.trans hi)
    exact ⟨List.mem_of_getElem? hi, hdevice⟩
  · rintro ⟨hmem, rfl⟩
    obtain ⟨i, hi⟩ := List.mem_iff_getElem?.1 hmem
    rw [DistributedScheduleCoordinator.participant, indexOf_of_ordered hs hi]
    exact hi

/-- Every device has its participant. -/
theorem exists_participant (hs : s.Ordered) (h : deviceId ∈ s.devices) :
    ∃ participant, s.participant deviceId = some participant := by
  obtain ⟨participant, hmem, rfl⟩ := List.mem_map.1 h
  exact ⟨participant, (participant_eq_some hs).2 ⟨hmem, rfl⟩⟩

theorem pendingOf_eq_some {action : ScheduleAction} (hs : s.Ordered) :
    s.pendingOf deviceId = some action ↔ ∃ participant ∈ s.participants,
      participant.deviceId = deviceId ∧ participant.control.pending = some action := by
  simp only [pendingOf, Option.bind_eq_some_iff, participant_eq_some hs, and_assoc]

/-- Nothing is pending anywhere exactly when it is at no participant. -/
theorem pendingOf_quiet (hs : s.Ordered) :
    (∀ deviceId, s.pendingOf deviceId = none) ↔
      ∀ participant ∈ s.participants, participant.control.pending = none := by
  constructor
  · intro h participant hmem
    cases hpending : participant.control.pending with
    | none => rfl
    | some action =>
      have hsome := (pendingOf_eq_some hs).2 ⟨participant, hmem, rfl, hpending⟩
      rw [h participant.deviceId] at hsome
      cases hsome
  · intro h deviceId
    cases hpending : s.pendingOf deviceId with
    | none => rfl
    | some action =>
      obtain ⟨participant, hmem, -, hsome⟩ := (pendingOf_eq_some hs).1 hpending
      rw [h participant hmem] at hsome
      cases hsome

@[simp] theorem devices_setControl : (s.setControl i control).devices = s.devices := by
  apply List.ext_getElem?
  intro j
  rw [devices, devices, List.getElem?_map, List.getElem?_map]
  by_cases hij : i = j
  · subst hij
    cases hi : s.participants[i]? with
    | none =>
      rw [participants_setControl, List.getElem?_modify, hi]
      rfl
    | some participant =>
      rw [getElem?_setControl_self hi]
      rfl
  · rw [getElem?_setControl_ne hij]

/-- A lookup after the controller at a position was replaced. -/
theorem participant_setControl (hs : s.Ordered) (hi : s.participants[i]? = some participant) :
    (s.setControl i control).participant deviceId =
      if deviceId = participant.deviceId then some { participant with control }
      else s.participant deviceId := by
  have ht : (s.setControl i control).Ordered := by
    rw [Ordered, devices_setControl]
    exact hs
  have hself : (s.setControl i control).participants[i]? = some { participant with control } :=
    getElem?_setControl_self hi
  split
  · next heq =>
    rw [heq, participant_eq_some ht]
    exact ⟨List.mem_of_getElem? hself, rfl⟩
  · next hne =>
    apply Option.ext
    intro other
    rw [participant_eq_some ht, participant_eq_some hs]
    refine and_congr_left fun hdevice => ?_
    rw [List.mem_iff_getElem?, List.mem_iff_getElem?]
    refine exists_congr fun j => ?_
    by_cases hij : i = j
    · subst hij
      rw [hself, hi]
      constructor
      · rintro ⟨⟩
        exact absurd hdevice.symm hne
      · rintro ⟨⟩
        exact absurd hdevice.symm hne
    · rw [getElem?_setControl_ne hij]

theorem pendingOf_setControl (hs : s.Ordered) (hi : s.participants[i]? = some participant) :
    (s.setControl i control).pendingOf deviceId =
      if deviceId = participant.deviceId then control.pending else s.pendingOf deviceId := by
  rw [pendingOf, participant_setControl hs hi]
  split <;> rfl

end Lookup

/-! ## Calls on the coordinator -/

section Calls

variable [JobWire] [ClockEstimation]

variable {s t : DistributedScheduleCoordinator} {participant : ParticipantCoordinator}
  {deviceId other : DeviceId} {response : Response} {e : Call × Outcome}
  {request : DistributedScheduleRequest} {requests : List DistributedScheduleRequest}

theorem ordered_step (h : Step s e t) (hs : s.Ordered) : t.Ordered := by
  rw [Ordered, devices, devices_step h]
  exact hs

omit [ClockEstimation] [JobWire] in
theorem pending_abandonPending (machine : ParticipantScheduleMachine jobAxes) :
    machine.abandonPending.1.pending = none ∧
      machine.abandonPending.2 = machine.pending.isSome := by
  unfold ParticipantScheduleMachine.abandonPending
  cases hpending : machine.pending with
  | none => exact ⟨hpending, rfl⟩
  | some action => exact ⟨rfl, rfl⟩

/-- An abandonment reaches the participant of its device. -/
theorem abandonPending_eq (hp : s.participant deviceId = some participant) :
    ∃ i, s.participants[i]? = some participant ∧ s.abandonPending deviceId =
      (s.setControl i participant.control.abandonPending.1,
        .ok participant.control.abandonPending.2) := by
  obtain ⟨i, hindex, hi⟩ := Option.bind_eq_some_iff.1 hp
  refine ⟨i, hi, ?_⟩
  unfold abandonPending
  rw [hindex]
  simp only [hi]

/-- An abandonment settles the request of its device, and says whether there was one. -/
theorem pendingOf_abandoned (hs : s.Ordered) (hdevice : deviceId ∈ s.devices) :
    (s.abandonPending deviceId).2 = .ok (s.pendingOf deviceId).isSome ∧
      (s.abandonPending deviceId).1.pendingOf other =
        if other = deviceId then none else s.pendingOf other := by
  obtain ⟨participant, hp⟩ := exists_participant hs hdevice
  obtain ⟨i, hi, hresult⟩ := abandonPending_eq hp
  obtain ⟨-, rfl⟩ := (participant_eq_some hs).1 hp
  obtain ⟨hnone, hhad⟩ := pending_abandonPending participant.control
  rw [hresult, pendingOf_setControl hs hi, hnone, hhad, pendingOf, hp]
  exact ⟨rfl, rfl⟩

/-- An emitted request becomes pending at its device, where nothing was pending. -/
theorem pendingOf_requested (hs : s.Ordered)
    (h : Step s (.nextRequest, .next (.ok (some request))) t) :
    request.deviceId ∈ s.devices ∧ s.pendingOf request.deviceId = none ∧
      ∃ action, ∀ other, t.pendingOf other =
        if other = request.deviceId then some action else s.pendingOf other := by
  cases perform_cases h with
  | refused _ _ quiet undone => cases quiet
  | requested i participant operation control running index asked earlier =>
    obtain ⟨call, -, hissues⟩ := asks_of_nextOperation asked
    obtain ⟨hquiet, hpending⟩ := pending_of_issues hissues
    obtain ⟨action, haction⟩ := Option.isSome_iff_exists.1 hpending
    have hmem := List.mem_of_getElem? index
    refine ⟨List.mem_map_of_mem hmem, ?_, action, fun other => ?_⟩
    · rw [pendingOf, (participant_eq_some hs).2 ⟨hmem, rfl⟩]
      exact hquiet
    · rw [pendingOf_setControl hs index, haction]

/-- A status round is refused without effect, or asks every participant. -/
theorem beginStatusRound_cases (s : DistributedScheduleCoordinator) :
    ((¬ ∀ participant ∈ s.participants, participant.control.pending = none) ∧
        ∃ error, s.beginStatusRound = (s, .error error)) ∨
      (∀ participant ∈ s.participants, participant.control.pending = none) ∧
        s.beginStatusRound =
          ({ s with participants := s.participants.map ParticipantCoordinator.querying },
            .ok (s.devices.map (⟨·, ⟨.jobStatus, []⟩⟩))) := by
  unfold beginStatusRound
  split
  · next hany => exact Or.inl ⟨by simpa [Option.isSome_iff_ne_none] using hany, _, rfl⟩
  · next hany =>
    have hquiet : ∀ participant ∈ s.participants, participant.control.pending = none := by
      simpa using hany
    refine Or.inr ⟨hquiet, ?_⟩
    rw [statusEach_of_quiet hquiet, devices, List.map_map]
    rfl

theorem step_beginStatusRound
    {result : DistributedResult (List DistributedScheduleRequest)}
    (h : s.beginStatusRound = (t, result)) : Step s (.beginStatusRound, .round result) t := by
  show s.perform .beginStatusRound = _
  rw [perform, h]

/-- A status round asks every device, while nothing is pending. -/
theorem pendingOf_queried (hs : s.Ordered)
    (h : Step s (.beginStatusRound, .round (.ok requests)) t) :
    requests = s.devices.map (⟨·, ⟨.jobStatus, []⟩⟩) ∧ (∀ other, s.pendingOf other = none) ∧
      ∀ other ∈ s.devices, t.pendingOf other = some .status := by
  have ht := ordered_step h hs
  have hround : s.perform .beginStatusRound = (t, .round (.ok requests)) := h
  rw [perform] at hround
  rcases s.beginStatusRound_cases with ⟨-, error, hresult⟩ | ⟨hquiet, hresult⟩
  · rw [hresult] at hround
    cases hround
  · rw [hresult] at hround
    cases hround
    refine ⟨rfl, (pendingOf_quiet hs).2 hquiet, ?_⟩
    intro other hmem
    obtain ⟨participant, hparticipant, rfl⟩ := List.mem_map.1 hmem
    exact (pendingOf_eq_some ht).2 ⟨participant.querying, List.mem_map_of_mem hparticipant, rfl, rfl⟩

/-- A renewal is opened on every device, while nothing is pending. -/
theorem pendingOf_renewed {renewals : List ParticipantLeaseRenewal} (hs : s.Ordered)
    (h : Step s (.beginLeaseRenewal renewals, .round (.ok requests)) t) :
    requests.map (·.deviceId) = s.devices ∧
      (∀ request ∈ requests, request.request.operation = .jobLeaseRenew) ∧
      ∀ other, s.pendingOf other = none := by
  have hround : s.perform (.beginLeaseRenewal renewals) = (t, .round (.ok requests)) := h
  rw [perform] at hround
  rcases s.beginLeaseRenewal_cases renewals with
    ⟨error, hresult⟩ | ⟨staged, opened, hresult, -, -, hall, -, hopened⟩
  · rw [hresult] at hround
    cases hround
  rw [hresult] at hround
  cases hround
  have hlength : (Table.sortByKey (fun renewal => deviceKey renewal.deviceId) renewals).length =
      s.participants.length := by
    rw [Table.length_sortByKey, hall]
  obtain ⟨-, hrequests, hrenews⟩ := renewEach_eq_ok hlength hopened
  have hrenew : ∀ (i : Nat) participant request, s.participants[i]? = some participant →
      requests[i]? = some request → request.deviceId = participant.deviceId ∧
        request.request.operation = .jobLeaseRenew ∧ participant.control.pending = none := by
    intro i participant request hi hrequest
    have hlt : i < s.participants.length := (List.getElem?_eq_some_iff.1 hi).1
    obtain ⟨-, found, -, hfound, operation, control, hresult, -, hissued⟩ :=
      hrenews i participant _ hi (List.getElem?_eq_getElem (hlength ▸ hlt))
    obtain rfl := Option.some.inj (hfound.symm.trans hrequest)
    have hissues := ParticipantScheduleMachine.beginLeaseRenew_issues hresult
    refine ⟨by rw [hissued], ?_, (pending_of_issues hissues).1⟩
    rw [hissued]
    cases hissues
    rfl
  refine ⟨?_, ?_, ?_⟩
  · apply List.ext_getElem?
    intro i
    rw [devices, List.getElem?_map, List.getElem?_map]
    cases hi : s.participants[i]? with
    | none =>
      rw [List.getElem?_eq_none_iff, ← hrequests, ← List.getElem?_eq_none_iff] at hi
      rw [hi]
      rfl
    | some participant =>
      have hlt : i < requests.length := hrequests ▸ (List.getElem?_eq_some_iff.1 hi).1
      have hrequest := List.getElem?_eq_getElem hlt
      rw [hrequest, Option.map_some, Option.map_some, (hrenew i _ _ hi hrequest).1]
  · intro request hmem
    obtain ⟨i, hrequest⟩ := List.mem_iff_getElem?.1 hmem
    have hlt : i < s.participants.length := hrequests ▸ (List.getElem?_eq_some_iff.1 hrequest).1
    exact (hrenew i _ request (List.getElem?_eq_getElem hlt) hrequest).2.1
  · rw [pendingOf_quiet hs]
    intro participant hmem
    obtain ⟨i, hi⟩ := List.mem_iff_getElem?.1 hmem
    have hlt : i < requests.length := hrequests ▸ (List.getElem?_eq_some_iff.1 hi).1
    exact (hrenew i participant _ hi (List.getElem?_eq_getElem hlt)).2.2

/-- A coordinator that was built and has made some calls since. -/
def Reached (s : DistributedScheduleCoordinator) : Prop :=
  ∃ identity cacheReady cached start history,
    afterCachedArtifacts identity cacheReady cached = .ok start ∧ Run Step start history s

theorem Reached.run {history : List (Call × Outcome)} (hs : s.Reached) (h : Run Step s history t) :
    t.Reached := by
  obtain ⟨identity, cacheReady, cached, start, before, hbuilt, hrun⟩ := hs
  exact ⟨identity, cacheReady, cached, start, before ++ history, hbuilt, hrun.append h⟩

theorem Reached.step (hs : s.Reached) (h : Step s e t) : t.Reached :=
  hs.run (.cons h (.nil t))

end Calls

end DistributedScheduleCoordinator

end Alumina.Client
