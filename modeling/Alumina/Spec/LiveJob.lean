import Alumina.Client.LiveJob
import Alumina.Spec.PendingRequest

/-!
# The steps of a live job

A call on a live job is a change of its coordinator together with what happens to the queue.
All calls are covered by one relation, whose cases carry what the call required.

## Key results

- `LiveCachedJob.Sound`: connections and devices are distinct, and the coordinator is about
  the devices of the job
- `LiveCachedJob.perform_cases`: everything a call on a sound job can do
- `LiveSession.Step`: a call, with the operation that is outstanding
- `LiveSession.sound_of_run`: every session of a job that was built is sound
-/

namespace Alumina.Client

open Except (failIf)
open Alumina.Graph (DeviceId Sha256)

/-! ## Sound jobs -/

namespace LiveCachedJob

/-- Canonically ordered participant bindings. -/
def bindings (job : LiveCachedJob) : List LiveJobParticipantBinding :=
  job.participants.map (·.binding)

def devices (job : LiveCachedJob) : List DeviceId := job.bindings.map (·.deviceId)

variable [JobWire] [ClockEstimation]

/-- The participant whose response or loss a call reports. -/
def Call.settles : Call → Option UInt64
  | .acceptResponse connectionId _ | .abandonPending connectionId => some connectionId
  | _ => none

/-- Connections and devices are distinct, the coordinator is about the devices of the job, and
only a stop in the cache phase and a fault end a job early. -/
structure Sound (job : LiveCachedJob) : Prop where
  increasing : (job.devices.map deviceKey).Pairwise (· < ·)
  connections : (job.bindings.map (·.connectionId)).Nodup
  nonempty : job.bindings ≠ []
  scheduled : ∀ coordinator, job.coordinator = some coordinator →
    coordinator.devices = job.devices ∧ coordinator.Reached
  queued : ∀ request ∈ job.statusQueue, request.deviceId ∈ job.devices
  fresh : job.coordinator = none →
    job.statusQueue = [] ∧ job.scheduleReconciliationSweepRequired = false
  override : ∀ phase, job.terminalOverride = some phase → phase = .cancelled ∨ phase = .faulted

variable {job job' : LiveCachedJob} {connectionId : UInt64} {binding : LiveJobParticipantBinding}
  {coordinator : DistributedScheduleCoordinator} {request : DistributedScheduleRequest}

theorem Sound.ordered (h : job.Sound) (hc : job.coordinator = some coordinator) :
    coordinator.Ordered := by
  rw [DistributedScheduleCoordinator.Ordered, (h.scheduled coordinator hc).1]
  exact h.increasing

omit [JobWire] [ClockEstimation] in
/-- A known connection names a binding of the job. -/
theorem mem_of_binding (h : job.binding connectionId = some binding) :
    binding ∈ job.bindings ∧ binding.connectionId = connectionId := by
  obtain ⟨participant, hfound, rfl⟩ := Option.map_eq_some_iff.1 h
  refine ⟨List.mem_map_of_mem (List.mem_of_find?_eq_some hfound), ?_⟩
  simpa using List.find?_some hfound

omit [JobWire] [ClockEstimation] in
theorem mem_devices_of_binding (h : job.binding connectionId = some binding) :
    binding.deviceId ∈ job.devices :=
  List.mem_map_of_mem (mem_of_binding h).1

/-- A job with the bindings it had is sound if its schedule is. -/
theorem Sound.of_same (hs : job.Sound) (hbindings : job'.bindings = job.bindings)
    (hscheduled : ∀ coordinator, job'.coordinator = some coordinator →
      coordinator.devices = job.devices ∧ coordinator.Reached)
    (hqueued : ∀ request ∈ job'.statusQueue, request.deviceId ∈ job.devices)
    (hfresh : job'.coordinator = none →
      job'.statusQueue = [] ∧ job'.scheduleReconciliationSweepRequired = false)
    (hoverride : ∀ phase, job'.terminalOverride = some phase →
      phase = .cancelled ∨ phase = .faulted) : job'.Sound := by
  have hdevices : job'.devices = job.devices := by rw [devices, devices, hbindings]
  exact
    { increasing := hdevices ▸ hs.increasing
      connections := hbindings ▸ hs.connections
      nonempty := hbindings ▸ hs.nonempty
      scheduled := hdevices ▸ hscheduled
      queued := hdevices ▸ hqueued
      fresh := hfresh
      override := hoverride }

/-- A coordinator that made a call still is about the devices of the job. -/
theorem Sound.scheduled_step (hs : job.Sound) {coordinator' : DistributedScheduleCoordinator}
    {event : DistributedScheduleCoordinator.Call × DistributedScheduleCoordinator.Outcome}
    (hc : job.coordinator = some coordinator)
    (h : DistributedScheduleCoordinator.Step coordinator event coordinator') :
    coordinator'.devices = job.devices ∧ coordinator'.Reached := by
  obtain ⟨hdevices, hreached⟩ := hs.scheduled coordinator hc
  exact ⟨(DistributedScheduleCoordinator.devices_step h).trans hdevices, hreached.step h⟩

/-- The devices stay the same over the calls of a coordinator. -/
theorem Sound.scheduled_run (hs : job.Sound) {coordinator' : DistributedScheduleCoordinator}
    {history : List (DistributedScheduleCoordinator.Call × DistributedScheduleCoordinator.Outcome)}
    (hc : job.coordinator = some coordinator)
    (h : Run DistributedScheduleCoordinator.Step coordinator history coordinator') :
    coordinator'.devices = job.devices ∧ coordinator'.Reached := by
  obtain ⟨hdevices, hreached⟩ := hs.scheduled coordinator hc
  refine ⟨?_, hreached.run h⟩
  exact h.invariant (p := fun c => c.devices = job.devices)
    (fun _ _ _ hstep hc => (DistributedScheduleCoordinator.devices_step hstep).trans hc) hdevices

/-- The queue of a round names the devices of the job. -/
theorem Sound.queued_round (hs : job.Sound) {requests : List DistributedScheduleRequest}
    (hc : job.coordinator = some coordinator)
    (h : requests.map (·.deviceId) = coordinator.devices) :
    ∀ request ∈ requests, request.deviceId ∈ job.devices := by
  intro request hmem
  rw [← (hs.scheduled coordinator hc).1, ← h]
  exact List.mem_map_of_mem hmem

/-- Abandoning the queue settles the requests of its devices. -/
theorem abandonQueue_eq {queue : List DistributedScheduleRequest} (hs : coordinator.Ordered)
    (hqueue : ∀ request ∈ queue, request.deviceId ∈ coordinator.devices) :
    ∃ coordinator' history, abandonQueue coordinator queue = (coordinator', [], .ok ()) ∧
      Run DistributedScheduleCoordinator.Step coordinator history coordinator' ∧
      ∀ deviceId, coordinator'.pendingOf deviceId =
        if deviceId ∈ queue.map (·.deviceId) then none else coordinator.pendingOf deviceId := by
  induction queue generalizing coordinator with
  | nil => exact ⟨coordinator, [], rfl, .nil _, by simp⟩
  | cons request rest ih =>
    obtain ⟨hfirst, hrest⟩ := List.forall_mem_cons.1 hqueue
    have hpending : ∀ deviceId,
        (coordinator.abandonPending request.deviceId).2 =
          .ok (coordinator.pendingOf request.deviceId).isSome ∧
        (coordinator.abandonPending request.deviceId).1.pendingOf deviceId =
          if deviceId = request.deviceId then none else coordinator.pendingOf deviceId :=
      fun deviceId => DistributedScheduleCoordinator.pendingOf_abandoned hs hfirst
    have hstep : DistributedScheduleCoordinator.Step coordinator
        (.abandonPending request.deviceId, .abandoned (coordinator.abandonPending request.deviceId).2)
        (coordinator.abandonPending request.deviceId).1 := rfl
    have hdevices := DistributedScheduleCoordinator.devices_step hstep
    obtain ⟨coordinator', history, hqueue', hrun, hrest'⟩ :=
      ih (DistributedScheduleCoordinator.ordered_step hstep hs) fun later hlater => by
        rw [DistributedScheduleCoordinator.devices, hdevices]
        exact hrest later hlater
    refine ⟨coordinator', _ :: history, ?_, .cons hstep hrun, ?_⟩
    · have hresult : coordinator.abandonPending request.deviceId =
          ((coordinator.abandonPending request.deviceId).1,
            .ok (coordinator.pendingOf request.deviceId).isSome) :=
        Prod.ext rfl (hpending request.deviceId).1
      unfold abandonQueue
      rw [hresult]
      exact hqueue'
    · intro deviceId
      rw [hrest', (hpending deviceId).2, List.map_cons]
      by_cases hlater : deviceId ∈ rest.map (·.deviceId)
      · rw [if_pos hlater, if_pos (List.mem_cons_of_mem _ hlater)]
      · by_cases hhead : deviceId = request.deviceId <;> simp [hlater, hhead]

section Calls

variable [StorageWire]

/-- The operation a call emitted. -/
def Outcome.emitted : Outcome → Option LiveJobOperation
  | .next (.ok operation) => operation
  | _ => none

/-- The operation that carries a schedule request. -/
def Addressed (job : LiveCachedJob) (request : DistributedScheduleRequest)
    (operation : LiveJobOperation) : Prop :=
  operation.binding ∈ job.bindings ∧ operation.binding.deviceId = request.deviceId ∧
    operation.operation = request.request.operation ∧ operation.body = request.request.body

/-- Every request for a device of the job can be addressed. -/
theorem Sound.scheduleOperation (h : job.Sound) (hdevice : request.deviceId ∈ job.devices) :
    ∃ operation, job.scheduleOperation request = .ok operation ∧
      job.Addressed request operation := by
  obtain ⟨binding, hbinding, hsame⟩ := List.mem_map.1 hdevice
  obtain ⟨participant, hmem, rfl⟩ := List.mem_map.1 hbinding
  obtain ⟨i, hi⟩ := List.mem_iff_getElem?.1 hmem
  have hstrict : (job.participants.map fun participant => deviceKey participant.binding.deviceId)
      |>.Pairwise (· < ·) := by
    have hkeys := h.increasing
    rwa [devices, bindings, List.map_map, List.map_map] at hkeys
  have hindex : Table.binarySearch
      (fun participant : LiveParticipant => deviceKey participant.binding.deviceId)
      (deviceKey request.deviceId) job.participants = some i := by
    refine (Table.binarySearch_iff ?_ (hstrict.imp fun h => ne_of_lt h)).2 ?_
    · exact List.pairwise_map.1 (hstrict.imp fun h => le_of_lt h)
    · rw [hi, ← hsame]
      rfl
  refine ⟨⟨participant.binding, participant.binding.configDigest, request.request.operation,
    request.request.body⟩, ?_, hbinding, hsame, rfl, rfl⟩
  rw [LiveCachedJob.scheduleOperation, hindex]
  show (job.participants[i]?.okOr LiveCachedJobError.participant >>= _) = _
  rw [hi]
  rfl

/-! ## The parts of a call -/

theorem binding_nextRequest [Sha256] (participant : LiveParticipant) :
    participant.nextRequest.1.binding = participant.binding := by
  unfold LiveParticipant.nextRequest
  split
  · rfl
  · split <;> rfl

/-- The cache functions leave the bindings alone. -/
theorem bindings_nextCacheOperation [Sha256] (participants : List LiveParticipant) :
    (nextCacheOperation participants).1.map (·.binding) = participants.map (·.binding) := by
  induction participants with
  | nil => rfl
  | cons participant rest ih =>
    unfold nextCacheOperation
    have hsame := binding_nextRequest participant
    generalize participant.nextRequest = result at hsame
    obtain ⟨participant', result⟩ := result
    simp only at hsame
    cases result with
    | error error => simp [hsame]
    | ok operation =>
      cases operation with
      | none => simp [hsame, ih]
      | some operation => simp [hsame]

/-- A cache operation is for a participant. -/
theorem binding_of_nextCacheOperation [Sha256] {participants : List LiveParticipant}
    {operation : LiveJobOperation}
    (h : (nextCacheOperation participants).2 = .ok (some operation)) :
    operation.binding ∈ participants.map (·.binding) := by
  induction participants with
  | nil => cases h
  | cons participant rest ih =>
    have hsame := binding_nextRequest participant
    unfold nextCacheOperation at h
    generalize participant.nextRequest = result at h hsame
    obtain ⟨participant', result⟩ := result
    simp only at hsame h
    cases result with
    | error error => cases h
    | ok issued =>
      cases issued with
      | none => exact List.mem_cons_of_mem _ (ih h)
      | some issued =>
        cases h
        rw [List.map_cons, hsame]
        exact List.mem_cons_self

theorem bindings_acceptCacheResponse {response : Response} (participants : List LiveParticipant) :
    (acceptCacheResponse connectionId response participants).1.map (·.binding) =
      participants.map (·.binding) := by
  have haccept : ∀ participant : LiveParticipant,
      (participant.acceptResponse response).1.binding = participant.binding := by
    intro participant
    unfold LiveParticipant.acceptResponse
    split <;> rfl
  induction participants with
  | nil => rfl
  | cons participant rest ih =>
    unfold acceptCacheResponse
    split
    · simp [haccept]
    · simp [ih]

theorem bindings_abandonCache (participants : List LiveParticipant) :
    (abandonCache connectionId participants).1.map (·.binding) =
      participants.map (·.binding) := by
  have habandon : ∀ participant : LiveParticipant,
      participant.abandonPending.1.binding = participant.binding := by
    intro participant
    unfold LiveParticipant.abandonPending
    simp only
    split <;> rfl
  induction participants with
  | nil => rfl
  | cons participant rest ih =>
    unfold abandonCache
    split
    · simp [habandon]
    · simp [ih]

/-- The coordinator of a job whose artifacts are all cached is about its devices. -/
theorem Sound.initializeSchedule (h : job.Sound) {participants : List LiveParticipant}
    (hfresh : job.coordinator = none) (hsame : participants.map (·.binding) = job.bindings)
    (hinit : LiveCachedJob.initializeSchedule { job with participants } = .ok job') :
    ∃ coordinator identity cacheReady cached,
      job' = { job with participants, coordinator := some coordinator } ∧
      DistributedScheduleCoordinator.afterCachedArtifacts identity cacheReady cached =
        .ok coordinator ∧ coordinator.devices = job.devices := by
  simp only [LiveCachedJob.initializeSchedule, hfresh, Option.isSome_none, Bool.false_eq_true,
    if_false, Except.bind_eq_ok, Except.exists_unit, Except.failIf_eq_ok, Except.mapError_eq_ok,
    Except.pure_eq_ok] at hinit
  obtain ⟨-, ready, -, coordinator, hbuilt, rfl⟩ := hinit
  refine ⟨coordinator, _, _, _, rfl, hbuilt, ?_⟩
  have hsorted : Table.Sorted (fun item : CachedParticipantSchedule => deviceKey item.deviceId)
      (participants.map fun participant =>
        ⟨participant.binding.deviceId, participant.binding.bootId, participant.descriptor⟩) := by
    have hkeys := h.increasing
    rw [devices, ← hsame, List.map_map, List.map_map] at hkeys
    rw [Table.Sorted, List.pairwise_map]
    exact (List.pairwise_map.1 hkeys).imp fun hlt => le_of_lt hlt
  have hdevices := (DistributedScheduleCoordinator.devices_of_built hbuilt).1
  rw [DistributedScheduleCoordinator.sortedCached, Table.sortByKey_of_sorted hsorted,
    List.map_map] at hdevices
  rw [DistributedScheduleCoordinator.devices, hdevices, devices, ← hsame, List.map_map]
  rfl

/-! ## Calls on a job -/

/-- What a job does before it emits: nothing, a cache function, the construction of its
coordinator, or the opening of the sweep. -/
inductive Readies (job : LiveCachedJob) : LiveCachedJob → Prop
  | ready : Readies job job
  | cached (participants : List LiveParticipant) (fresh : job.coordinator = none)
      (same : participants.map (·.binding) = job.bindings) : Readies job { job with participants }
  | initialised (participants : List LiveParticipant)
      (coordinator : DistributedScheduleCoordinator) (identity : DistributedJobIdentity)
      (cacheReady : List ParticipantCacheReady) (cached : List CachedParticipantSchedule)
      (fresh : job.coordinator = none) (same : participants.map (·.binding) = job.bindings)
      (built : DistributedScheduleCoordinator.afterCachedArtifacts identity cacheReady cached =
        .ok coordinator)
      (devices : coordinator.devices = job.devices) :
      Readies job { job with participants, coordinator := some coordinator }
  | swept (coordinator coordinator' : DistributedScheduleCoordinator)
      (requests : List DistributedScheduleRequest) (found : job.coordinator = some coordinator)
      (empty : job.statusQueue = []) (required : job.scheduleReconciliationSweepRequired = true)
      (round : DistributedScheduleCoordinator.Step coordinator
        (.beginStatusRound, .round (.ok requests)) coordinator') :
      Readies job
        { job with
          coordinator := some coordinator'
          statusQueue := requests
          scheduleReconciliationSweepRequired := false }

/-- What a job emits, and what is left: nothing, a cache operation, the first of the queue, or
what the coordinator asks for next. -/
inductive Emits (job : LiveCachedJob) : LiveResult (Option LiveJobOperation) → LiveCachedJob → Prop
  | nothing (result : LiveResult (Option LiveJobOperation))
      (silent : ∀ operation, result ≠ .ok (some operation)) (empty : job.statusQueue = [])
      (refused : ∀ coordinator, job.coordinator = some coordinator →
        (¬ ∀ participant ∈ coordinator.participants, participant.control.pending = none) ∨
          job.scheduleReconciliationSweepRequired = false ∧ ∀ issued coordinator',
            coordinator.nextRequest ≠ .ok (some issued, coordinator')) :
      Emits job result job
  | cache (operation : LiveJobOperation) (fresh : job.coordinator = none)
      (known : operation.binding ∈ job.bindings) : Emits job (.ok (some operation)) job
  | queued (request : DistributedScheduleRequest) (rest : List DistributedScheduleRequest)
      (operation : LiveJobOperation) (queue : job.statusQueue = request :: rest)
      (addressed : job.Addressed request operation) :
      Emits job (.ok (some operation)) { job with statusQueue := rest }
  | requested (coordinator coordinator' : DistributedScheduleCoordinator)
      (request : DistributedScheduleRequest) (operation : LiveJobOperation)
      (found : job.coordinator = some coordinator) (empty : job.statusQueue = [])
      (clear : job.scheduleReconciliationSweepRequired = false)
      (step : DistributedScheduleCoordinator.Step coordinator
        (.nextRequest, .next (.ok (some request))) coordinator')
      (addressed : job.Addressed request operation) :
      Emits job (.ok (some operation)) { job with coordinator := some coordinator' }

/-- Everything a call on a sound job can do. -/
inductive Transition (job : LiveCachedJob) : Call × Outcome → LiveCachedJob → Prop
  | refused (call : Call) (outcome : Outcome) (kept : call.settles = none)
      (silent : outcome.emitted = none) (undone : outcome ≠ .done (.ok ())) :
      Transition job (call, outcome) job
  | unknown (call : Call) (outcome : Outcome) (connectionId : UInt64)
      (settles : call.settles = some connectionId) (absent : job.binding connectionId = none)
      (failed : outcome = .phase (.error .participant) ∨
        outcome = .abandoned (.error .participant)) :
      Transition job (call, outcome) job
  | next (result : LiveResult (Option LiveJobOperation)) (mid job' : LiveCachedJob)
      (running : job.terminalOverride = none) (readies : job.Readies mid)
      (emits : mid.Emits result job') : Transition job (.nextOperation, .next result) job'
  | delivered (call : Call) (outcome : Outcome) (connectionId : UInt64) (job' : LiveCachedJob)
      (settles : call.settles = some connectionId) (silent : outcome.emitted = none)
      (fresh : job.coordinator = none) (readies : job.Readies job') :
      Transition job (call, outcome) job'
  | accepted (connectionId : UInt64) (response : Response)
      (result : LiveResult WorkerCachedJobPhase) (binding : LiveJobParticipantBinding)
      (coordinator : DistributedScheduleCoordinator)
      (found : job.binding connectionId = some binding)
      (scheduled : job.coordinator = some coordinator)
      (answered : (coordinator.acceptResponse binding.deviceId response).2.toOption.isSome →
        ∃ phase, result = .ok phase) :
      Transition job (.acceptResponse connectionId response, .phase result)
        { job with
          coordinator := some (coordinator.acceptResponse binding.deviceId response).1 }
  | idle (connectionId : UInt64) (binding : LiveJobParticipantBinding)
      (coordinator : DistributedScheduleCoordinator)
      (found : job.binding connectionId = some binding)
      (scheduled : job.coordinator = some coordinator)
      (quiet : coordinator.pendingOf binding.deviceId = none) :
      Transition job (.abandonPending connectionId, .abandoned (.ok false))
        { job with coordinator := some (coordinator.abandonPending binding.deviceId).1 }
  | abandoned (connectionId : UInt64) (binding : LiveJobParticipantBinding)
      (coordinator coordinator' : DistributedScheduleCoordinator)
      (history : List (DistributedScheduleCoordinator.Call × DistributedScheduleCoordinator.Outcome))
      (found : job.binding connectionId = some binding)
      (scheduled : job.coordinator = some coordinator)
      (run : Run DistributedScheduleCoordinator.Step coordinator history coordinator')
      (settled : ∀ deviceId, coordinator'.pendingOf deviceId =
        if deviceId = binding.deviceId ∨ deviceId ∈ job.statusQueue.map (·.deviceId) then none
        else coordinator.pendingOf deviceId) :
      Transition job (.abandonPending connectionId, .abandoned (.ok true))
        { job with
          coordinator := some coordinator'
          statusQueue := []
          scheduleReconciliationSweepRequired := true }
  | ordered (call : Call) (order : DistributedScheduleCoordinator.Call)
      (coordinator coordinator' : DistributedScheduleCoordinator) (kept : call.settles = none)
      (empty : job.statusQueue = []) (scheduled : job.coordinator = some coordinator)
      (step : DistributedScheduleCoordinator.Step coordinator (order, .done (.ok ())) coordinator') :
      Transition job (call, .done (.ok ())) { job with coordinator := some coordinator' }
  | queried (coordinator coordinator' : DistributedScheduleCoordinator)
      (requests : List DistributedScheduleRequest) (empty : job.statusQueue = [])
      (scheduled : job.coordinator = some coordinator)
      (step : DistributedScheduleCoordinator.Step coordinator
        (.beginStatusRound, .round (.ok requests)) coordinator') :
      Transition job (.beginStatusRound, .done (.ok ()))
        { job with coordinator := some coordinator', statusQueue := requests }
  | renewed (renewals : List ParticipantLeaseRenewal) (rounds : UInt32)
      (coordinator coordinator' : DistributedScheduleCoordinator)
      (requests : List DistributedScheduleRequest) (empty : job.statusQueue = [])
      (clear : job.scheduleReconciliationSweepRequired = false)
      (scheduled : job.coordinator = some coordinator)
      (step : DistributedScheduleCoordinator.Step coordinator
        (.beginLeaseRenewal renewals, .round (.ok requests)) coordinator') :
      Transition job (.beginLeaseRenewal renewals, .done (.ok ()))
        { job with
          coordinator := some coordinator'
          statusQueue := requests
          leaseRenewalRounds := rounds }
  | withdrawn (error : LiveCachedJobError) (live : job.terminal = false) :
      Transition job (.requestStop, .done (.error error)) { job with statusQueue := [] }
  | ended (live : job.terminal = false) (fresh : job.coordinator = none) :
      Transition job (.requestStop, .done (.ok ()))
        { job with statusQueue := [], terminalOverride := some .cancelled }
  | aborting (coordinator coordinator' : DistributedScheduleCoordinator)
      (live : job.terminal = false) (scheduled : job.coordinator = some coordinator)
      (step : DistributedScheduleCoordinator.Step coordinator (.beginAbort, .done (.ok ()))
        coordinator') :
      Transition job (.requestStop, .done (.ok ()))
        { job with
          statusQueue := []
          coordinator := some coordinator'
          stopRequested := true }
  | cancelling (coordinator coordinator' : DistributedScheduleCoordinator)
      (live : job.terminal = false) (scheduled : job.coordinator = some coordinator)
      (step : DistributedScheduleCoordinator.Step coordinator (.beginCancel, .done (.ok ()))
        coordinator') :
      Transition job (.requestStop, .done (.ok ()))
        { job with statusQueue := [], coordinator := some coordinator' }
  | faulted : Transition job (.markFault, .done (.ok ())) job.markFault

omit [StorageWire] in
theorem Readies.sound (h : job.Readies job') (hs : job.Sound) : job'.Sound := by
  cases h with
  | ready => exact hs
  | cached participants fresh same =>
    exact hs.of_same same hs.scheduled hs.queued hs.fresh hs.override
  | initialised participants coordinator identity cacheReady cached fresh same built devices =>
    refine hs.of_same same ?_ hs.queued nofun hs.override
    rintro _ ⟨⟩
    exact ⟨devices, identity, cacheReady, cached, coordinator, [], built, .nil _⟩
  | swept coordinator coordinator' requests found empty required round =>
    have hrequests := (DistributedScheduleCoordinator.pendingOf_queried (hs.ordered found) round).1
    refine hs.of_same rfl ?_ (hs.queued_round found ?_) nofun hs.override
    · rintro _ ⟨⟩
      exact hs.scheduled_step found round
    · rw [hrequests, List.map_map]
      exact List.map_id _

theorem Emits.sound {result : LiveResult (Option LiveJobOperation)} (h : job.Emits result job')
    (hs : job.Sound) : job'.Sound := by
  cases h with
  | nothing _ silent empty refused => exact hs
  | cache operation fresh known => exact hs
  | queued request rest operation queue addressed =>
    refine hs.of_same rfl hs.scheduled ?_ ?_ hs.override
    · intro later hlater
      exact hs.queued later (queue ▸ List.mem_cons_of_mem _ hlater)
    · intro hfresh
      have hqueue := (hs.fresh hfresh).1
      rw [queue] at hqueue
      cases hqueue
  | requested coordinator coordinator' request operation found empty clear step addressed =>
    refine hs.of_same rfl ?_ hs.queued nofun hs.override
    rintro _ ⟨⟩
    exact hs.scheduled_step found step

/-- A call leaves a sound job sound. -/
theorem Transition.sound {event : Call × Outcome} (h : job.Transition event job')
    (hs : job.Sound) : job'.Sound := by
  have hempty : ∀ request ∈ ([] : List DistributedScheduleRequest),
      request.deviceId ∈ job.devices := by
    simp
  cases h with
  | refused call outcome kept silent undone => exact hs
  | unknown call outcome connectionId settles absent failed => exact hs
  | next result mid job' running readies emits => exact emits.sound (readies.sound hs)
  | delivered call outcome connectionId job' settles silent fresh readies => exact readies.sound hs
  | accepted connectionId response result binding coordinator found scheduled answered =>
    refine hs.of_same rfl ?_ hs.queued nofun hs.override
    rintro _ ⟨⟩
    exact hs.scheduled_step scheduled
      (rfl : DistributedScheduleCoordinator.Step _ (.acceptResponse _ response, _) _)
  | idle connectionId binding coordinator found scheduled quiet =>
    refine hs.of_same rfl ?_ hs.queued nofun hs.override
    rintro _ ⟨⟩
    exact hs.scheduled_step scheduled
      (rfl : DistributedScheduleCoordinator.Step _ (.abandonPending _, _) _)
  | abandoned connectionId binding coordinator coordinator' history found scheduled run settled =>
    refine hs.of_same rfl ?_ hempty nofun hs.override
    rintro _ ⟨⟩
    exact hs.scheduled_run scheduled run
  | ordered call order coordinator coordinator' kept empty scheduled step =>
    refine hs.of_same rfl ?_ hs.queued nofun hs.override
    rintro _ ⟨⟩
    exact hs.scheduled_step scheduled step
  | queried coordinator coordinator' requests empty scheduled step =>
    have hrequests := (DistributedScheduleCoordinator.pendingOf_queried (hs.ordered scheduled)
      step).1
    refine hs.of_same rfl ?_ (hs.queued_round scheduled ?_) nofun hs.override
    · rintro _ ⟨⟩
      exact hs.scheduled_step scheduled step
    · rw [hrequests, List.map_map]
      exact List.map_id _
  | renewed renewals rounds coordinator coordinator' requests empty clear scheduled step =>
    have hrequests := (DistributedScheduleCoordinator.pendingOf_renewed (hs.ordered scheduled)
      step).1
    refine hs.of_same rfl ?_ (hs.queued_round scheduled hrequests) nofun hs.override
    rintro _ ⟨⟩
    exact hs.scheduled_step scheduled step
  | withdrawn error live =>
    exact hs.of_same rfl hs.scheduled hempty (fun hfresh => ⟨rfl, (hs.fresh hfresh).2⟩) hs.override
  | ended live fresh =>
    refine hs.of_same rfl hs.scheduled hempty (fun hfresh => ⟨rfl, (hs.fresh hfresh).2⟩) ?_
    rintro _ ⟨⟩
    exact Or.inl rfl
  | aborting coordinator coordinator' live scheduled step =>
    refine hs.of_same rfl ?_ hempty nofun hs.override
    rintro _ ⟨⟩
    exact hs.scheduled_step scheduled step
  | cancelling coordinator coordinator' live scheduled step =>
    refine hs.of_same rfl ?_ hempty nofun hs.override
    rintro _ ⟨⟩
    exact hs.scheduled_step scheduled step
  | faulted =>
    refine hs.of_same rfl hs.scheduled hempty (fun hfresh => ⟨rfl, (hs.fresh hfresh).2⟩) ?_
    rintro _ ⟨⟩
    exact Or.inr rfl

/-! ## The calls make these transitions -/

/-- What the coordinator is asked for. -/
private theorem nextScheduled_emits (hs : job.Sound) (hc : job.coordinator = some coordinator)
    (hempty : job.statusQueue = []) (hclear : job.scheduleReconciliationSweepRequired = false) :
    job.Emits (job.nextScheduled coordinator).2 (job.nextScheduled coordinator).1 := by
  have hsame : ({ job with coordinator := some coordinator } : LiveCachedJob) = job := by
    rw [← hc]
  unfold nextScheduled
  cases hresult : coordinator.nextRequest with
  | error error =>
    refine .nothing _ ?_ hempty fun other hother => Or.inr ⟨hclear, ?_⟩
    · rintro _ ⟨⟩
    · obtain rfl := Option.some.inj (hc.symm.trans hother)
      rw [hresult]
      rintro _ _ ⟨⟩
  | ok issued =>
    obtain ⟨request, coordinator'⟩ := issued
    cases request with
    | none =>
      have hkept : coordinator' = coordinator := by
        unfold DistributedScheduleCoordinator.nextRequest at hresult
        split at hresult
        · cases hresult
          rfl
        · obtain ⟨found, -, hresult⟩ := Except.bind_eq_ok.1 hresult
          cases found <;> cases hresult
          rfl
      simp only [hkept, hsame]
      refine .nothing _ ?_ hempty fun other hother => Or.inr ⟨hclear, ?_⟩
      · rintro _ ⟨⟩
      · obtain rfl := Option.some.inj (hc.symm.trans hother)
        rw [hresult]
        rintro _ _ ⟨⟩
    | some request =>
      have hstep : DistributedScheduleCoordinator.Step coordinator
          (.nextRequest, .next (.ok (some request))) coordinator' := by
        show coordinator.perform .nextRequest = _
        rw [DistributedScheduleCoordinator.perform, hresult]
      obtain ⟨hmem, -⟩ := DistributedScheduleCoordinator.pendingOf_requested (hs.ordered hc) hstep
      rw [(hs.scheduled coordinator hc).1] at hmem
      obtain ⟨operation, hoperation, haddressed⟩ := hs.scheduleOperation hmem
      simp only
      rw [hoperation]
      exact .requested coordinator coordinator' request operation hc hempty hclear hstep haddressed

/-- What is emitted while nothing is queued and no sweep is required. -/
private theorem nextUnqueued_emits [Sha256] (hs : job.Sound) (hempty : job.statusQueue = [])
    (hclear : job.scheduleReconciliationSweepRequired = false) :
    ∃ mid, job.Readies mid ∧ mid.Emits job.nextUnqueued.2 job.nextUnqueued.1 := by
  obtain ⟨identity, all, schedule, queue, required, rounds, stop, override⟩ := job
  unfold nextUnqueued
  cases schedule with
  | some coordinator => exact ⟨_, .ready, nextScheduled_emits hs rfl hempty hclear⟩
  | none =>
    have hsame := bindings_nextCacheOperation all
    have hknown : ∀ operation, (nextCacheOperation all).2 = .ok (some operation) →
        operation.binding ∈ all.map (·.binding) :=
      fun operation => binding_of_nextCacheOperation
    simp only
    generalize nextCacheOperation all = result at hsame hknown
    obtain ⟨participants, result⟩ := result
    have hcached : Readies ⟨identity, all, none, queue, required, rounds, stop, override⟩
        ⟨identity, participants, none, queue, required, rounds, stop, override⟩ :=
      .cached participants rfl hsame
    cases result with
    | error error => exact ⟨_, hcached, .nothing _ nofun hempty nofun⟩
    | ok operation =>
      cases operation with
      | some operation =>
        refine ⟨_, hcached, .cache operation rfl ?_⟩
        rw [bindings, hsame]
        exact hknown operation rfl
      | none =>
        simp only
        cases hinit : LiveCachedJob.initializeSchedule ⟨identity, participants, none, queue,
            required, rounds, stop, override⟩ with
        | error error => exact ⟨_, hcached, .nothing _ nofun hempty nofun⟩
        | ok job' =>
          obtain ⟨coordinator, jobIdentity, cacheReady, cached, rfl, hbuilt, hdevices⟩ :=
            hs.initializeSchedule rfl hsame hinit
          have hready : Readies ⟨identity, all, none, queue, required, rounds, stop, override⟩
              ⟨identity, participants, some coordinator, queue, required, rounds, stop, override⟩ :=
            .initialised participants coordinator jobIdentity cacheReady cached rfl hsame hbuilt
              hdevices
          exact ⟨_, hready, nextScheduled_emits (hready.sound hs) rfl hempty hclear⟩

/-- What is emitted while the job runs. -/
private theorem nextOperation_emits [Sha256] (hs : job.Sound) (hrunning : job.terminalOverride = none) :
    ∃ mid, job.Readies mid ∧ mid.Emits job.nextOperation.2 job.nextOperation.1 := by
  have hdrain : ∀ mid : LiveCachedJob, job.Readies mid → job.openSweep = (mid, .ok ()) →
      (mid.statusQueue = [] → mid.scheduleReconciliationSweepRequired = false) →
      ∃ mid, job.Readies mid ∧ mid.Emits job.nextOperation.2 job.nextOperation.1 := by
    intro mid hready hopen hclear
    have hmid := hready.sound hs
    unfold nextOperation
    rw [hrunning, hopen]
    simp only [Option.isSome_none, Bool.false_eq_true, if_false]
    cases hqueue : mid.statusQueue with
    | cons request rest =>
      obtain ⟨operation, hoperation, haddressed⟩ :=
        hmid.scheduleOperation (hmid.queued request (by simp [hqueue]))
      refine ⟨mid, hready, ?_⟩
      simp only
      rw [hoperation]
      exact .queued request rest operation hqueue haddressed
    | nil =>
      -- a coordinator is built only if no sweep was opened before
      by_cases hfresh : job.coordinator = none
      · have hkept : mid = job := by
          unfold openSweep at hopen
          rw [if_neg (by simp [(hs.fresh hfresh).2])] at hopen
          cases hopen
          rfl
        subst hkept
        exact nextUnqueued_emits hmid hqueue (hclear hqueue)
      · obtain ⟨coordinator, hc⟩ : ∃ coordinator, mid.coordinator = some coordinator := by
          cases hready with
          | ready => exact Option.ne_none_iff_exists'.1 hfresh
          | cached participants fresh same => exact absurd fresh hfresh
          | initialised participants coordinator identity cacheReady cached fresh same built devices =>
            exact absurd fresh hfresh
          | swept coordinator coordinator' requests found empty required round => exact ⟨_, rfl⟩
        refine ⟨mid, hready, ?_⟩
        have hunqueued : mid.nextUnqueued = mid.nextScheduled coordinator := by
          rw [nextUnqueued, hc]
        simp only
        rw [hunqueued]
        exact nextScheduled_emits hmid hc hqueue (hclear hqueue)
  by_cases hsweep : job.statusQueue = [] ∧ job.scheduleReconciliationSweepRequired
  · obtain ⟨coordinator, hc⟩ : ∃ coordinator, job.coordinator = some coordinator := by
      cases hc : job.coordinator with
      | some coordinator => exact ⟨coordinator, rfl⟩
      | none =>
        have hclear := (hs.fresh hc).2
        rw [hsweep.2] at hclear
        cases hclear
    have hsame : ({ job with coordinator := some coordinator } : LiveCachedJob) = job := by
      rw [← hc]
    rcases coordinator.beginStatusRound_cases with ⟨hbusy, error, hround⟩ | ⟨-, hround⟩
    · have hopen : job.openSweep = (job, .error (.schedule error)) := by
        rw [openSweep, if_pos hsweep, hc]
        simp only [hround, hsame]
      refine ⟨job, .ready, ?_⟩
      unfold nextOperation
      rw [hrunning, hopen]
      refine .nothing _ nofun hsweep.1 fun other hother => Or.inl ?_
      rwa [Option.some.inj (hc.symm.trans hother)] at hbusy
    · have hstep := DistributedScheduleCoordinator.step_beginStatusRound hround
      refine hdrain _ (.swept coordinator _ _ hc hsweep.1 hsweep.2 hstep) ?_ fun _ => rfl
      rw [openSweep, if_pos hsweep, hc]
      simp only [hround]
  · refine hdrain job .ready (by rw [openSweep, if_neg hsweep]) ?_
    intro hempty
    rw [not_and, Bool.not_eq_true] at hsweep
    exact hsweep hempty

private theorem acceptResponse_transition (hs : job.Sound) (response : Response) :
    job.Transition (.acceptResponse connectionId response,
      .phase (job.acceptResponse connectionId response).2)
      (job.acceptResponse connectionId response).1 := by
  unfold acceptResponse
  cases hfound : job.binding connectionId with
  | none => exact .unknown _ _ connectionId rfl hfound (Or.inl rfl)
  | some binding =>
    cases hc : job.coordinator with
    | none =>
      have hsame : (acceptCacheResponse connectionId response job.participants).1.map (·.binding) =
          job.participants.map (·.binding) := bindings_acceptCacheResponse job.participants
      simp only
      generalize acceptCacheResponse connectionId response job.participants = result at hsame
      obtain ⟨participants, result⟩ := result
      have hcached := Readies.cached participants hc hsame
      rw [hc] at hcached
      cases result with
      | error error => exact .delivered _ _ connectionId _ rfl rfl hc hcached
      | ok accepted =>
        simp only
        split
        · split
          · exact .delivered _ _ connectionId _ rfl rfl hc hcached
          · next job' hinit =>
            have hinit' : LiveCachedJob.initializeSchedule { job with participants } = .ok job' := by
              rw [hc]
              exact hinit
            obtain ⟨coordinator, identity, cacheReady, cached, rfl, hbuilt, hdevices⟩ :=
              hs.initializeSchedule hc hsame hinit'
            exact .delivered _ _ connectionId _ rfl rfl hc (.initialised participants coordinator
              identity cacheReady cached hc hsame hbuilt hdevices)
        · exact .delivered _ _ connectionId _ rfl rfl hc hcached
    | some coordinator =>
      simp only
      cases hresult : (coordinator.acceptResponse binding.deviceId response).2 with
      | error error =>
        refine .accepted connectionId response _ binding coordinator hfound hc ?_
        rw [hresult]
        nofun
      | ok phase =>
        exact .accepted connectionId response _ binding coordinator hfound hc (fun _ => ⟨_, rfl⟩)

private theorem abandonPending_transition (hs : job.Sound) :
    job.Transition (.abandonPending connectionId,
      .abandoned (job.abandonPending connectionId).2) (job.abandonPending connectionId).1 := by
  unfold abandonPending
  cases hfound : job.binding connectionId with
  | none => exact .unknown _ _ connectionId rfl hfound (Or.inr rfl)
  | some binding =>
    cases hc : job.coordinator with
    | none =>
      have hsame : (abandonCache connectionId job.participants).1.map (·.binding) =
          job.participants.map (·.binding) := bindings_abandonCache job.participants
      have hcached := Readies.cached _ hc hsame
      rw [hc] at hcached
      exact .delivered _ _ connectionId _ rfl rfl hc hcached
    | some coordinator =>
      have hdevice : binding.deviceId ∈ coordinator.devices := by
        rw [(hs.scheduled coordinator hc).1]
        exact mem_devices_of_binding hfound
      have hordered := hs.ordered hc
      have hpending : ∀ other,
          (coordinator.abandonPending binding.deviceId).2 =
            .ok (coordinator.pendingOf binding.deviceId).isSome ∧
          (coordinator.abandonPending binding.deviceId).1.pendingOf other =
            if other = binding.deviceId then none else coordinator.pendingOf other :=
        fun other => DistributedScheduleCoordinator.pendingOf_abandoned hordered hdevice
      have hstep : DistributedScheduleCoordinator.Step coordinator
          (.abandonPending binding.deviceId, .abandoned (coordinator.abandonPending binding.deviceId).2)
          (coordinator.abandonPending binding.deviceId).1 := rfl
      cases hhad : coordinator.pendingOf binding.deviceId with
      | none =>
        have hresult : coordinator.abandonPending binding.deviceId =
            ((coordinator.abandonPending binding.deviceId).1, .ok false) := by
          rw [Prod.ext_iff, (hpending binding.deviceId).1, hhad]
          exact ⟨rfl, rfl⟩
        simp only
        rw [hresult]
        exact .idle connectionId binding coordinator hfound hc hhad
      | some action =>
        have hresult : coordinator.abandonPending binding.deviceId =
            ((coordinator.abandonPending binding.deviceId).1, .ok true) := by
          rw [Prod.ext_iff, (hpending binding.deviceId).1, hhad]
          exact ⟨rfl, rfl⟩
        have hdevices : ∀ request ∈ job.statusQueue, request.deviceId ∈
              (coordinator.abandonPending binding.deviceId).1.devices := by
          intro request hmem
          rw [DistributedScheduleCoordinator.devices,
            DistributedScheduleCoordinator.devices_step hstep]
          have hqueued := hs.queued request hmem
          rwa [← (hs.scheduled coordinator hc).1] at hqueued
        obtain ⟨coordinator', history, hqueue, hrun, hsettled⟩ := abandonQueue_eq
          (DistributedScheduleCoordinator.ordered_step hstep hordered) hdevices
        simp only
        rw [hresult]
        simp only
        rw [hqueue]
        refine .abandoned connectionId binding coordinator coordinator' _ hfound hc
          (.cons hstep hrun) ?_
        intro deviceId
        rw [hsettled, (hpending deviceId).2]
        by_cases hmem : deviceId ∈ job.statusQueue.map (·.deviceId)
        · rw [if_pos hmem, if_pos (Or.inr hmem)]
        · by_cases hsame : deviceId = binding.deviceId
          · rw [if_neg hmem, if_pos hsame, if_pos (Or.inl hsame)]
          · rw [if_neg hmem, if_neg hsame, if_neg (not_or.2 ⟨hsame, hmem⟩)]

/-- A job that takes orders runs with nothing queued. -/
private theorem quiet_eq_ok : (job.quiet : LiveResult _) = .ok coordinator ↔
    (job.terminalOverride = none ∧ job.statusQueue = []) ∧ job.coordinator = some coordinator := by
  simp only [quiet, Except.bind_eq_ok, Except.exists_unit, Except.failIf_eq_ok,
    Option.okOr_eq_ok, not_or, not_not, Bool.not_eq_true, Option.isSome_eq_false_iff,
    Option.isNone_iff_eq_none]

private theorem ordered_transition {call : Call} {result : LiveResult LiveCachedJob}
    (hkept : call.settles = none) (h : ∀ t, result = .ok t → ∃ order coordinator coordinator',
      job.statusQueue = [] ∧ job.coordinator = some coordinator ∧
      DistributedScheduleCoordinator.Step coordinator (order, .done (.ok ())) coordinator' ∧
      t = { job with coordinator := some coordinator' }) :
    job.Transition (call, (job.ordered result).2) (job.ordered result).1 := by
  cases result with
  | error error => exact .refused _ _ hkept rfl nofun
  | ok t =>
    obtain ⟨order, coordinator, coordinator', hempty, hc, hstep, rfl⟩ := h t rfl
    exact .ordered call order coordinator coordinator' hkept hempty hc hstep

private theorem beginStatusRound_transition (job : LiveCachedJob) :
    job.Transition (.beginStatusRound, .done job.beginStatusRound.2) job.beginStatusRound.1 := by
  unfold beginStatusRound
  cases hquiet : (job.quiet : LiveResult _) with
  | error error => exact .refused _ _ rfl rfl nofun
  | ok coordinator =>
    obtain ⟨⟨-, hempty⟩, hc⟩ := quiet_eq_ok.1 hquiet
    have hsame : ({ job with coordinator := some coordinator } : LiveCachedJob) = job := by
      rw [← hc]
    rcases coordinator.beginStatusRound_cases with ⟨-, error, hround⟩ | ⟨-, hround⟩
    · simp only [hround, hsame]
      exact .refused _ _ rfl rfl nofun
    · simp only [hround]
      exact .queried coordinator _ _ hempty hc
        (DistributedScheduleCoordinator.step_beginStatusRound hround)

private theorem beginLeaseRenewal_transition (job : LiveCachedJob)
    (renewals : List ParticipantLeaseRenewal) :
    job.Transition (.beginLeaseRenewal renewals, .done (job.beginLeaseRenewal renewals).2)
      (job.beginLeaseRenewal renewals).1 := by
  unfold beginLeaseRenewal
  split
  · exact .refused _ _ rfl rfl nofun
  · next hallowed =>
    rw [not_or, Bool.not_eq_true] at hallowed
    cases hquiet : (job.quiet : LiveResult _) with
    | error error => exact .refused _ _ rfl rfl nofun
    | ok coordinator =>
      obtain ⟨⟨-, hempty⟩, hc⟩ := quiet_eq_ok.1 hquiet
      have hsame : ({ job with coordinator := some coordinator } : LiveCachedJob) = job := by
        rw [← hc]
      rcases coordinator.beginLeaseRenewal_cases renewals with
        ⟨error, hround⟩ | ⟨staged, requests, hround, -⟩
      · simp only [hround, hsame]
        exact .refused _ _ rfl rfl nofun
      · have hstep : DistributedScheduleCoordinator.Step coordinator
            (.beginLeaseRenewal renewals, .round (.ok requests))
            { coordinator with participants := staged } := by
          show coordinator.perform (.beginLeaseRenewal renewals) = _
          rw [DistributedScheduleCoordinator.perform, hround]
        simp only [hround]
        exact .renewed renewals _ coordinator _ requests hempty hallowed.1 hc hstep

private theorem requestStop_transition (job : LiveCachedJob) :
    job.Transition (.requestStop, .done job.requestStop.2) job.requestStop.1 := by
  unfold requestStop
  split
  · exact .refused _ _ rfl rfl nofun
  · next hlive =>
    rw [Bool.not_eq_true] at hlive
    cases hc : job.coordinator with
    | none =>
      simp only
      rw [← hc]
      exact .ended hlive hc
    | some coordinator =>
      simp only
      have hdone : ∀ (call : DistributedScheduleCoordinator.Call)
          (coordinator' : DistributedScheduleCoordinator),
          coordinator.perform call = coordinator.changed (.ok coordinator') →
          DistributedScheduleCoordinator.Step coordinator (call, .done (.ok ())) coordinator' :=
        fun _ _ h => h
      split
      · cases hresult : coordinator.beginAbort with
        | error error =>
          simp only
          rw [← hc]
          exact .withdrawn _ hlive
        | ok coordinator' =>
          exact .aborting coordinator coordinator' hlive hc
            (hdone .beginAbort coordinator' (by rw [DistributedScheduleCoordinator.perform, hresult]))
      · cases hresult : coordinator.beginCancel with
        | error error =>
          simp only
          rw [← hc]
          exact .withdrawn _ hlive
        | ok coordinator' =>
          exact .cancelling coordinator coordinator' hlive hc
            (hdone .beginCancel coordinator' (by rw [DistributedScheduleCoordinator.perform, hresult]))

/-- Everything a call on a sound job can do. -/
theorem perform_cases [Sha256] {event : Call × Outcome} (hs : job.Sound)
    (h : Step job event job') : job.Transition event job' := by
  obtain ⟨call, outcome⟩ := event
  have hperform : job.perform call = (job', outcome) := h
  have hgoal : job.Transition (call, (job.perform call).2) (job.perform call).1 := by
    cases call with
    | nextOperation =>
      by_cases hrunning : job.terminalOverride = none
      · obtain ⟨mid, hreadies, hemits⟩ := nextOperation_emits hs hrunning
        exact .next _ mid _ hrunning hreadies hemits
      · have hended : job.nextOperation = (job, .ok none) := by
          rw [nextOperation, if_pos (Option.isSome_iff_ne_none.2 hrunning)]
        rw [perform, hended]
        exact .refused _ _ rfl rfl nofun
    | acceptResponse connectionId response => exact acceptResponse_transition hs response
    | abandonPending connectionId => exact abandonPending_transition hs
    | beginStart nowUiNs targetUiNs inputs =>
      refine ordered_transition rfl fun t ht => ?_
      simp only [beginStart, Except.bind_eq_ok, quiet_eq_ok, Except.mapError_eq_ok,
        Except.pure_eq_ok] at ht
      obtain ⟨coordinator, ⟨⟨-, hempty⟩, hc⟩, coordinator', hbind, rfl⟩ := ht
      refine ⟨.bindStart nowUiNs targetUiNs inputs, coordinator, coordinator', hempty, hc, ?_, rfl⟩
      show coordinator.perform _ = _
      rw [DistributedScheduleCoordinator.perform, hbind]
      rfl
    | beginConfirmation nowUiNs inputs =>
      refine ordered_transition rfl fun t ht => ?_
      simp only [beginConfirmation, Except.bind_eq_ok, quiet_eq_ok, Except.mapError_eq_ok,
        Except.pure_eq_ok] at ht
      obtain ⟨coordinator, ⟨⟨-, hempty⟩, hc⟩, coordinator', hbegin, rfl⟩ := ht
      refine ⟨.beginConfirmation nowUiNs inputs, coordinator, coordinator', hempty, hc, ?_, rfl⟩
      show coordinator.perform _ = _
      rw [DistributedScheduleCoordinator.perform, hbegin]
      rfl
    | beginStatusRound => exact beginStatusRound_transition job
    | beginLeaseRenewal renewals => exact beginLeaseRenewal_transition job renewals
    | requestStop => exact requestStop_transition job
    | markFault => exact .faulted
  rw [hperform] at hgoal
  exact hgoal

/-! ## Runs -/

omit [StorageWire] in
theorem Readies.bindings (h : job.Readies job') : job'.bindings = job.bindings := by
  cases h with
  | ready => rfl
  | cached participants fresh same => exact same
  | initialised participants coordinator identity cacheReady cached fresh same built devices =>
    exact same
  | swept coordinator coordinator' requests found empty required round => rfl

theorem Emits.bindings {result : LiveResult (Option LiveJobOperation)}
    (h : job.Emits result job') : job'.bindings = job.bindings := by
  cases h <;> rfl

/-- The bindings are those the job was built with. -/
theorem Transition.bindings {event : Call × Outcome} (h : job.Transition event job') :
    job'.bindings = job.bindings := by
  cases h with
  | next result mid job' running readies emits => exact emits.bindings.trans readies.bindings
  | delivered call outcome connectionId job' settles silent fresh readies => exact readies.bindings
  | _ => rfl

omit [StorageWire] in
theorem Readies.scheduled (h : job.Readies job') (hc : job.coordinator ≠ none) :
    job'.coordinator ≠ none := by
  cases h with
  | ready => exact hc
  | cached participants fresh same => exact hc
  | _ => simp

/-- A job that has its coordinator keeps it. -/
theorem Transition.scheduled {event : Call × Outcome} (h : job.Transition event job')
    (hc : job.coordinator ≠ none) : job'.coordinator ≠ none := by
  cases h with
  | next result mid job' running readies emits =>
    have hmid := readies.scheduled hc
    cases emits with
    | requested => simp
    | _ => exact hmid
  | delivered call outcome connectionId job' settles silent fresh readies => exact absurd fresh hc
  | refused => exact hc
  | unknown => exact hc
  | withdrawn => exact hc
  | ended live fresh => exact absurd fresh hc
  | faulted => exact hc
  | _ => simp

/-- An operation is emitted by a job that runs and was asked for the next one. -/
theorem Transition.emits {event : Call × Outcome} {operation : LiveJobOperation}
    (h : job.Transition event job') (hemitted : event.2.emitted = some operation) :
    event = (.nextOperation, .next (.ok (some operation))) ∧ job.terminalOverride = none ∧
      ∃ mid, job.Readies mid ∧ mid.Emits (.ok (some operation)) job' := by
  cases h with
  | next result mid job' running readies emits =>
    cases result with
    | error error => cases hemitted
    | ok issued =>
      cases hemitted
      exact ⟨rfl, running, mid, readies, emits⟩
  | refused call outcome kept silent undone =>
    rw [silent] at hemitted
    cases hemitted
  | unknown call outcome connectionId settles absent failed =>
    rcases failed with rfl | rfl <;> cases hemitted
  | delivered call outcome connectionId job' settles silent fresh readies =>
    rw [silent] at hemitted
    cases hemitted
  | _ => cases hemitted

/-- An emitted operation is for a participant of the job. -/
theorem Transition.known {event : Call × Outcome} {operation : LiveJobOperation}
    (h : job.Transition event job') (hemitted : event.2.emitted = some operation) :
    operation.binding ∈ job.bindings := by
  obtain ⟨-, -, mid, hreadies, hemits⟩ := h.emits hemitted
  rw [← hreadies.bindings]
  cases hemits with
  | nothing _ silent empty refused => exact absurd rfl (silent operation)
  | cache _ fresh known => exact known
  | queued request rest _ queue addressed => exact addressed.1
  | requested coordinator coordinator' request _ found empty clear step addressed =>
    exact addressed.1

/-- The artifacts of a request become the participants of a job. -/
theorem bindings_of_buildParticipants {artifacts : List LiveJobArtifacts}
    {globalManifest : Option PublishedObject} {participants : List LiveParticipant}
    (h : buildParticipants globalManifest artifacts = .ok participants) :
    participants.map (·.binding) = artifacts.map (·.binding) := by
  induction artifacts generalizing globalManifest participants with
  | nil =>
    cases h
    rfl
  | cons first rest ih =>
    simp only [buildParticipants, Except.bind_eq_ok, Except.exists_unit, Except.failIf_eq_ok,
      Except.pure_eq_ok] at h
    obtain ⟨built, hbuilt, -, later, hlater, rfl⟩ := h
    have hbinding : built.binding = first.binding := by
      simp only [buildParticipant, Except.bind_eq_ok, Except.mapError_eq_ok,
        Except.pure_eq_ok] at hbuilt
      obtain ⟨partitionUpload, -, manifestUpload, -, rfl⟩ := hbuilt
      rfl
    rw [List.map_cons, List.map_cons, hbinding, ih hlater]

theorem sound_of_tryNew {identity : DistributedJobIdentity} {artifacts : List LiveJobArtifacts}
    (h : tryNew identity artifacts = .ok job) : job.Sound := by
  simp only [tryNew, validateArtifacts, Except.bind_eq_ok, Except.exists_unit,
    Except.failIf_eq_ok, Except.pure_eq_ok, not_or, not_not] at h
  obtain ⟨⟨⟨hnonempty, -⟩, -, hconnections, hchain⟩, participants, hbuilt, last, -, rfl⟩ := h
  have hsame := bindings_of_buildParticipants hbuilt
  have hdevices : participants.map (deviceKey ·.binding.deviceId) =
      artifacts.map (deviceKey ·.binding.deviceId) := by
    have hkeys := congrArg (List.map fun binding => deviceKey binding.deviceId) hsame
    rwa [List.map_map, List.map_map] at hkeys
  refine
    { increasing := ?_
      connections := ?_
      nonempty := ?_
      scheduled := by simp
      queued := by simp
      fresh := fun _ => ⟨rfl, rfl⟩
      override := by simp }
  · rw [devices, bindings, List.map_map, List.map_map]
    show (participants.map (deviceKey ·.binding.deviceId)).Pairwise _
    rw [hdevices]
    exact List.isChain_iff_pairwise.1 hchain
  · have hids := congrArg (List.map fun binding => binding.connectionId) hsame
    rw [List.map_map, List.map_map] at hids
    rw [bindings, List.map_map, hids]
    exact hconnections
  · rw [bindings, hsame]
    simpa using hnonempty

/-- What stays outstanding across a call: it is not the one the call settles. -/
def Call.keeps (call : Call) (outstanding : Option LiveJobOperation) : Option LiveJobOperation :=
  outstanding.filter fun operation => call.settles ≠ some operation.binding.connectionId

end Calls

end LiveCachedJob

/-! ## Sessions -/

/-- A job with the operation it emitted that was neither answered nor abandoned. -/
structure LiveSession where
  job : LiveCachedJob
  outstanding : Option LiveJobOperation

namespace LiveSession

open LiveCachedJob (Call Outcome)

section Runs

variable [StorageWire] [JobWire] [ClockEstimation]

/-- A call on the job of a session. -/
def perform [Sha256] (s : LiveSession) (call : Call) : LiveSession × Outcome :=
  let (job, outcome) := s.job.perform call
  (⟨job, outcome.emitted.or (call.keeps s.outstanding)⟩, outcome)

/-- The next operation is asked for only when the one before was answered or abandoned. -/
def Ready (s : LiveSession) : Call → Prop
  | .nextOperation => s.outstanding = none
  | _ => True

instance (s : LiveSession) (call : Call) : Decidable (s.Ready call) := by
  cases call <;> unfold Ready <;> infer_instance

/-- One call of a session that is ready for it. -/
def Step [Sha256] (s : LiveSession) (event : Call × Outcome) (t : LiveSession) : Prop :=
  Run.Calls perform s event t ∧ s.Ready event.1

/-- The job is sound, and what is outstanding is for one of its participants. -/
structure Sound (s : LiveSession) : Prop where
  job : s.job.Sound
  known : ∀ operation, s.outstanding = some operation → operation.binding ∈ s.job.bindings

variable {s t : LiveSession} {event : Call × Outcome} {history : List (Call × Outcome)}
  {operation : LiveJobOperation}

omit [StorageWire] [JobWire] in
theorem keeps_eq_some {call : Call} : call.keeps s.outstanding = some operation ↔
    s.outstanding = some operation ∧ call.settles ≠ some operation.binding.connectionId := by
  simp [Call.keeps, Option.filter_eq_some_iff]

/-- A call of a session is one on its job. -/
theorem of_calls [Sha256] (h : Run.Calls perform s event t) :
    LiveCachedJob.Step s.job event t.job ∧
      t.outstanding = event.2.emitted.or (event.1.keeps s.outstanding) := by
  obtain ⟨call, outcome⟩ := event
  have hperform : s.perform call = (t, outcome) := h
  rw [perform, Prod.mk.injEq] at hperform
  obtain ⟨rfl, rfl⟩ := hperform
  exact ⟨rfl, rfl⟩

theorem sound_step [Sha256] (h : Step s event t) (hs : s.Sound) : t.Sound := by
  obtain ⟨hstep, houtstanding⟩ := of_calls h.1
  have hcases := LiveCachedJob.perform_cases hs.job hstep
  refine ⟨hcases.sound hs.job, ?_⟩
  intro operation hoperation
  rw [houtstanding, Option.or_eq_some_iff] at hoperation
  rw [hcases.bindings]
  rcases hoperation with hemitted | ⟨-, hkept⟩
  · exact hcases.known hemitted
  · exact hs.known operation (keeps_eq_some.1 hkept).1

/-- A job that was just built. -/
def start (job : LiveCachedJob) : LiveSession := ⟨job, none⟩

/-- Every session of a job that was built is sound. -/
theorem sound_of_run [Sha256] {identity : DistributedJobIdentity} {job : LiveCachedJob}
    {artifacts : List LiveJobArtifacts} (hbuilt : LiveCachedJob.tryNew identity artifacts = .ok job)
    (h : Run Step (start job) history s) : s.Sound :=
  h.invariant (fun _ _ _ hstep hs => sound_step hstep hs)
    ⟨LiveCachedJob.sound_of_tryNew hbuilt, nofun⟩

end Runs

/-! ## Two devices -/

section Sample

open HostLibrary Graph.HostLibrary
open DistributedScheduleCoordinator (deviceA deviceB sampleIdentity)
open ParticipantScheduleMachine (preparedReport)

/-- The source of a publication of one chunk. -/
def sampleSource (publication : PublishedObject) : UploadSource where
  uploadPlan := ⟨⟨7⟩, publication.object, publication.manifest, 512, 1⟩
  chunkHeader _ := none
  chunkBytes _ := none

def sampleArtifacts (connectionId : UInt64) (deviceId : DeviceId) : LiveJobArtifacts where
  binding := ⟨connectionId, 1, deviceId, sampleBoot, .replicate 32 0x71,
    .replicate 32 0x72⟩
  descriptor := sampleDescriptor
  partitionSource := sampleSource sampleDescriptor.partition
  manifestSource := sampleSource sampleIdentity.globalManifest

def sampleParticipant (connectionId : UInt64) (deviceId : DeviceId) : LiveParticipant where
  binding := (sampleArtifacts connectionId deviceId).binding
  descriptor := (sampleArtifacts connectionId deviceId).descriptor
  partitionSource := (sampleArtifacts connectionId deviceId).partitionSource
  manifestSource := (sampleArtifacts connectionId deviceId).manifestSource
  partitionUpload := ⟨(sampleArtifacts connectionId deviceId).partitionSource.uploadPlan,
    workerCachedJobLimits, .inspect, none⟩
  manifestUpload := ⟨(sampleArtifacts connectionId deviceId).manifestSource.uploadPlan,
    workerCachedJobLimits, .inspect, none⟩

/-- A job of two devices that has made no call yet. -/
def sampleJob : LiveCachedJob where
  identity := sampleIdentity
  participants := [sampleParticipant 11 deviceA, sampleParticipant 12 deviceB]
  coordinator := none
  statusQueue := []
  scheduleReconciliationSweepRequired := false
  leaseRenewalRounds := 0
  stopRequested := false
  terminalOverride := none

theorem sampleJob_built : LiveCachedJob.tryNew sampleIdentity
    [sampleArtifacts 11 deviceA, sampleArtifacts 12 deviceB] = .ok sampleJob := by
  rfl

/-- The device answers with a report. -/
def answers (connectionId : UInt64) (report : JobStatusReport) : Call :=
  .acceptResponse connectionId ⟨.ok, encodeStatus report⟩

/-- The device already has an artifact. -/
def caches (connectionId : UInt64) (publication : PublishedObject) : List Call :=
  [.nextOperation, .acceptResponse connectionId ⟨.ok, encodePublished publication⟩]

/-- Both devices have both artifacts. -/
def cachingCalls : List Call :=
  [11, 12].flatMap fun connectionId =>
    caches connectionId sampleDescriptor.partition ++
      caches connectionId sampleIdentity.globalManifest

/-- Both devices have reported their preparation. -/
def readyCalls : List Call :=
  cachingCalls ++ [.nextOperation, answers 11 preparedReport, .nextOperation,
    answers 12 preparedReport]

end Sample

end LiveSession

end Alumina.Client
