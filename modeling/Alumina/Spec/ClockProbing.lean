import Alumina.Client.HostLibrary

/-!
# Fresh clock evidence

The heartbeats that a clock model accepts answer its own probes, each at most once, and all of
one boot. The statements are about every sequence of probes, responses, abandonments and resets.

## Key results

- `acceptResponse_answer`: everything a response can do
- `Epoch.Sound`: what the calls since the last reset have established
- `clockProbing`: the discipline of every run
-/

namespace Alumina.Client

open Except (failIf)

/-- An observation that the estimator refuses is not counted among the accepted ones. -/
class LawfulClockEstimation [ClockEstimation] : Prop where
  acceptedSamples_of_refused {estimator estimator' : ClockEstimation.ClockEstimator}
    {observation : ClockObservation} {error : ClockEstimation.ClockEstimateError} :
    ClockEstimation.observe estimator observation = (estimator', .error error) →
      ClockEstimation.acceptedSamples estimator' = ClockEstimation.acceptedSamples estimator

namespace DeviceClockModel

variable [ClockEstimation] {clock clock' start : DeviceClockModel} {history : List Event}

/-! ## One call -/

/-- Everything that beginning a probe can do. -/
inductive Begun (clock : DeviceClockModel) (uiSendNs : UInt64) :
    DeviceClockModel → Except ClockProbeError ClockProbeRequest → Prop
  | refused (error : ClockProbeError) : Begun clock uiSendNs clock (.error error)
  | sent {nextProbeId : UInt64} (body : List UInt8) (idle : clock.pending = none)
      (next : nextProbeId.toNat = clock.nextProbeId.toNat + 1) :
      Begun clock uiSendNs
        { clock with pending := some ⟨clock.nextProbeId, uiSendNs⟩, nextProbeId }
        (.ok ⟨clock.nextProbeId, uiSendNs, body⟩)

theorem beginProbe_begun (clock : DeviceClockModel) (uiSendNs : UInt64) :
    Begun clock uiSendNs (clock.beginProbe uiSendNs).1 (clock.beginProbe uiSendNs).2 := by
  unfold beginProbe
  dsimp only
  split
  · exact .refused _
  · next nextProbeId body hchecked =>
    simp only [Except.bind_eq_ok, Except.exists_unit, Except.failIf_eq_ok, Option.okOr_eq_ok,
      Except.mapError_eq_ok, Except.pure_eq_ok, Prod.mk.injEq, Bool.not_eq_true,
      Option.isSome_eq_false_iff, Option.isNone_iff_eq_none] at hchecked
    obtain ⟨hidle, next, hnext, encoded, -, rfl, rfl⟩ := hchecked
    rw [UInt64.checkedAdd_eq_some] at hnext
    exact .sent encoded hidle hnext

/-- Everything that a response can do. -/
inductive Answer (clock : DeviceClockModel) (response : Response) (uiReceiveNs : UInt64) :
    DeviceClockModel → Except ClockProbeError ClockObservation → Prop
  | idle (pending : clock.pending = none) :
      Answer clock response uiReceiveNs clock (.error .noPendingRequest)
  | rejected {probe : PendingProbe} {error : ClockProbeError} (pending : clock.pending = some probe)
      (other : error ≠ .noPendingRequest) :
      Answer clock response uiReceiveNs { clock with pending := none } (.error error)
  | refused {probe : PendingProbe} {heartbeat : ClockHeartbeatResponse}
      {estimator : ClockEstimation.ClockEstimator} {error : ClockEstimation.ClockEstimateError}
      (pending : clock.pending = some probe)
      (observed : ClockEstimation.observe clock.estimator ⟨heartbeat, uiReceiveNs⟩ =
        (estimator, .error error)) :
      Answer clock response uiReceiveNs { clock with pending := none, estimator }
        (.error (.estimate error))
  | accepted {heartbeat : ClockHeartbeatResponse} {estimator : ClockEstimation.ClockEstimator}
      (pending : clock.pending = some ⟨heartbeat.probeId, heartbeat.uiSendNs⟩)
      (decoded : ClockEstimation.decodeResponse response.body = .ok heartbeat)
      (boot : ∀ bootId, clock.bootId = some bootId → heartbeat.bootId = bootId)
      (observed : ClockEstimation.observe clock.estimator ⟨heartbeat, uiReceiveNs⟩ =
        (estimator, .ok ())) :
      Answer clock response uiReceiveNs
        ⟨estimator, some heartbeat.bootId, some heartbeat, clock.nextProbeId, none⟩
        (.ok ⟨heartbeat, uiReceiveNs⟩)

theorem checkedHeartbeat_eq_ok {probe : PendingProbe} {response : Response}
    {heartbeat : ClockHeartbeatResponse} (h : clock.checkedHeartbeat probe response = .ok heartbeat) :
    ClockEstimation.decodeResponse response.body = .ok heartbeat ∧
      probe = ⟨heartbeat.probeId, heartbeat.uiSendNs⟩ ∧
        ∀ bootId, clock.bootId = some bootId → heartbeat.bootId = bootId := by
  simp only [checkedHeartbeat, Except.bind_eq_ok, Except.exists_unit, Except.failIf_eq_ok,
    Except.mapError_eq_ok, not_or, not_not] at h
  obtain ⟨-, -, decoded, hdecoded, ⟨hid, hsent⟩, hboot⟩ := h
  have hprobe : probe = ⟨decoded.probeId, decoded.uiSendNs⟩ := by rw [hid, hsent]
  cases hknown : clock.bootId with
  | none =>
    rw [hknown] at hboot
    obtain rfl : decoded = heartbeat := by simpa using hboot
    exact ⟨hdecoded, hprobe, by simp⟩
  | some bootId =>
    rw [hknown] at hboot
    obtain ⟨hsame, rfl⟩ : bootId = decoded.bootId ∧ decoded = heartbeat := by simpa using hboot
    exact ⟨hdecoded, hprobe, by simp [hsame]⟩

theorem checkedHeartbeat_ne {probe : PendingProbe} {response : Response} :
    clock.checkedHeartbeat probe response ≠ .error .noPendingRequest := by
  intro h
  simp only [checkedHeartbeat, Except.bind_eq_error, Except.failIf_eq_error,
    Except.mapError_eq_error] at h
  obtain h | ⟨-, -, h | ⟨-, -, h | ⟨heartbeat, -, h | ⟨-, -, h⟩⟩⟩⟩ := h
  · cases h.2
  · cases h.2
  · obtain ⟨error, -, h⟩ := h
    cases h
  · cases h.2
  · cases hknown : clock.bootId with
    | none =>
      rw [hknown] at h
      cases h
    | some bootId =>
      rw [hknown] at h
      obtain h | ⟨-, -, h⟩ := Except.bind_eq_error.1 h
      · rw [Except.failIf_eq_error] at h
        cases h.2
      · cases h

theorem acceptResponse_answer (clock : DeviceClockModel) (response : Response)
    (uiReceiveNs : UInt64) :
    Answer clock response uiReceiveNs (clock.acceptResponse response uiReceiveNs).1
      (clock.acceptResponse response uiReceiveNs).2 := by
  unfold acceptResponse
  cases hpending : clock.pending with
  | none => exact .idle hpending
  | some probe =>
    dsimp only
    cases hchecked : checkedHeartbeat { clock with pending := none } probe response with
    | error error =>
      apply Answer.rejected hpending
      rintro rfl
      exact checkedHeartbeat_ne hchecked
    | ok heartbeat =>
      obtain ⟨hdecoded, rfl, hboot⟩ := checkedHeartbeat_eq_ok hchecked
      dsimp only
      split
      · next estimator error hobserved => exact .refused hpending hobserved
      · next estimator hobserved => exact .accepted hpending hdecoded hboot hobserved

/-! ### The call of a step -/

variable {uiSendNs uiReceiveNs : UInt64} {response : Response}

theorem Step.begun {result : Except ClockProbeError ClockProbeRequest}
    (h : Step clock (.beginProbe uiSendNs result) clock') : Begun clock uiSendNs clock' result := by
  cases h
  exact beginProbe_begun clock uiSendNs

theorem Step.answer {result : Except ClockProbeError ClockObservation}
    (h : Step clock (.acceptResponse response uiReceiveNs result) clock') :
    Answer clock response uiReceiveNs clock' result := by
  cases h
  exact acceptResponse_answer clock response uiReceiveNs

theorem Step.abandoned {abandoned : Bool} (h : Step clock (.abandonPending abandoned) clock') :
    abandoned = clock.pending.isSome ∧ clock' = { clock with pending := none } := by
  cases h
  exact ⟨rfl, rfl⟩

theorem Step.reset_cases {result : Except ClockProbeError Unit}
    (h : Step clock (.reset result) clock') :
    (∃ error, result = .error error ∧ clock' = clock) ∨
      (result = .ok () ∧ clock.pending = none ∧
        clock' = ⟨ClockEstimation.reset clock.estimator, none, none, 1, none⟩) := by
  cases h
  unfold DeviceClockModel.reset
  by_cases hpending : clock.pending.isSome
  · rw [if_pos hpending]
    exact Or.inl ⟨_, rfl, rfl⟩
  · rw [if_neg hpending]
    exact Or.inr ⟨rfl, by simpa using hpending, rfl⟩

/-! ## Epochs -/

/-- The probes begun and the observations accepted since the last reset. -/
structure Epoch where
  probes : List PendingProbe
  accepted : List ClockObservation

def Epoch.record (epoch : Epoch) : Event → Epoch
  | .beginProbe _ (.ok request) =>
    { epoch with probes := epoch.probes ++ [⟨request.probeId, request.uiSendNs⟩] }
  | .acceptResponse _ _ (.ok observation) =>
    { epoch with accepted := epoch.accepted ++ [observation] }
  | .reset (.ok ()) => ⟨[], []⟩
  | _ => epoch

def epoch (history : List Event) : Epoch := history.foldl Epoch.record ⟨[], []⟩

@[simp] theorem epoch_snoc {event : Event} :
    epoch (history ++ [event]) = (epoch history).record event := by
  rw [epoch, epoch, List.foldl_append, List.foldl_cons, List.foldl_nil]

/-- What the calls since the last reset have established. -/
structure Epoch.Sound (epoch : Epoch) (clock : DeviceClockModel) : Prop where
  /-- Probe identifiers strictly increase. -/
  increasing : (epoch.probes.map PendingProbe.probeId).Pairwise (· < ·)
  /-- An identifier that was spent does not come again. -/
  spent : ∀ probe ∈ epoch.probes, probe.probeId < clock.nextProbeId
  /-- The pending probe is the one begun last. -/
  pending : ∀ probe, clock.pending = some probe → epoch.probes.getLast? = some probe
  /-- Every accepted heartbeat answers a probe that is not pending any more. -/
  answered : ∀ observation ∈ epoch.accepted,
    ⟨observation.response.probeId, observation.response.uiSendNs⟩ ∈ epoch.probes ∧
      ∀ probe, clock.pending = some probe → observation.response.probeId < probe.probeId
  /-- The heartbeats are accepted in the order of their probes, each probe at most once. -/
  fresh : (epoch.accepted.map fun observation => observation.response.probeId).Pairwise (· < ·)
  /-- All accepted observations carry the boot identity that is retained. -/
  boot : ∀ observation ∈ epoch.accepted, clock.bootId = some observation.response.bootId
  /-- The latest response is the one accepted last. -/
  latest : clock.latestResponse = epoch.accepted.getLast?.map ClockObservation.response

theorem Epoch.sound_new {policy : ClockEstimation.ClockEstimationPolicy}
    (h : new policy = .ok start) : Epoch.Sound ⟨[], []⟩ start := by
  simp only [new, Except.bind_eq_ok, Except.mapError_eq_ok, Except.pure_eq_ok] at h
  obtain ⟨estimator, -, rfl⟩ := h
  constructor <;> simp

/-- Dropping the pending probe forgets nothing that was established. -/
theorem Epoch.Sound.idle {epoch : Epoch} {estimator : ClockEstimation.ClockEstimator}
    (h : epoch.Sound clock) : epoch.Sound { clock with pending := none, estimator } where
  increasing := h.increasing
  spent := h.spent
  pending := by simp
  answered observation hmem := ⟨(h.answered observation hmem).1, by simp⟩
  fresh := h.fresh
  boot := h.boot
  latest := h.latest

theorem Epoch.Sound.begin {epoch : Epoch} {uiSendNs nextProbeId : UInt64} {body : List UInt8}
    (h : epoch.Sound clock) (hnext : nextProbeId.toNat = clock.nextProbeId.toNat + 1) :
    (epoch.record (.beginProbe uiSendNs (.ok ⟨clock.nextProbeId, uiSendNs, body⟩))).Sound
      { clock with pending := some ⟨clock.nextProbeId, uiSendNs⟩, nextProbeId } := by
  have hlt : clock.nextProbeId < nextProbeId := by
    rw [UInt64.lt_iff_toNat_lt]
    omega
  constructor
  · show ((epoch.probes ++ [_]).map PendingProbe.probeId).Pairwise (· < ·)
    rw [List.map_append, List.pairwise_append]
    refine ⟨h.increasing, by simp, ?_⟩
    intro earlier hearlier later hlater
    obtain ⟨probe, hprobe, rfl⟩ := List.mem_map.1 hearlier
    obtain rfl : later = clock.nextProbeId := by simpa using hlater
    exact h.spent probe hprobe
  · intro probe hprobe
    obtain hold | hnew := List.mem_append.1 hprobe
    · exact UInt64.lt_trans (h.spent probe hold) hlt
    · obtain rfl := List.mem_singleton.1 hnew
      exact hlt
  · intro probe hprobe
    obtain rfl := Option.some.inj hprobe
    exact List.getLast?_concat
  · intro observation hmem
    obtain ⟨hbegun, -⟩ := h.answered observation hmem
    refine ⟨List.mem_append_left _ hbegun, ?_⟩
    intro probe hprobe
    obtain rfl := Option.some.inj hprobe
    exact h.spent _ hbegun
  · exact h.fresh
  · exact h.boot
  · exact h.latest

theorem Epoch.Sound.accept {epoch : Epoch} {heartbeat : ClockHeartbeatResponse}
    {estimator : ClockEstimation.ClockEstimator} (h : epoch.Sound clock)
    (hpending : clock.pending = some ⟨heartbeat.probeId, heartbeat.uiSendNs⟩)
    (hboot : ∀ bootId, clock.bootId = some bootId → heartbeat.bootId = bootId) :
    (epoch.record (.acceptResponse response uiReceiveNs (.ok ⟨heartbeat, uiReceiveNs⟩))).Sound
      ⟨estimator, some heartbeat.bootId, some heartbeat, clock.nextProbeId, none⟩ := by
  have hbegun := List.mem_of_getLast? (h.pending _ hpending)
  constructor
  · exact h.increasing
  · exact h.spent
  · simp
  · intro observation hmem
    refine ⟨?_, by simp⟩
    obtain hold | hnew := List.mem_append.1 hmem
    · exact (h.answered observation hold).1
    · obtain rfl := List.mem_singleton.1 hnew
      exact hbegun
  · show ((epoch.accepted ++ [_]).map _).Pairwise (· < ·)
    rw [List.map_append, List.pairwise_append]
    refine ⟨h.fresh, by simp, ?_⟩
    intro earlier hearlier later hlater
    obtain ⟨observation, hobservation, rfl⟩ := List.mem_map.1 hearlier
    obtain rfl : later = heartbeat.probeId := by simpa using hlater
    exact (h.answered observation hobservation).2 _ hpending
  · intro observation hmem
    obtain hold | hnew := List.mem_append.1 hmem
    · rw [hboot _ (h.boot observation hold)]
    · obtain rfl := List.mem_singleton.1 hnew
      rfl
  · show some heartbeat = Option.map _ (epoch.accepted ++ [_]).getLast?
    rw [List.getLast?_concat]
    rfl

/-- Every call keeps the epoch sound. -/
theorem Epoch.Sound.step {epoch : Epoch} {event : Event} (h : epoch.Sound clock)
    (hstep : Step clock event clock') : (epoch.record event).Sound clock' := by
  cases event with
  | beginProbe uiSendNs result =>
    cases hstep.begun with
    | refused error => exact h
    | sent body idle next => exact h.begin next
  | acceptResponse response uiReceiveNs result =>
    cases hstep.answer with
    | idle pending => exact h
    | rejected pending other => exact h.idle
    | refused pending observed => exact h.idle
    | accepted pending decoded boot observed => exact h.accept pending boot
  | abandonPending abandoned =>
    obtain ⟨-, rfl⟩ := hstep.abandoned
    exact h.idle
  | reset result =>
    obtain ⟨error, rfl, rfl⟩ | ⟨rfl, -, rfl⟩ := hstep.reset_cases
    · exact h
    · constructor <;> simp [Epoch.record]

/-! ## Counting -/

/-- The call began a probe. -/
def Event.begins : Event → Bool
  | .beginProbe _ (.ok _) => true
  | _ => false

/-- The call ended the probe that was pending. -/
def Event.settles : Event → Bool
  | .acceptResponse _ _ (.error .noPendingRequest) => false
  | .acceptResponse _ _ _ => true
  | .abandonPending abandoned => abandoned
  | _ => false

/-- How many probes are pending. -/
def outstanding (clock : DeviceClockModel) : Nat :=
  if clock.pending.isSome then 1 else 0

/-- A call begins a probe only while none is pending, and only a settling call ends one. -/
theorem outstanding_step {event : Event} (hstep : Step clock event clock') :
    clock'.outstanding + (if event.settles then 1 else 0) =
      clock.outstanding + (if event.begins then 1 else 0) := by
  cases event with
  | beginProbe uiSendNs result =>
    cases hstep.begun with
    | refused error => rfl
    | sent body idle next => simp [outstanding, Event.begins, Event.settles, idle]
  | acceptResponse response uiReceiveNs result =>
    cases hstep.answer with
    | idle pending => rfl
    | rejected pending other => simp [outstanding, Event.begins, Event.settles, pending, other]
    | refused pending observed => simp [outstanding, Event.begins, Event.settles, pending]
    | accepted pending decoded boot observed =>
      simp [outstanding, Event.begins, Event.settles, pending]
  | abandonPending abandoned =>
    obtain ⟨rfl, rfl⟩ := hstep.abandoned
    cases hpending : clock.pending <;> simp [outstanding, Event.begins, Event.settles, hpending]
  | reset result =>
    obtain ⟨error, rfl, rfl⟩ | ⟨rfl, hidle, rfl⟩ := hstep.reset_cases
    · rfl
    · simp [outstanding, Event.begins, Event.settles, hidle]

theorem begins_eq_settles (h : Run Step start history clock) (hstart : start.pending = none) :
    history.countP Event.begins = history.countP Event.settles + clock.outstanding := by
  have hinitial : ([] : List Event).countP Event.begins =
      ([] : List Event).countP Event.settles + start.outstanding := by
    simp [outstanding, hstart]
  refine h.along_history (p := fun past clock =>
    past.countP Event.begins = past.countP Event.settles + clock.outstanding) ?_ hinitial
  intro past s event t hstep hcount
  have hone := outstanding_step hstep
  rw [List.countP_append, List.countP_append, List.countP_singleton, List.countP_singleton]
  omega

/-! ## The contract -/

/-- What holds of the model and of its next call after any calls. -/
structure ProbeDiscipline (history : List Event) (clock : DeviceClockModel) : Prop where
  /-- Every probe begun so far but at most one has been settled. -/
  single : clock.outstanding ≤ 1 ∧
    history.countP Event.begins = history.countP Event.settles + clock.outstanding
  sound : (epoch history).Sound clock
  /-- A probe begins only while none is pending, with the next identifier. -/
  begun : ∀ uiSendNs request clock', Step clock (.beginProbe uiSendNs (.ok request)) clock' →
    clock.pending = none ∧ clock'.pending = some ⟨request.probeId, uiSendNs⟩ ∧
      request.uiSendNs = uiSendNs ∧ request.probeId = clock.nextProbeId ∧
        clock'.nextProbeId.toNat = request.probeId.toNat + 1
  /-- A probe that cannot begin, also for want of identifiers, changes nothing. -/
  unbegun : ∀ uiSendNs error clock', Step clock (.beginProbe uiSendNs (.error error)) clock' →
    clock' = clock
  /-- A response is accepted for the pending probe, with its identifier and send time, and for
  no other. -/
  accepts : ∀ response uiReceiveNs observation clock',
    Step clock (.acceptResponse response uiReceiveNs (.ok observation)) clock' →
      clock.pending = some ⟨observation.response.probeId, observation.response.uiSendNs⟩ ∧
        ClockEstimation.decodeResponse response.body = .ok observation.response ∧
        observation.uiReceiveNs = uiReceiveNs ∧ clock'.pending = none ∧
        ∀ earlier ∈ (epoch history).accepted,
          earlier.response.probeId < observation.response.probeId ∧
            earlier.response.bootId = observation.response.bootId
  /-- A rejected response consumes the pending probe. Only an observation that the estimator
  itself refused has reached the estimator, which does not count it. -/
  rejects : ∀ response uiReceiveNs error clock',
    Step clock (.acceptResponse response uiReceiveNs (.error error)) clock' →
      clock'.pending = none ∧ clock'.bootId = clock.bootId ∧
        clock'.latestResponse = clock.latestResponse ∧ clock'.nextProbeId = clock.nextProbeId ∧
        epoch (history ++ [.acceptResponse response uiReceiveNs (.error error)]) = epoch history ∧
        clock'.acceptedSamples = clock.acceptedSamples ∧
        (clock'.estimator = clock.estimator ∨ ∃ observation refusal, error = .estimate refusal ∧
          ClockEstimation.observe clock.estimator observation =
            (clock'.estimator, .error refusal))

/-- Heartbeats are accepted only as fresh answers to the pending probe, in every run. -/
theorem clockProbing [LawfulClockEstimation] {policy : ClockEstimation.ClockEstimationPolicy}
    (hnew : new policy = .ok start) (h : Run Step start history clock) :
    ProbeDiscipline history clock := by
  have hinitial : (epoch []).Sound start := Epoch.sound_new hnew
  have hsound : (epoch history).Sound clock := by
    refine h.along_history (p := fun past clock => (epoch past).Sound clock) ?_ hinitial
    intro past s event t hstep hpast
    rw [epoch_snoc]
    exact hpast.step hstep
  have hstart : start.pending = none := by
    simp only [new, Except.bind_eq_ok, Except.mapError_eq_ok, Except.pure_eq_ok] at hnew
    obtain ⟨estimator, -, rfl⟩ := hnew
    rfl
  refine ⟨⟨?_, begins_eq_settles h hstart⟩, hsound, ?_, ?_, ?_, ?_⟩
  · unfold outstanding
    split <;> omega
  · intro uiSendNs request clock' hstep
    cases hstep.begun with
    | sent body idle next => exact ⟨idle, rfl, rfl, rfl, next⟩
  · intro uiSendNs error clock' hstep
    cases hstep.begun with
    | refused error => rfl
  · intro response uiReceiveNs observation clock' hstep
    cases hstep.answer with
    | accepted pending decoded boot observed =>
      refine ⟨pending, decoded, rfl, rfl, ?_⟩
      intro earlier hearlier
      refine ⟨(hsound.answered earlier hearlier).2 _ pending, ?_⟩
      exact (boot _ (hsound.boot earlier hearlier)).symm
  · intro response uiReceiveNs error clock' hstep
    rw [epoch_snoc]
    cases hstep.answer with
    | idle pending => exact ⟨pending, rfl, rfl, rfl, rfl, rfl, Or.inl rfl⟩
    | rejected pending other => exact ⟨rfl, rfl, rfl, rfl, rfl, rfl, Or.inl rfl⟩
    | refused pending observed =>
      refine ⟨rfl, rfl, rfl, rfl, rfl, ?_, Or.inr ⟨_, _, rfl, observed⟩⟩
      exact LawfulClockEstimation.acceptedSamples_of_refused observed

end DeviceClockModel

/-! ## A concrete clock -/

section Concrete

open HostLibrary

scoped instance lawfulClockEstimation : LawfulClockEstimation where
  acceptedSamples_of_refused {estimator estimator' observation error} h := by
    have hobserve : LinearClock.observe estimator observation = (estimator', .error error) := h
    unfold LinearClock.observe at hobserve
    dsimp only at hobserve
    split at hobserve
    · obtain rfl := (Prod.mk.inj hobserve).1
      rfl
    · cases (Prod.mk.inj hobserve).2

theorem clockProbing_linearClock :
    ∃ start, DeviceClockModel.new (300 : UInt64) = .ok start ∧
      ∀ history clock, Run DeviceClockModel.Step start history clock →
        DeviceClockModel.ProbeDiscipline history clock :=
  ⟨_, rfl, fun _ _ h => DeviceClockModel.clockProbing rfl h⟩

end Concrete

end Alumina.Client
