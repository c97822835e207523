import Alumina.Client.WorkerLibrary

/-!
# Evidence of the live session

The view keeps five collections of evidence beside the device snapshots. After every event each
entry belongs to a connection that is present and has the generation of its snapshot, and the
visual assets of a connection belong to the capability that is displayed for it.

One event breaks the last part: a capability document is displayed whenever the generation is
the live one, while the visual assets of the capability it replaces stay. `Bound` is therefore
kept by exactly the events that are not such a replacement.

## Key results

- `bound_apply_iff`: which events keep the evidence bound
- `retains_of_rejects`: a rejected event leaves all evidence alone
- `rejects_or_reports`: nothing else reports a rejection
- `evidenceBinding`: the evidence is bound over every run without such a replacement
-/

namespace Alumina.Client

open Except (failIf)
open Alumina.Graph (Digest Sha256)

/-! ## Bound evidence -/

/-- A connection is present and has this generation. -/
def Live (devices : PartialMap UInt64 DeviceSessionSnapshot) (connectionId generation : UInt64) :
    Prop :=
  ∃ device, devices.get? connectionId = some device ∧ device.generation = generation

/-- The capability displayed for a connection has this digest. -/
def Displays (capabilities : PartialMap UInt64 ConnectedCapabilityView) (connectionId : UInt64)
    (digest : Digest) : Prop :=
  ∃ capability, capabilities.get? connectionId = some capability ∧
    capability.board.identity.digest = digest

section Evidence

variable [CapabilityWire] [DiagnosticWire] [WorkerWire]

/-- A telemetry history within its bound, all of it decodable, in strictly increasing order. -/
structure ConnectedTelemetryView.Ordered (telemetry : ConnectedTelemetryView) : Prop where
  bounded : telemetry.events.length ≤ maximumClockHistory
  decoded : telemetry.decodedEvents.length = telemetry.events.length
  increasing : (telemetry.decodedEvents.map (·.eventSequence)).Pairwise (· < ·)

namespace MutableSupervisorView

/-- Every retained entry belongs to the live session of its connection. -/
structure Bound (view : MutableSupervisorView) : Prop where
  devices : ∀ key device, view.devices.get? key = some device → device.connectionId = key
  networks : ∀ key network, view.networks.get? key = some network →
    network.connectionId = key ∧ Live view.devices key network.generation
  capabilities : ∀ key capability, view.capabilities.get? key = some capability →
    capability.connectionId = key ∧ Live view.devices key capability.generation
  visuals : ∀ key visual, view.visuals.get? key = some visual →
    visual.connectionId = key.1 ∧ Live view.devices key.1 visual.generation ∧
      Displays view.capabilities key.1 visual.capabilityDigest
  telemetry : ∀ key telemetry, view.telemetry.get? key = some telemetry →
    (telemetry.connectionId = key ∧ Live view.devices key telemetry.generation) ∧
      telemetry.Ordered
  waveforms : ∀ key waveform, view.waveforms.get? key = some waveform →
    waveform.connectionId = key ∧ Live view.devices key waveform.generation

theorem bound_initial : initial.Bound := by
  constructor <;> intro key entry h <;> cases h

/-- Two views retain the same evidence. -/
structure Retains (view next : MutableSupervisorView) : Prop where
  devices : next.devices = view.devices
  networks : next.networks = view.networks
  job : next.job = view.job
  capabilities : next.capabilities = view.capabilities
  visuals : next.visuals = view.visuals
  telemetry : next.telemetry = view.telemetry
  waveforms : next.waveforms = view.waveforms

variable {view next : MutableSupervisorView} {message : String}

omit [CapabilityWire] [DiagnosticWire] [WorkerWire] in
theorem retains_pushDiagnostic : view.Retains (view.pushDiagnostic message) :=
  ⟨rfl, rfl, rfl, rfl, rfl, rfl, rfl⟩

/-- Being bound is a property of the evidence alone. -/
theorem Bound.of_retains (h : view.Bound) (hsame : view.Retains next) : next.Bound := by
  constructor
  · rw [hsame.devices]
    exact h.devices
  · rw [hsame.devices, hsame.networks]
    exact h.networks
  · rw [hsame.devices, hsame.capabilities]
    exact h.capabilities
  · rw [hsame.devices, hsame.capabilities, hsame.visuals]
    exact h.visuals
  · rw [hsame.devices, hsame.telemetry]
    exact h.telemetry
  · rw [hsame.devices, hsame.waveforms]
    exact h.waveforms

end MutableSupervisorView

end Evidence

/-! ## Sessions -/

section Sessions

variable {devices : PartialMap UInt64 DeviceSessionSnapshot}
  {capabilities : PartialMap UInt64 ConnectedCapabilityView}
  {snapshot : DeviceSessionSnapshot} {connectionId key generation : UInt64} {digest : Digest}

theorem Live.insert_of_ne (h : Live devices key generation) (hne : key ≠ connectionId) :
    Live (devices.insert connectionId snapshot) key generation := by
  obtain ⟨device, hdevice, hgeneration⟩ := h
  exact ⟨device, by rw [PartialMap.insert_of_ne hne, hdevice], hgeneration⟩

theorem Live.erase_of_ne (h : Live devices key generation) (hne : key ≠ connectionId) :
    Live (devices.erase connectionId) key generation := by
  obtain ⟨device, hdevice, hgeneration⟩ := h
  exact ⟨device, by rw [PartialMap.erase_of_ne hne, hdevice], hgeneration⟩

/-- The entry of a connection is live after a snapshot if it had the snapshot's generation. -/
theorem Live.insert (h : Live devices key generation)
    (hsame : key = connectionId → generation = snapshot.generation) :
    Live (devices.insert connectionId snapshot) key generation := by
  by_cases heq : key = connectionId
  · rw [hsame heq, heq]
    exact ⟨snapshot, PartialMap.insert_self, rfl⟩
  · exact h.insert_of_ne heq

theorem live_of_session {view : MutableSupervisorView}
    (h : view.session connectionId generation = some snapshot) :
    Live view.devices connectionId generation := by
  rw [MutableSupervisorView.session, Option.filter_eq_some_iff, decide_eq_true_eq] at h
  exact ⟨snapshot, h.1, h.2⟩

end Sessions

/-! ## Event lists -/

/-- Without its oldest event a decodable history decodes to the rest. -/
theorem filterMap_drop_one {decode : List UInt8 → Option TelemetryEventView}
    {events : List (List UInt8)} (h : (events.filterMap decode).length = events.length) :
    (events.drop 1).filterMap decode = (events.filterMap decode).drop 1 := by
  cases events with
  | nil => rfl
  | cons oldest rest =>
    have hrest := List.length_filterMap_le decode rest
    cases holdest : decode oldest with
    | none =>
      rw [List.filterMap_cons_none holdest, List.length_cons] at h
      omega
    | some event =>
      rw [List.filterMap_cons_some holdest, List.drop_one, List.drop_one, List.tail_cons,
        List.tail_cons]

/-- An event newer than the latest one is above every event of an ordered history. -/
theorem above_of_newer {history : List TelemetryEventView} {event past : TelemetryEventView}
    (hordered : (history.map (·.eventSequence)).Pairwise (· < ·))
    (hnewer : history.getLast?.all event.newer) (hpast : past ∈ history) :
    past.eventSequence < event.eventSequence := by
  induction history using List.reverseRecOn with
  | nil => cases hpast
  | append_singleton before newest _ =>
    rw [List.getLast?_concat, Option.all_some] at hnewer
    simp only [TelemetryEventView.newer, Bool.and_eq_true, decide_eq_true_eq] at hnewer
    rw [List.mem_append, List.mem_singleton] at hpast
    cases hpast with
    | inl hbefore =>
      rw [List.map_append, List.pairwise_append] at hordered
      have hlast := hordered.2.2 _ (List.mem_map_of_mem hbefore) newest.eventSequence (by simp)
      exact UInt64.lt_trans hlast hnewer.1.1
    | inr hsame =>
      rw [hsame]
      exact hnewer.1.1

namespace MutableSupervisorView

variable [CapabilityWire] [DiagnosticWire] [WorkerWire]

/-! ## Snapshots and removals -/

section Snapshots

variable {view : MutableSupervisorView} {snapshot : DeviceSessionSnapshot}

/-- A snapshot names the digest of the capability it admits. -/
theorem digest_of_admitsCapability {capability : ConnectedCapabilityView}
    (h : admitsCapability snapshot capability) :
    ∃ identity, snapshot.capabilityIdentity = some identity ∧
      identity.digest = capability.board.identity.digest := by
  simp only [admitsCapability, Bool.and_eq_true, decide_eq_true_eq, Option.bind_eq_some_iff,
    Except.toOption_eq_some] at h
  obtain ⟨-, identity, hidentity, hprojected⟩ := h
  simp only [CapabilityIdentitySnapshot.identity, Except.bind_eq_ok, Except.exists_unit,
    Except.failIf_eq_ok, Except.pure_eq_ok] at hprojected
  exact ⟨identity, hidentity, by rw [← hprojected.2]⟩

theorem bound_applySnapshot (h : view.Bound) : (view.applySnapshot snapshot).Bound := by
  constructor
  · intro key device hdevice
    rw [applySnapshot, PartialMap.insert_eq_some] at hdevice
    obtain ⟨rfl, rfl⟩ | ⟨-, hdevice⟩ := hdevice
    · rfl
    · exact h.devices key device hdevice
  · intro key network hnetwork
    simp only [applySnapshot, PartialMap.retain_eq_some, Bool.or_eq_true, decide_eq_true_eq]
      at hnetwork
    obtain ⟨hid, hlive⟩ := h.networks key network hnetwork.1
    exact ⟨hid, hlive.insert fun heq => hnetwork.2.resolve_left (not_not.2 heq)⟩
  · intro key capability hcapability
    simp only [applySnapshot, PartialMap.prune_eq_some, Bool.not_eq_false'] at hcapability
    obtain ⟨hid, hlive⟩ := h.capabilities key capability hcapability.1
    refine ⟨hid, hlive.insert fun heq => ?_⟩
    have hadmits := hcapability.2 heq
    simp only [admitsCapability, Bool.and_eq_true, decide_eq_true_eq] at hadmits
    exact hadmits.1.1
  · intro key visual hvisual
    simp only [applySnapshot, PartialMap.retain_eq_some, Bool.or_eq_true, decide_eq_true_eq,
      Bool.and_eq_true] at hvisual
    obtain ⟨hid, hlive, displayed, hdisplayed, hdigest⟩ := h.visuals key visual hvisual.1
    refine ⟨hid, hlive.insert fun heq => (hvisual.2.resolve_left (not_not.2 heq)).1.2, ?_⟩
    by_cases heq : key.1 = snapshot.connectionId
    · -- the snapshot admits the displayed capability, which has the digest of the visual
      obtain ⟨⟨hadmitted, -⟩, hnamed⟩ := hvisual.2.resolve_left (not_not.2 heq)
      rw [Option.any_eq_true] at hadmitted hnamed
      obtain ⟨capability, hcapability, hadmits⟩ := hadmitted
      obtain ⟨named, hnamed, hsame⟩ := hnamed
      obtain ⟨identity, hidentity, hboard⟩ := digest_of_admitsCapability hadmits
      rw [hnamed, Option.some.injEq] at hidentity
      subst hidentity
      rw [decide_eq_true_eq] at hsame
      rw [heq]
      exact ⟨capability, hcapability, by rw [← hboard, hsame]⟩
    · refine ⟨displayed, ?_, hdigest⟩
      show (PartialMap.prune _ _ _).get? key.1 = _
      rw [PartialMap.prune_eq_some]
      exact ⟨hdisplayed, fun hsame => absurd hsame heq⟩
  · intro key telemetry htelemetry
    simp only [applySnapshot, PartialMap.prune_eq_some, Bool.not_eq_false'] at htelemetry
    obtain ⟨⟨hid, hlive⟩, hordered⟩ := h.telemetry key telemetry htelemetry.1
    refine ⟨⟨hid, hlive.insert fun heq => ?_⟩, hordered⟩
    have hadmits := htelemetry.2 heq
    simp only [admitsTelemetry, Bool.and_eq_true, decide_eq_true_eq] at hadmits
    exact hadmits.1.1
  · intro key waveform hwaveform
    simp only [applySnapshot, PartialMap.prune_eq_some, Bool.or_eq_false_iff,
      decide_eq_false_iff_not, not_not] at hwaveform
    obtain ⟨hid, hlive⟩ := h.waveforms key waveform hwaveform.1
    exact ⟨hid, hlive.insert fun heq => (hwaveform.2 heq).1⟩

theorem bound_applyRemoved {connectionId : UInt64} (h : view.Bound) :
    (view.applyRemoved connectionId).Bound := by
  constructor
  · intro key device hdevice
    rw [applyRemoved, PartialMap.erase_eq_some] at hdevice
    exact h.devices key device hdevice.2
  · intro key network hnetwork
    rw [applyRemoved, PartialMap.erase_eq_some] at hnetwork
    obtain ⟨hid, hlive⟩ := h.networks key network hnetwork.2
    exact ⟨hid, hlive.erase_of_ne hnetwork.1⟩
  · intro key capability hcapability
    rw [applyRemoved, PartialMap.erase_eq_some] at hcapability
    obtain ⟨hid, hlive⟩ := h.capabilities key capability hcapability.2
    exact ⟨hid, hlive.erase_of_ne hcapability.1⟩
  · intro key visual hvisual
    rw [applyRemoved, PartialMap.retain_eq_some, decide_eq_true_eq] at hvisual
    obtain ⟨hid, hlive, displayed, hdisplayed, hdigest⟩ := h.visuals key visual hvisual.1
    refine ⟨hid, hlive.erase_of_ne hvisual.2, displayed, ?_, hdigest⟩
    exact PartialMap.erase_eq_some.2 ⟨hvisual.2, hdisplayed⟩
  · intro key telemetry htelemetry
    rw [applyRemoved, PartialMap.erase_eq_some] at htelemetry
    obtain ⟨⟨hid, hlive⟩, hordered⟩ := h.telemetry key telemetry htelemetry.2
    exact ⟨⟨hid, hlive.erase_of_ne htelemetry.1⟩, hordered⟩
  · intro key waveform hwaveform
    rw [applyRemoved, PartialMap.erase_eq_some] at hwaveform
    obtain ⟨hid, hlive⟩ := h.waveforms key waveform hwaveform.2
    exact ⟨hid, hlive.erase_of_ne hwaveform.1⟩

end Snapshots

/-! ## Telemetry histories -/

section Histories

open ConnectedTelemetryView

variable {entry : ConnectedTelemetryView} {subscription : TelemetrySubscribeView}

theorem decodedEvents_eq (h : decodeSubscription entry.subscription = some subscription) :
    entry.decodedEvents = entry.events.filterMap (decodeEventOf subscription) := by
  unfold decodedEvents
  rw [h]

/-- Where every event decodes, the newest one is the last decoded one. -/
theorem latest_eq (h : decodeSubscription entry.subscription = some subscription)
    (hdecoded : entry.decodedEvents.length = entry.events.length) :
    entry.latest = entry.decodedEvents.getLast? := by
  have hlatest : entry.latest = entry.events.getLast?.bind (decodeEventOf subscription) := by
    unfold latest
    rw [h]
    rfl
  rw [decodedEvents_eq h] at hdecoded ⊢
  rw [hlatest]
  induction hevents : entry.events using List.reverseRecOn with
  | nil => rfl
  | append_singleton past newest _ =>
    rw [hevents, List.filterMap_append, List.length_append, List.length_append,
      List.length_singleton] at hdecoded
    have hpast := List.length_filterMap_le (decodeEventOf subscription) past
    rw [List.getLast?_concat, Option.bind_some, List.filterMap_append]
    cases hnewest : decodeEventOf subscription newest with
    | none =>
      rw [List.filterMap_cons_none hnewest, List.filterMap_nil, List.length_nil] at hdecoded
      omega
    | some event =>
      rw [List.filterMap_cons_some hnewest, List.filterMap_nil, List.getLast?_concat]

/-- The history after an event that continues it. -/
theorem ordered_push {event : TelemetryEventView} {bytes : List UInt8} (h : entry.Ordered)
    (hsubscription : decodeSubscription entry.subscription = some subscription)
    (hevent : decodeEventOf subscription bytes = some event)
    (hnewer : entry.latest.all event.newer) :
    ({ entry with
      events := (if entry.events.length = maximumClockHistory then entry.events.drop 1
        else entry.events) ++ [bytes] } : ConnectedTelemetryView).Ordered := by
  have hbounded := h.bounded
  have hdecoded := h.decoded
  have hincreasing := h.increasing
  rw [latest_eq hsubscription hdecoded] at hnewer
  rw [decodedEvents_eq hsubscription] at hdecoded hincreasing hnewer
  have hkept : ∃ kept : List (List UInt8), kept = (if entry.events.length = maximumClockHistory
      then entry.events.drop 1 else entry.events) ∧ kept.length < maximumClockHistory ∧
      (kept.filterMap (decodeEventOf subscription)).length = kept.length ∧
      ∃ count, kept.filterMap (decodeEventOf subscription) =
        (entry.events.filterMap (decodeEventOf subscription)).drop count := by
    by_cases hfull : entry.events.length = maximumClockHistory
    · have hdrop := filterMap_drop_one hdecoded
      refine ⟨entry.events.drop 1, by rw [if_pos hfull], ?_, ?_, 1, hdrop⟩
      · rw [List.length_drop, hfull]
        decide
      · rw [hdrop, List.length_drop, List.length_drop, hdecoded]
    · exact ⟨entry.events, by rw [if_neg hfull], by omega, hdecoded, 0, by rw [List.drop_zero]⟩
  obtain ⟨kept, hkept, hroom, hall, count, hsuffix⟩ := hkept
  rw [← hkept]
  have hpushed : decodedEvents { entry with events := kept ++ [bytes] } =
      kept.filterMap (decodeEventOf subscription) ++ [event] := by
    have hevents : decodedEvents { entry with events := kept ++ [bytes] } =
        (kept ++ [bytes]).filterMap (decodeEventOf subscription) :=
      decodedEvents_eq hsubscription
    rw [hevents, List.filterMap_append, List.filterMap_cons_some hevent, List.filterMap_nil]
  constructor
  · show (kept ++ [bytes]).length ≤ _
    rw [List.length_append, List.length_singleton]
    omega
  · rw [hpushed]
    show _ = (kept ++ [bytes]).length
    rw [List.length_append, List.length_append, hall, List.length_singleton,
      List.length_singleton]
  · rw [hpushed, List.map_append, List.pairwise_append]
    refine ⟨?_, List.pairwise_singleton _ _, ?_⟩
    · rw [hsuffix, List.map_drop]
      exact hincreasing.sublist (List.drop_sublist _ _)
    · intro earlier hearlier later hlater
      rw [List.map_singleton, List.mem_singleton] at hlater
      subst hlater
      rw [List.mem_map] at hearlier
      obtain ⟨past, hpast, rfl⟩ := hearlier
      rw [hsuffix] at hpast
      exact above_of_newer hincreasing hnewer (List.mem_of_mem_drop hpast)

end Histories

/-! ## Transfers -/

section Transfers

variable {view : MutableSupervisorView}

/-- An admitted event decodes under its own subscription, and its session is live. -/
theorem validateTelemetryTransfer_eq_ok {telemetry : WorkerTelemetryDocument}
    {event : TelemetryEventView} (h : view.validateTelemetryTransfer telemetry = .ok event) :
    Live view.devices telemetry.connectionId telemetry.generation ∧
      ∃ subscription, decodeSubscription telemetry.subscription = some subscription ∧
        decodeEventOf subscription telemetry.event = some event := by
  simp only [validateTelemetryTransfer, Except.bind_eq_ok, Except.exists_unit,
    Option.okOr_eq_ok, Except.pure_eq_ok] at h
  obtain ⟨snapshot, hsession, -, -, -, -, -, -, subscription, hsubscription, decoded, hdecoded,
    -, -, -, rfl⟩ := h
  exact ⟨live_of_session hsession, subscription, hsubscription, hdecoded⟩

/-- An event continues the empty history created for it. -/
theorem continuesHistory_new {telemetry : WorkerTelemetryDocument} {event : TelemetryEventView} :
    continuesHistory ⟨telemetry.connectionId, telemetry.generation, telemetry.subscription, []⟩
      telemetry event = true := by
  have hlatest : ConnectedTelemetryView.latest
      ⟨telemetry.connectionId, telemetry.generation, telemetry.subscription, []⟩ = none := by
    unfold ConnectedTelemetryView.latest
    cases decodeSubscription telemetry.subscription <;> rfl
  simp [continuesHistory, hlatest]

theorem bound_applyTelemetryTransfer {telemetry : WorkerTelemetryDocument} (h : view.Bound) :
    (view.applyTelemetryTransfer telemetry).Bound := by
  unfold applyTelemetryTransfer
  cases hvalid : view.validateTelemetryTransfer telemetry with
  | error error => exact h.of_retains retains_pushDiagnostic
  | ok event =>
    obtain ⟨hlive, subscription, hsubscription, hevent⟩ := validateTelemetryTransfer_eq_ok hvalid
    dsimp only
    generalize hentry : (view.telemetry.get? telemetry.connectionId).getD
      ⟨telemetry.connectionId, telemetry.generation, telemetry.subscription, []⟩ = entry
    -- the entry of the connection, found or just created
    have hkept : (entry.connectionId = telemetry.connectionId ∧
        Live view.devices telemetry.connectionId entry.generation) ∧ entry.Ordered := by
      cases hfound : view.telemetry.get? telemetry.connectionId with
      | some found =>
        rw [hfound, Option.getD_some] at hentry
        subst hentry
        exact h.telemetry _ _ hfound
      | none =>
        rw [hfound, Option.getD_none] at hentry
        subst hentry
        have hempty : ConnectedTelemetryView.decodedEvents
            ⟨telemetry.connectionId, telemetry.generation, telemetry.subscription, []⟩ = [] :=
          decodedEvents_eq hsubscription
        exact ⟨⟨rfl, hlive⟩, by simp, by rw [hempty]; rfl, by rw [hempty]; exact .nil⟩
    have hinserted : ∀ kept : ConnectedTelemetryView, (kept.connectionId = telemetry.connectionId ∧
        Live view.devices telemetry.connectionId kept.generation) ∧ kept.Ordered →
        Bound { view with
          telemetry := view.telemetry.insert telemetry.connectionId kept } := by
      intro kept hkept
      refine { h with telemetry := ?_ }
      intro key found hfound
      rw [PartialMap.insert_eq_some] at hfound
      obtain ⟨rfl, rfl⟩ | ⟨-, hfound⟩ := hfound
      · exact hkept
      · exact h.telemetry key found hfound
    split
    case isTrue hcontinues =>
      simp only [continuesHistory, Bool.and_eq_true, decide_eq_true_eq] at hcontinues
      obtain ⟨⟨-, hsame⟩, hnewer⟩ := hcontinues
      rw [← hsame] at hsubscription
      exact hinserted _ ⟨hkept.1, ordered_push hkept.2 hsubscription hevent hnewer⟩
    case isFalse => exact (hinserted entry hkept).of_retains retains_pushDiagnostic

theorem bound_applyWaveformTransfer [BoardDocument] {waveform : WorkerWaveformDocument}
    (h : view.Bound) : (view.applyWaveformTransfer waveform).Bound := by
  unfold applyWaveformTransfer
  cases hvalid : view.validateWaveformTransfer waveform with
  | error error => exact h.of_retains retains_pushDiagnostic
  | ok capture =>
    simp only [validateWaveformTransfer, Except.bind_eq_ok, Option.okOr_eq_ok] at hvalid
    obtain ⟨snapshot, hsession, -⟩ := hvalid
    refine { h with waveforms := ?_ }
    intro key found hfound
    rw [PartialMap.insert_eq_some] at hfound
    obtain ⟨rfl, rfl⟩ | ⟨-, hfound⟩ := hfound
    · exact ⟨rfl, live_of_session hsession⟩
    · exact h.waveforms key found hfound

theorem bound_applyVisualTransfer [Sha256] {visual : WorkerVisualAssetDocument}
    (h : view.Bound) : (view.applyVisualTransfer visual).Bound := by
  unfold applyVisualTransfer
  split
  case isFalse => exact h.of_retains retains_pushDiagnostic
  case isTrue hvalid =>
    simp only [visualIsValid, Bool.and_eq_true, decide_eq_true_eq, Option.any_eq_true,
      Option.isSome_iff_exists] at hvalid
    obtain ⟨⟨⟨snapshot, hsession⟩, capability, hcapability, ⟨-, hdigest⟩, -⟩, -⟩ := hvalid
    refine { h with visuals := ?_ }
    intro key found hfound
    rw [PartialMap.insert_eq_some] at hfound
    obtain ⟨rfl, rfl⟩ | ⟨-, hfound⟩ := hfound
    · exact ⟨rfl, live_of_session hsession, capability, hcapability, hdigest⟩
    · exact h.visuals key found hfound

theorem bound_applyNetworkSnapshot {network : WorkerNetworkSnapshot} (h : view.Bound) :
    (view.applyNetworkSnapshot network).Bound := by
  unfold applyNetworkSnapshot
  split
  case isFalse => exact h.of_retains retains_pushDiagnostic
  case isTrue hlive =>
    rw [Option.isSome_iff_exists] at hlive
    obtain ⟨snapshot, hsession⟩ := hlive
    refine { h with networks := ?_ }
    intro key found hfound
    rw [PartialMap.insert_eq_some] at hfound
    obtain ⟨rfl, rfl⟩ | ⟨-, hfound⟩ := hfound
    · exact ⟨rfl, live_of_session hsession⟩
    · exact h.networks key found hfound

end Transfers

/-! ## Capability documents -/

variable [BoardDocument]

/-- The board the view would display for a document. -/
def admittedBoard (view : MutableSupervisorView) (capability : WorkerCapabilityDocument) :
    Option BoardExplorerSnapshot := do
  let _ ← view.session capability.connectionId capability.generation
  let identity ← capability.identity.identity.toOption
  (buildBoardExplorerSnapshot capability.document identity WorkerWire.boardLimits).toOption

/-- The displayed capability has another digest, and a visual of its connection is retained. -/
def Strands (view : MutableSupervisorView) (capability : WorkerCapabilityDocument) : Prop :=
  ∃ displayed asset visual,
    view.capabilities.get? capability.connectionId = some displayed ∧
    displayed.board.identity.digest ≠ capability.identity.digest ∧
    view.visuals.get? (capability.connectionId, asset) = some visual

section Documents

variable {view : MutableSupervisorView} {capability : WorkerCapabilityDocument}
  {board : BoardExplorerSnapshot}

/-- An admitted board has the digest its document announces, and its session is live. -/
theorem admittedBoard_eq_some (h : view.admittedBoard capability = some board) :
    Live view.devices capability.connectionId capability.generation ∧
      board.identity.digest = capability.identity.digest := by
  simp only [admittedBoard, Option.bind_eq_bind, Option.bind_eq_some_iff,
    Except.toOption_eq_some] at h
  obtain ⟨snapshot, hsession, identity, hidentity, hboard⟩ := h
  simp only [CapabilityIdentitySnapshot.identity, Except.bind_eq_ok, Except.exists_unit,
    Except.failIf_eq_ok, Except.pure_eq_ok] at hidentity
  simp only [buildBoardExplorerSnapshot, Except.bind_eq_ok, Except.exists_unit,
    Except.failIf_eq_ok, Except.pure_eq_ok, not_not] at hboard
  obtain ⟨document, -, hsame, rfl⟩ := hboard
  refine ⟨live_of_session hsession, ?_⟩
  show (CapabilityWire.viewIdentity document).digest = _
  rw [hsame, ← hidentity.2]

variable (view capability) in
/-- An admitted document is displayed; any other is reported. -/
theorem applyCapabilityDocument_cases :
    (∃ board, view.admittedBoard capability = some board ∧
      view.applyCapabilityDocument capability = { view with
        capabilities := view.capabilities.insert capability.connectionId
          ⟨capability.connectionId, capability.generation, board⟩ }) ∨
    (view.admittedBoard capability = none ∧
      ∃ message, view.applyCapabilityDocument capability = view.pushDiagnostic message) := by
  unfold applyCapabilityDocument admittedBoard
  cases view.session capability.connectionId capability.generation with
  | none => exact Or.inr ⟨rfl, _, rfl⟩
  | some snapshot =>
    cases capability.identity.identity with
    | error error => exact Or.inr ⟨rfl, _, rfl⟩
    | ok identity =>
      simp only [Option.isNone_some, Bool.false_eq_true, if_false]
      cases hboard : buildBoardExplorerSnapshot capability.document identity
          WorkerWire.boardLimits with
      | error error => exact Or.inr ⟨by simp [hboard, Except.toOption], _, rfl⟩
      | ok board => exact Or.inl ⟨board, by simp [hboard, Except.toOption], rfl⟩

/-- The evidence stays bound unless the document strands a visual. -/
theorem bound_applyCapabilityDocument_iff (h : view.Bound) :
    (view.applyCapabilityDocument capability).Bound ↔
      ¬ ((view.admittedBoard capability).isSome ∧ view.Strands capability) := by
  obtain ⟨board, hboard, happlied⟩ | ⟨hnone, message, happlied⟩ :=
    applyCapabilityDocument_cases view capability
  · obtain ⟨hlive, hdigest⟩ := admittedBoard_eq_some hboard
    rw [happlied, hboard, Option.isSome_some, not_and]
    constructor
    · -- a stranded visual would have to belong to the new capability
      rintro hbound - ⟨displayed, asset, visual, hdisplayed, hother, hvisual⟩
      obtain ⟨-, -, shown, hshown, hsame⟩ := hbound.visuals _ visual hvisual
      obtain ⟨-, -, before, hbefore, hbelonged⟩ := h.visuals _ visual hvisual
      rw [PartialMap.insert_self, Option.some.injEq] at hshown
      rw [hdisplayed, Option.some.injEq] at hbefore
      subst hshown hbefore
      exact hother (by rw [hbelonged, ← hsame, ← hdigest])
    · intro hkept
      refine { h with capabilities := ?_, visuals := ?_ }
      · intro key found hfound
        rw [PartialMap.insert_eq_some] at hfound
        obtain ⟨rfl, rfl⟩ | ⟨-, hfound⟩ := hfound
        · exact ⟨rfl, hlive⟩
        · exact h.capabilities key found hfound
      · intro key visual hvisual
        obtain ⟨hid, hvisualLive, displayed, hdisplayed, hbelongs⟩ := h.visuals key visual hvisual
        refine ⟨hid, hvisualLive, ?_⟩
        by_cases hsame : key.1 = capability.connectionId
        · have hdigests : displayed.board.identity.digest = capability.identity.digest := by
            by_contra hother
            rw [hsame] at hdisplayed
            refine hkept rfl ⟨displayed, key.2, visual, hdisplayed, hother, ?_⟩
            rw [← hsame]
            exact hvisual
          rw [hsame]
          exact ⟨_, PartialMap.insert_self, by rw [hdigest, ← hdigests, hbelongs]⟩
        · exact ⟨displayed, by rw [PartialMap.insert_of_ne hsame, hdisplayed], hbelongs⟩
  · rw [happlied, hnone]
    simp [h.of_retains retains_pushDiagnostic]

end Documents

/-! ## Events -/

variable [Sha256]

/-- The event displays a capability document in place of another one while visual assets of
the replaced capability are retained. -/
def ReplacesDisplayed (view : MutableSupervisorView) (envelope : WorkerEventEnvelope) : Prop :=
  envelope.validate = .ok () ∧ ∃ capability, envelope.event = .capabilityDocument capability ∧
    (view.admittedBoard capability).isSome ∧ view.Strands capability

/-- The reasons for which the view refuses an event. -/
inductive Rejects (view : MutableSupervisorView) (envelope : WorkerEventEnvelope) : Prop
  | invalid {error : WorkerContractError} (refused : envelope.validate = .error error)
  | network {network : WorkerNetworkSnapshot} (valid : envelope.validate = .ok ())
      (event : envelope.event = .networkSnapshot network)
      (refused : view.session network.connectionId network.generation = none)
  | capability {capability : WorkerCapabilityDocument} (valid : envelope.validate = .ok ())
      (event : envelope.event = .capabilityDocument capability)
      (refused : view.admittedBoard capability = none)
  | visual {visual : WorkerVisualAssetDocument} (valid : envelope.validate = .ok ())
      (event : envelope.event = .visualAssetDocument visual)
      (refused : view.visualIsValid visual = false)
  | waveform {waveform : WorkerWaveformDocument} {error : String}
      (valid : envelope.validate = .ok ()) (event : envelope.event = .waveformDocument waveform)
      (refused : view.validateWaveformTransfer waveform = .error error)
  | telemetry {telemetry : WorkerTelemetryDocument} {error : String}
      (valid : envelope.validate = .ok ()) (event : envelope.event = .telemetryDocument telemetry)
      (refused : view.validateTelemetryTransfer telemetry = .error error)
  | fork {telemetry : WorkerTelemetryDocument} {event : TelemetryEventView}
      {entry : ConnectedTelemetryView} (valid : envelope.validate = .ok ())
      (named : envelope.event = .telemetryDocument telemetry)
      (admitted : view.validateTelemetryTransfer telemetry = .ok event)
      (found : view.telemetry.get? telemetry.connectionId = some entry)
      (refused : continuesHistory entry telemetry event = false)

variable {view next : MutableSupervisorView} {envelope : WorkerEventEnvelope}

/-- An invalid event changes the diagnostics or the lifecycle only. -/
theorem retains_apply_of_invalid {error : WorkerContractError}
    (h : envelope.validate = .error error) : view.Retains (view.apply envelope) := by
  unfold apply
  rw [h]
  dsimp only
  split
  · exact retains_pushDiagnostic
  · exact ⟨rfl, rfl, rfl, rfl, rfl, rfl, rfl⟩

theorem apply_of_valid (h : envelope.validate = .ok ()) :
    view.apply envelope = view.applyEvent envelope.event := by
  unfold apply
  rw [h]

/-- Every event but a capability document keeps the evidence bound. -/
theorem bound_applyEvent {event : WorkerEvent} (h : view.Bound)
    (hother : ∀ capability, event ≠ .capabilityDocument capability) :
    (view.applyEvent event).Bound := by
  cases event with
  | capabilityDocument capability => exact absurd rfl (hother capability)
  | snapshot session => exact bound_applySnapshot h
  | networkSnapshot network => exact bound_applyNetworkSnapshot h
  | visualAssetDocument visual => exact bound_applyVisualTransfer h
  | waveformDocument waveform => exact bound_applyWaveformTransfer h
  | telemetryDocument telemetry => exact bound_applyTelemetryTransfer h
  | removed connectionId => exact bound_applyRemoved h
  | commandRejected connectionId message => exact h.of_retains retains_pushDiagnostic
  | ready scopeOrigin => exact h.of_retains ⟨rfl, rfl, rfl, rfl, rfl, rfl, rfl⟩
  | fatal message => exact h.of_retains ⟨rfl, rfl, rfl, rfl, rfl, rfl, rfl⟩
  | jobSnapshot job => exact { h with }
  | jobRemoved jobId =>
    simp only [applyEvent]
    split
    · exact { h with }
    · exact h

/-- Exactly the events that strand no visual keep the evidence bound. -/
theorem bound_apply_iff (h : view.Bound) :
    (view.apply envelope).Bound ↔ ¬ view.ReplacesDisplayed envelope := by
  unfold ReplacesDisplayed
  cases hvalid : envelope.validate with
  | error error =>
    have hbound := h.of_retains (retains_apply_of_invalid hvalid)
    simp [hbound]
  | ok valid =>
    rw [apply_of_valid hvalid]
    by_cases hdocument : ∃ capability, envelope.event = .capabilityDocument capability
    · obtain ⟨capability, hevent⟩ := hdocument
      have hiff : (view.applyCapabilityDocument capability).Bound ↔ _ :=
        bound_applyCapabilityDocument_iff h
      rw [hevent]
      simpa [applyEvent] using hiff
    · have hbound := bound_applyEvent h fun capability hevent => hdocument ⟨capability, hevent⟩
      constructor
      · rintro - ⟨-, capability, hevent, -⟩
        exact hdocument ⟨capability, hevent⟩
      · exact fun _ => hbound

/-! ## Rejected events -/

/-- A rejected event leaves all evidence alone. -/
theorem retains_of_rejects (h : view.Rejects envelope) : view.Retains (view.apply envelope) := by
  cases h with
  | invalid refused => exact retains_apply_of_invalid refused
  | network valid event refused =>
    rw [apply_of_valid valid, event]
    simp only [applyEvent, applyNetworkSnapshot, refused]
    exact retains_pushDiagnostic
  | capability valid event refused =>
    rw [apply_of_valid valid, event]
    obtain ⟨board, hboard, -⟩ | ⟨-, message, happlied⟩ :=
      applyCapabilityDocument_cases _ _
    · rw [refused] at hboard
      cases hboard
    · rw [applyEvent, happlied]
      exact retains_pushDiagnostic
  | visual valid event refused =>
    rw [apply_of_valid valid, event]
    simp only [applyEvent, applyVisualTransfer, refused]
    exact retains_pushDiagnostic
  | waveform valid event refused =>
    rw [apply_of_valid valid, event]
    simp only [applyEvent, applyWaveformTransfer, refused]
    exact retains_pushDiagnostic
  | telemetry valid event refused =>
    rw [apply_of_valid valid, event]
    simp only [applyEvent, applyTelemetryTransfer, refused]
    exact retains_pushDiagnostic
  | fork valid named admitted found refused =>
    rw [apply_of_valid valid, named]
    simp only [applyEvent, applyTelemetryTransfer, admitted, found, Option.getD_some, refused,
      PartialMap.insert_of_get? found]
    exact retains_pushDiagnostic

/-- An event that is not rejected reports nothing, unless it is itself the report of a rejected
command. -/
theorem rejects_or_reports : view.Rejects envelope ∨
    (∃ connectionId message, envelope.event = .commandRejected connectionId message) ∨
    (view.apply envelope).diagnostics = view.diagnostics := by
  cases hvalid : envelope.validate with
  | error error => exact Or.inl (.invalid hvalid)
  | ok valid =>
    rw [apply_of_valid hvalid]
    cases hevent : envelope.event with
    | capabilityDocument capability =>
      obtain ⟨board, -, happlied⟩ | ⟨hnone, -⟩ :=
        applyCapabilityDocument_cases view capability
      · exact Or.inr (Or.inr (by rw [applyEvent, happlied]))
      · exact Or.inl (.capability hvalid hevent hnone)
    | networkSnapshot network =>
      cases hsession : view.session network.connectionId network.generation with
      | none => exact Or.inl (.network hvalid hevent hsession)
      | some session =>
        exact Or.inr (Or.inr (by simp only [applyEvent, applyNetworkSnapshot, hsession]; rfl))
    | visualAssetDocument visual =>
      cases hrefused : view.visualIsValid visual with
      | false => exact Or.inl (.visual hvalid hevent hrefused)
      | true =>
        exact Or.inr (Or.inr (by simp only [applyEvent, applyVisualTransfer, hrefused]; rfl))
    | waveformDocument waveform =>
      cases hrefused : view.validateWaveformTransfer waveform with
      | error error => exact Or.inl (.waveform hvalid hevent hrefused)
      | ok capture =>
        exact Or.inr (Or.inr (by simp only [applyEvent, applyWaveformTransfer, hrefused]))
    | telemetryDocument telemetry =>
      cases hrefused : view.validateTelemetryTransfer telemetry with
      | error error => exact Or.inl (.telemetry hvalid hevent hrefused)
      | ok event =>
        simp only [applyEvent, applyTelemetryTransfer, hrefused]
        cases hfound : view.telemetry.get? telemetry.connectionId with
        | none =>
          rw [Option.getD_none, continuesHistory_new]
          exact Or.inr (Or.inr rfl)
        | some entry =>
          rw [Option.getD_some]
          cases hcontinues : continuesHistory entry telemetry event with
          | false => exact Or.inl (.fork hvalid hevent hrefused hfound hcontinues)
          | true => exact Or.inr (Or.inr rfl)
    | commandRejected connectionId message => exact Or.inr (Or.inl ⟨connectionId, message, rfl⟩)
    | jobRemoved jobId =>
      refine Or.inr (Or.inr ?_)
      simp only [applyEvent]
      split <;> rfl
    | ready scopeOrigin => exact Or.inr (Or.inr rfl)
    | fatal message => exact Or.inr (Or.inr rfl)
    | jobSnapshot job => exact Or.inr (Or.inr rfl)
    | snapshot session => exact Or.inr (Or.inr rfl)
    | removed connectionId => exact Or.inr (Or.inr rfl)

/-! ## Runs -/

/-- In every view that the steps reach the evidence is bound, and an event that is rejected
there changes none of it. -/
def EvidenceBinding (step : MutableSupervisorView → WorkerEventEnvelope → MutableSupervisorView →
    Prop) : Prop :=
  ∀ events view, Run step initial events view →
    view.Bound ∧ ∀ envelope next, step view envelope next → view.Rejects envelope →
      view.Retains next

/-- A step whose event strands no visual. -/
def PermittedStep (view : MutableSupervisorView) (envelope : WorkerEventEnvelope)
    (next : MutableSupervisorView) : Prop :=
  Step view envelope next ∧ ¬ view.ReplacesDisplayed envelope

/-- Over every sequence of events that strands no visual the evidence is that of the live
sessions. -/
theorem evidenceBinding : EvidenceBinding PermittedStep := by
  intro events view h
  have hstep : ∀ view envelope next, PermittedStep view envelope next → view.Bound →
      next.Bound := by
    rintro view envelope next ⟨rfl, hpermitted⟩ hbound
    exact (bound_apply_iff hbound).2 hpermitted
  refine ⟨h.invariant hstep bound_initial, ?_⟩
  rintro envelope next ⟨rfl, -⟩ hrejects
  exact retains_of_rejects hrejects

end MutableSupervisorView

/-! ## A stranded visual -/

namespace MutableSupervisorView

open scoped Alumina.Graph.HostLibrary Alumina.Client.HostLibrary Alumina.Client.BoardLibrary

/-- The only visual of the first board. -/
def asset : List UInt8 := [7]

def firstBoard : List UInt8 := [1, 0, 0, 0] ++ (Sha256.sha256 asset).val

/-- A board without visuals. -/
def secondBoard : List UInt8 := [2, 0, 0, 0]

def identityOf (document : List UInt8) : CapabilityIdentitySnapshot :=
  ⟨.ofNat document.length, Sha256.sha256 document⟩

/-- A session that has acquired the first board. -/
def acquired : DeviceSessionSnapshot where
  connectionId := 1
  label := "mill"
  origin := "http://mill"
  generation := 1
  bootId := none
  deviceIdentity := some
    ⟨"board", .replicate 16 1, identityOf firstBoard, .replicate 20 1, .replicate 32 1⟩
  consecutiveFailures := 0
  history := []
  lastError := none
  runtimeHealthAvailability := .unobserved
  runtimeHealth := none
  runtimeHealthConsecutiveFailures := 0
  runtimeHealthLastError := none
  configurationAvailability := .unobserved
  configuration := none
  configurationConsecutiveFailures := 0
  configurationLastError := none
  capabilityPhase := .complete
  capabilityReceivedBytes := 36
  capabilityIdentity := some (identityOf firstBoard)
  capabilityConsecutiveFailures := 0
  capabilityLastError := none
  visualAssetCount := 0
  visualAssetsComplete := 0
  visualReceivedBytes := 0
  visualTotalBytes := 0
  visualConsecutiveFailures := 0
  visualLastError := none
  telemetryPhase := none
  telemetrySubscriptionId := none
  telemetrySubscriptionDigest := none
  telemetryEventSequence := 0
  telemetryDroppedEvents := 0
  telemetryConsecutiveFailures := 0
  telemetryLastError := none
  waveformPhase := none
  waveformCaptureId := none
  waveformReceivedBytes := 0
  waveformTotalBytes := 0
  waveformConsecutiveFailures := 0
  waveformLastError := none

/-- The second board is displayed in the generation of the first one. -/
def replacement : List WorkerEventEnvelope := [
  ⟨workerSchemaVersion, .snapshot acquired⟩,
  ⟨workerSchemaVersion, .capabilityDocument ⟨1, 1, identityOf firstBoard, firstBoard⟩⟩,
  ⟨workerSchemaVersion, .visualAssetDocument
    ⟨1, 1, Sha256.sha256 firstBoard, Sha256.sha256 asset, asset⟩⟩,
  ⟨workerSchemaVersion, .capabilityDocument ⟨1, 1, identityOf secondBoard, secondBoard⟩⟩]

/-- The visual of the first board is shown beside the second one. -/
theorem evidenceBinding_fails : ¬ EvidenceBinding Step := by
  intro h
  have hstranded : (((replacement.foldl apply initial).visuals.get?
      (1, Sha256.sha256 asset)).any fun visual =>
        ((replacement.foldl apply initial).capabilities.get? 1).any fun capability =>
          capability.board.identity.digest ≠ visual.capabilityDigest) = true := by
    decide +kernel
  obtain ⟨hbound, -⟩ := h replacement _ (Run.run_foldl apply initial replacement)
  generalize replacement.foldl apply initial = view at hbound hstranded
  rw [Option.any_eq_true] at hstranded
  obtain ⟨visual, hvisual, hother⟩ := hstranded
  obtain ⟨-, -, capability, hcapability, hsame⟩ := hbound.visuals _ visual hvisual
  rw [hcapability, Option.any_some, decide_eq_true_eq] at hother
  exact hother hsame

end MutableSupervisorView

end Alumina.Client
