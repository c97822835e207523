import Alumina.Client.DiagnosticLibrary

/-!
# The download of a waveform

What a capture machine holds at any point of any history: while it downloads, the record is
the ranges it accepted, in order and from the first byte; once it is complete, the record is
the one the retained status announced.

## Key results

- `step_cases`: what one call can do to a machine and its history
- `coherent_of_run`: the record of a download is the accepted ranges since it started
- `waveformDownload`: what holds of a machine and its history, and of its next response
-/

namespace Alumina.Client

/-- The phase in which a machine asks for an action. -/
def WaveformAction.Fits : WaveformAction → WaveformClientPhase → Prop
  | .configure, phase => phase = .configuring
  | .pollConfigure, phase => phase = .reconcilingConfigure
  | .arm, phase => phase = .arming
  | .pollArm, phase => phase = .reconcilingArm
  | .pollComplete, phase => phase = .armed
  | .read, phase => ∃ receivedBytes totalBytes, phase = .downloading receivedBytes totalBytes
  | .stop, phase => phase = .stopping
  | .pollStop, phase => phase = .reconcilingStop

/-- The operation an action asks for. -/
def WaveformAction.operation : WaveformAction → Operation
  | .configure => .waveformConfigure
  | .pollConfigure | .pollArm | .pollComplete | .pollStop => .waveformStatus
  | .arm => .waveformArm
  | .read => .waveformRead
  | .stop => .waveformStop

/-- The phase an abandoned action leaves. -/
def WaveformAction.abandonedPhase : WaveformAction → WaveformClientPhase → WaveformClientPhase
  | .configure, _ | .pollConfigure, _ => .reconcilingConfigure
  | .arm, _ | .pollArm, _ => .reconcilingArm
  | .pollComplete, _ => .armed
  | .read, phase => phase
  | .stop, _ | .pollStop, _ => .reconcilingStop

namespace WaveformCaptureMachine

open Except (failIf)
open Alumina.Graph (Digest)

section Runs

variable [DiagnosticWire] {machine next start : WaveformCaptureMachine}
  {history : List (Call × Outcome)}
  {result : Option DiagnosticOperation}

/-! ## Events -/

/-- The call put a request on the wire. -/
def Emits (e : Call × Outcome) : Prop := ∃ operation, e.2 = .next (.ok (some operation))

/-- The call settles a pending request, by a response or by abandoning it. -/
def Settles (e : Call × Outcome) : Prop :=
  (∃ response, e.1 = .acceptResponse response) ∨ e.1 = .abandonPending

/-- The body of a response that was accepted. -/
def acceptedBody : Call × Outcome → Option (List UInt8)
  | (.acceptResponse response, .done (.ok ())) => some response.body
  | _ => none

/-- What one call does to a machine. -/
inductive Transition (machine : WaveformCaptureMachine) :
    Call × Outcome → WaveformCaptureMachine → Prop
  | refused {call : Call} {outcome : Outcome} (silent : ¬ Emits (call, outcome))
      (unaccepted : acceptedBody (call, outcome) = none)
      (idle : Settles (call, outcome) → machine.pending = none) :
      Transition machine (call, outcome) machine
  | asked {action : WaveformAction} {operation : DiagnosticOperation}
      (idle : machine.pending = none) (fits : action.Fits machine.phase) :
      Transition machine (.nextRequest, .next (.ok (some operation)))
        { machine with pending := some action }
  | armed (idle : machine.pending = none) (configured : machine.phase = .configured) :
      Transition machine (.requestArm, .done (.ok ())) { machine with phase := .arming }
  | stopping (idle : machine.pending = none) (known : machine.phase ∈ [.configured, .armed,
      .complete] ∨ ∃ receivedBytes totalBytes,
        machine.phase = .downloading receivedBytes totalBytes) :
      Transition machine (.requestStop, .done (.ok ())) { machine with phase := .stopping }
  | abandoned {action : WaveformAction} (pending : machine.pending = some action) :
      Transition machine (.abandonPending, .abandoned true)
        { machine with pending := none, phase := action.abandonedPhase machine.phase }
  | settled {action : WaveformAction} {response : Response} {accepted : WaveformCaptureMachine}
      (pending : machine.pending = some action) (status : action ≠ .read)
      (accepts : { machine with pending := none }.settle action response = .ok accepted) :
      Transition machine (.acceptResponse response, .done (.ok ())) accepted
  | rejected {action : WaveformAction} {response : Response} {error : DiagnosticClientError}
      (pending : machine.pending = some action) :
      Transition machine (.acceptResponse response, .done (.error error))
        { machine with pending := none }
  | ranged {response : Response} {ranged : WaveformCaptureMachine} {result : DiagnosticResult Unit}
      {status : WaveformStatus} {receivedBytes totalBytes : UInt32} {chunk : WaveformChunkView}
      (pending : machine.pending = some .read) (known : machine.status = some status)
      (downloading : machine.phase = .downloading receivedBytes totalBytes)
      (checked : machine.checkedRange status receivedBytes totalBytes response.body = .ok chunk)
      (accepts : { machine with pending := none }.acceptRange response.body = (ranged, result)) :
      Transition machine (.acceptResponse response, .done result) ranged

/-! ## One call -/

theorem ask_eq_ok {action : WaveformAction} {operation : Operation}
    {result : Option DiagnosticOperation} :
    machine.ask action operation = .ok (result, next) ↔
      ∃ body, machine.encodeReference = .ok body ∧ some ⟨operation, body⟩ = result ∧
        { machine with pending := some action } = next := by
  simp [ask]

/-- A request that was emitted belongs to the phase it was asked in. -/
theorem nextRequest_cases (h : machine.nextRequest = .ok (result, next)) :
    (result = none ∧ next = machine) ∨
      ∃ action operation, result = some operation ∧ machine.pending = none ∧
        action.Fits machine.phase ∧ operation.operation = action.operation ∧
        next = { machine with pending := some action } := by
  simp only [nextRequest, Except.bind_eq_ok, Except.exists_unit, Except.failIf_eq_ok,
    Bool.not_eq_true, Option.isSome_eq_false_iff, Option.isNone_iff_eq_none] at h
  obtain ⟨hidle, h⟩ := h
  have hasked : ∀ action : WaveformAction, action.Fits machine.phase →
      machine.ask action action.operation = .ok (result, next) →
      ∃ action operation, result = some operation ∧ machine.pending = none ∧
        action.Fits machine.phase ∧ operation.operation = action.operation ∧
        next = { machine with pending := some action } := by
    intro action hfits hask
    obtain ⟨body, -, rfl, rfl⟩ := ask_eq_ok.1 hask
    exact ⟨action, _, rfl, hidle, hfits, rfl, rfl⟩
  cases hphase : machine.phase with
  | configuring =>
    simp only [hphase, Except.pure_eq_ok, Prod.mk.injEq] at h
    obtain ⟨rfl, rfl⟩ := h
    exact Or.inr ⟨.configure, _, rfl, hidle, rfl, rfl, by simp⟩
  | downloading receivedBytes totalBytes =>
    simp only [hphase, Except.bind_eq_ok, Except.pure_eq_ok, Prod.mk.injEq] at h
    obtain ⟨status, -, body, -, rfl, rfl⟩ := h
    exact Or.inr ⟨.read, _, rfl, hidle, ⟨_, _, rfl⟩, rfl, by simp⟩
  | reconcilingConfigure =>
    rw [hphase] at h hasked
    exact Or.inr (hasked .pollConfigure rfl h)
  | arming =>
    rw [hphase] at h hasked
    exact Or.inr (hasked .arm rfl h)
  | reconcilingArm =>
    rw [hphase] at h hasked
    exact Or.inr (hasked .pollArm rfl h)
  | armed =>
    rw [hphase] at h hasked
    exact Or.inr (hasked .pollComplete rfl h)
  | stopping =>
    rw [hphase] at h hasked
    exact Or.inr (hasked .stop rfl h)
  | reconcilingStop =>
    rw [hphase] at h hasked
    exact Or.inr (hasked .pollStop rfl h)
  | configured | complete | stopped =>
    simp only [hphase, Except.pure_eq_ok, Prod.mk.injEq] at h
    exact Or.inl ⟨h.1.symm, h.2.symm⟩

theorem requestStop_eq_ok : machine.requestStop = .ok next ↔ machine.pending = none ∧
    ((machine.phase = .stopped ∧ machine = next) ∨
      ((machine.phase ∈ [.configured, .armed, .complete] ∨ ∃ receivedBytes totalBytes,
        machine.phase = .downloading receivedBytes totalBytes) ∧
          { machine with phase := .stopping } = next)) := by
  unfold requestStop
  rw [Except.bind_eq_ok, Except.exists_unit, Except.failIf_eq_ok, Bool.not_eq_true,
    Option.isSome_eq_false_iff, Option.isNone_iff_eq_none]
  apply and_congr_right
  intro hidle
  cases machine.phase <;> simp [throw, throwThe, MonadExceptOf.throw]

theorem requestArm_eq_ok : machine.requestArm = .ok next ↔
    machine.pending = none ∧ machine.phase = .configured ∧
      { machine with phase := .arming } = next := by
  simp [requestArm]

/-- A range is rejected without effect, or passes the checks of a download. -/
theorem acceptRange_cases (machine : WaveformCaptureMachine) (encoded : List UInt8) :
    (∃ error, machine.acceptRange encoded = (machine, .error error)) ∨
      ∃ status receivedBytes totalBytes chunk, machine.status = some status ∧
        machine.phase = .downloading receivedBytes totalBytes ∧
        machine.checkedRange status receivedBytes totalBytes encoded = .ok chunk := by
  unfold acceptRange
  split
  · next status receivedBytes totalBytes hstatus hphase =>
    cases hchecked : machine.checkedRange status receivedBytes totalBytes encoded with
    | error error => exact Or.inl ⟨error, rfl⟩
    | ok chunk => exact Or.inr ⟨status, receivedBytes, totalBytes, chunk, hstatus, hphase, hchecked⟩
  · exact Or.inl ⟨.state, rfl⟩

/-- What one call can do to a machine. -/
theorem step_cases {e : Call × Outcome} (h : Step machine e next) :
    Transition machine e next := by
  obtain ⟨call, outcome⟩ := e
  have hperform : machine.perform call = (next, outcome) := h
  cases call with
  | nextRequest =>
    cases hresult : machine.nextRequest with
    | error error =>
      simp only [perform, hresult, Prod.mk.injEq] at hperform
      obtain ⟨rfl, rfl⟩ := hperform
      exact .refused (by simp [Emits]) rfl (by simp [Settles])
    | ok asked =>
      obtain ⟨operation, asked⟩ := asked
      simp only [perform, hresult, Prod.mk.injEq] at hperform
      obtain ⟨rfl, rfl⟩ := hperform
      rcases nextRequest_cases hresult with
        ⟨rfl, rfl⟩ | ⟨action, operation, rfl, hidle, hfits, -, rfl⟩
      · exact .refused (by simp [Emits]) rfl (by simp [Settles])
      · exact .asked hidle hfits
  | acceptResponse response =>
    simp only [perform, Prod.mk.injEq] at hperform
    obtain ⟨rfl, rfl⟩ := hperform
    cases hpending : machine.pending with
    | none =>
      simp only [acceptResponse, hpending]
      exact .refused (by simp [Emits]) rfl fun _ => hpending
    | some action =>
      by_cases hread : action = .read
      · subst hread
        simp only [acceptResponse, hpending]
        cases hbody : requireBody response with
        | error error => exact .rejected hpending
        | ok =>
          rcases acceptRange_cases { machine with pending := none } response.body with
            ⟨error, hrejected⟩ | ⟨status, receivedBytes, totalBytes, chunk, hstatus, hphase, hchecked⟩
          · simp only [hrejected]
            exact .rejected hpending
          · exact .ranged hpending hstatus hphase hchecked rfl
      · cases haccepts : { machine with pending := none }.settle action response with
        | error error =>
          have hvalue : machine.acceptResponse response =
              ({ machine with pending := none }, .error error) := by
            cases action with
            | read => exact absurd rfl hread
            | _ => simp only [acceptResponse, hpending, haccepts]
          rw [hvalue]
          exact .rejected hpending
        | ok accepted =>
          have hvalue : machine.acceptResponse response = (accepted, .ok ()) := by
            cases action with
            | read => exact absurd rfl hread
            | _ => simp only [acceptResponse, hpending, haccepts]
          rw [hvalue]
          exact .settled hpending hread haccepts
  | abandonPending =>
    cases hpending : machine.pending with
    | none =>
      simp only [perform, abandonPending, hpending, Prod.mk.injEq] at hperform
      obtain ⟨rfl, rfl⟩ := hperform
      exact .refused (by simp [Emits]) rfl fun _ => hpending
    | some action =>
      simp only [perform, abandonPending, hpending, Prod.mk.injEq] at hperform
      obtain ⟨rfl, rfl⟩ := hperform
      have habandoned := Transition.abandoned hpending
      cases action <;> exact habandoned
  | requestArm =>
    cases hresult : machine.requestArm with
    | error error =>
      simp only [perform, hresult, requested, Prod.mk.injEq] at hperform
      obtain ⟨rfl, rfl⟩ := hperform
      exact .refused (by simp [Emits]) rfl (by simp [Settles])
    | ok armed =>
      simp only [perform, hresult, requested, Prod.mk.injEq] at hperform
      obtain ⟨rfl, rfl⟩ := hperform
      obtain ⟨hidle, hconfigured, rfl⟩ := requestArm_eq_ok.1 hresult
      exact .armed hidle hconfigured
  | requestStop =>
    cases hresult : machine.requestStop with
    | error error =>
      simp only [perform, hresult, requested, Prod.mk.injEq] at hperform
      obtain ⟨rfl, rfl⟩ := hperform
      exact .refused (by simp [Emits]) rfl (by simp [Settles])
    | ok stopping =>
      simp only [perform, hresult, requested, Prod.mk.injEq] at hperform
      obtain ⟨rfl, rfl⟩ := hperform
      obtain ⟨hidle, ⟨hstopped, rfl⟩ | ⟨hknown, rfl⟩⟩ := requestStop_eq_ok.1 hresult
      · exact .refused (by simp [Emits]) rfl (by simp [Settles])
      · exact .stopping hidle hknown

/-! ## The record of a download -/

/-- The phases a status can lead to outside a download. -/
def settledPhases : List WaveformClientPhase := [.configuring, .configured, .arming, .armed, .stopped]

theorem acceptStatus_cases {action : WaveformAction} {status : WaveformStatus}
    {accepted : WaveformCaptureMachine} (h : machine.acceptStatus action status = .ok accepted) :
    ∃ phase record, accepted = { machine with phase, record } ∧ (phase ∈ settledPhases ∨
      phase = .downloading 0 status.recordBytes ∧ record = []) := by
  have hacquired : ∀ {accepted}, machine.acceptAcquisitionStatus status = .ok accepted →
      ∃ phase record, accepted = { machine with phase, record } ∧ (phase ∈ settledPhases ∨
        phase = .downloading 0 status.recordBytes ∧ record = []) := by
    intro accepted h
    unfold acceptAcquisitionStatus at h
    cases hphase : status.phase with
    | armed =>
      simp only [hphase, Except.pure_eq_ok] at h
      exact ⟨.armed, machine.record, h.symm, Or.inl (by simp [settledPhases])⟩
    | complete =>
      simp only [hphase, beginDownload, Except.bind_eq_ok, Except.exists_unit,
        Except.failIf_eq_ok, Except.pure_eq_ok] at h
      exact ⟨_, _, h.2.symm, Or.inr ⟨rfl, rfl⟩⟩
    | configured =>
      simp only [hphase] at h
      split at h
      · simp only [Except.pure_eq_ok] at h
        exact ⟨.arming, machine.record, h.symm, Or.inl (by simp [settledPhases])⟩
      · cases h
    | faulted | stopped =>
      simp only [hphase] at h
      cases h
  unfold acceptStatus at h
  cases action with
  | configure | pollConfigure =>
    simp only [Except.bind_eq_ok, Except.exists_unit, Except.failIf_eq_ok, Except.pure_eq_ok] at h
    exact ⟨.configured, machine.record, h.2.symm, Or.inl (by simp [settledPhases])⟩
  | arm | pollArm | pollComplete => exact hacquired h
  | stop | pollStop =>
    simp only [Except.bind_eq_ok, Except.exists_unit, Except.failIf_eq_ok, Except.pure_eq_ok] at h
    exact ⟨.stopped, [], h.2.symm, Or.inl (by simp [settledPhases])⟩
  | read => cases h

/-- An accepted status leaves the download or begins it at the first byte. -/
theorem settle_cases {action : WaveformAction} {response : Response}
    {accepted : WaveformCaptureMachine} (h : machine.settle action response = .ok accepted) :
    ∃ phase status record, accepted = { machine with phase, status, record } ∧
      (phase ∈ settledPhases ∨
        ∃ announced, status = some announced ∧ phase = .downloading 0 announced.recordBytes ∧
          record = []) := by
  unfold settle at h
  split at h
  · simp only [Except.bind_eq_ok, Except.exists_unit, Except.pure_eq_ok] at h
    exact ⟨.configuring, machine.status, machine.record, h.2.symm, Or.inl (by simp [settledPhases])⟩
  split at h
  · simp only [Except.bind_eq_ok, Except.exists_unit, Except.pure_eq_ok] at h
    exact ⟨.stopped, none, [], h.2.symm, Or.inl (by simp [settledPhases])⟩
  · simp only [Except.bind_eq_ok, Except.exists_unit, Except.pure_eq_ok] at h
    obtain ⟨-, status, -, -, settled, hsettled, rfl⟩ := h
    obtain ⟨phase, record, rfl, hphase⟩ := acceptStatus_cases hsettled
    refine ⟨phase, some status, record, rfl, ?_⟩
    rcases hphase with hphase | ⟨hphase, hrecord⟩
    · exact Or.inl hphase
    · exact Or.inr ⟨status, rfl, hphase, hrecord⟩

/-- Ranges accepted one after the other, from the first byte. -/
inductive Ranges (reference : WaveformSessionRequest) (digest : Digest)
    (limits : DiagnosticTransportLimits) : List (List UInt8) → Nat → List UInt8 → Prop
  | nil : Ranges reference digest limits [] 0 []
  | snoc {bodies : List (List UInt8)} {received : Nat} {record body : List UInt8}
      {chunk : WaveformChunkView} (earlier : Ranges reference digest limits bodies received record)
      (decoded : DiagnosticWire.decodeWaveformChunk body reference digest limits = .ok chunk)
      (follows : chunk.offset.toNat = received) :
      Ranges reference digest limits (bodies ++ [body]) (received + chunk.bytes.length)
        (record ++ chunk.bytes)

theorem Ranges.length {reference : WaveformSessionRequest} {digest : Digest}
    {limits : DiagnosticTransportLimits} {bodies : List (List UInt8)} {received : Nat}
    {record : List UInt8} (h : Ranges reference digest limits bodies received record) :
    record.length = received := by
  induction h with
  | nil => rfl
  | snoc earlier decoded follows ih => rw [List.length_append, ih]

/-- The record holds the bytes of the accepted ranges since the last start of the download,
decoded against the capture and the record that a status announced. -/
def Assembled (history : List (Call × Outcome)) (machine : WaveformCaptureMachine)
    (status : WaveformStatus) (received : Nat) : Prop :=
  machine.status = some status ∧ machine.record.length = received ∧
    ∃ ranges, ranges <:+ history.filterMap acceptedBody ∧
      Ranges machine.reference status.recordDigest machine.limits ranges received machine.record

/-- The record passed the check of a complete capture under the announced digest. -/
def Validated (machine : WaveformCaptureMachine) (status : WaveformStatus) : Prop :=
  ∃ configuration, machine.configuration = .ok configuration ∧
    DiagnosticWire.validateRetainedCapture machine.record configuration machine.recordLimits
      machine.limits = .ok status.recordDigest

/-- How the phase, the pending request, the status and the record belong together. -/
structure Coherent (history : List (Call × Outcome)) (machine : WaveformCaptureMachine) : Prop where
  configured : ∃ configuration, machine.configuration = .ok configuration
  fits : ∀ action, machine.pending = some action → action.Fits machine.phase
  downloading : ∀ receivedBytes totalBytes, machine.phase = .downloading receivedBytes totalBytes →
    ∃ status, status.recordBytes = totalBytes ∧
      Assembled history machine status receivedBytes.toNat
  complete : machine.phase = .complete →
    ∃ status, Assembled history machine status status.recordBytes.toNat ∧ Validated machine status

/-- The chunk decoder ends a range where its bytes end. -/
def ChunkExtent : Prop :=
  ∀ encoded reference digest limits chunk,
    DiagnosticWire.decodeWaveformChunk encoded reference digest limits = .ok chunk →
      chunk.endOffset.toNat = chunk.offset.toNat + chunk.bytes.length

theorem checkedRange_eq_ok {status : WaveformStatus} {receivedBytes totalBytes : UInt32}
    {encoded : List UInt8} {chunk : WaveformChunkView} :
    machine.checkedRange status receivedBytes totalBytes encoded = .ok chunk ↔
      DiagnosticWire.decodeWaveformChunk encoded machine.reference status.recordDigest
        machine.limits = .ok chunk ∧ chunk.offset = receivedBytes ∧
        chunk.recordBytes = totalBytes := by
  simp only [checkedRange, Except.bind_eq_ok, Except.mapError_eq_ok, Except.exists_unit,
    Except.failIf_eq_ok, Except.pure_eq_ok, not_or, not_not]
  constructor
  · rintro ⟨chunk, hdecoded, ⟨hoffset, hbytes⟩, rfl⟩
    exact ⟨hdecoded, hoffset, hbytes⟩
  · rintro ⟨hdecoded, hoffset, hbytes⟩
    exact ⟨chunk, hdecoded, ⟨hoffset, hbytes⟩, rfl⟩

/-- A request, a refusal or another silent call leaves the record as it was. -/
private theorem Assembled.silent {status : WaveformStatus} {received : Nat} {e : Call × Outcome}
    (h : Assembled history machine status received) (hsilent : acceptedBody e = none)
    (hstatus : next.status = machine.status) (hrecord : next.record = machine.record)
    (hreference : next.reference = machine.reference) (hlimits : next.limits = machine.limits) :
    Assembled (history ++ [e]) next status received := by
  obtain ⟨hknown, hlength, ranges, hranges, hassembled⟩ := h
  refine ⟨hstatus.trans hknown, by rw [hrecord, hlength], ranges, ?_, ?_⟩
  · rwa [List.filterMap_append, List.filterMap_cons, hsilent, List.filterMap_nil, List.append_nil]
  · rwa [hreference, hlimits, hrecord]

/-- What a range that passed its checks does: it extends the record, and the last one completes
the record or starts the download again. -/
theorem acceptRange_of_checked {status : WaveformStatus} {receivedBytes totalBytes : UInt32}
    {encoded : List UInt8} {chunk : WaveformChunkView}
    (hconfigured : ∃ configuration, machine.configuration = .ok configuration)
    (hstatus : machine.status = some status)
    (hphase : machine.phase = .downloading receivedBytes totalBytes)
    (hchecked : machine.checkedRange status receivedBytes totalBytes encoded = .ok chunk) :
    let extended := { machine with record := machine.record ++ chunk.bytes }
    (chunk.endOffset ≠ totalBytes ∧ machine.acceptRange encoded =
      ({ extended with phase := .downloading chunk.endOffset totalBytes }, .ok ())) ∨
    (chunk.endOffset = totalBytes ∧ Validated extended status ∧
      machine.acceptRange encoded = ({ extended with phase := .complete }, .ok ())) ∨
    (chunk.endOffset = totalBytes ∧ ¬ Validated extended status ∧
      ∃ error, machine.acceptRange encoded = (machine.restart totalBytes, .error error)) := by
  intro extended
  have hvalue : machine.acceptRange encoded =
      if chunk.endOffset = totalBytes then extended.finishRecord status totalBytes
      else ({ extended with phase := .downloading chunk.endOffset totalBytes }, .ok ()) := by
    unfold acceptRange
    split
    · next known received total hknown hdownloading =>
      obtain rfl := Option.some.inj (hknown.symm.trans hstatus)
      obtain ⟨rfl, rfl⟩ := WaveformClientPhase.downloading.inj (hdownloading.symm.trans hphase)
      simp only [hchecked]
      rfl
    · next hnone => exact absurd hphase (hnone _ _ _ hstatus)
  by_cases hlast : chunk.endOffset = totalBytes
  · right
    obtain ⟨configuration, hconfiguration⟩ := hconfigured
    have hextended : extended.configuration = .ok configuration := hconfiguration
    rw [hvalue, if_pos hlast]
    -- the complete record is checked under the digest of the announced record
    cases hvalidation : DiagnosticWire.validateRetainedCapture extended.record configuration
        extended.recordLimits extended.limits with
    | error error =>
      refine Or.inr ⟨hlast, ?_, .transport error, ?_⟩
      · rintro ⟨other, hother, hvalid⟩
        rw [hextended, Except.ok.injEq] at hother
        subst hother
        rw [hvalidation] at hvalid
        cases hvalid
      · simp only [finishRecord, hextended, hvalidation]
        rfl
    | ok digest =>
      by_cases hdigest : digest = status.recordDigest
      · subst hdigest
        refine Or.inl ⟨hlast, ⟨configuration, hextended, hvalidation⟩, ?_⟩
        simp [finishRecord, hextended, hvalidation]
      · refine Or.inr ⟨hlast, ?_, .identity, ?_⟩
        · rintro ⟨other, hother, hvalid⟩
          rw [hextended, Except.ok.injEq] at hother
          subst hother
          rw [hvalidation, Except.ok.injEq] at hvalid
          exact hdigest hvalid
        · simp only [finishRecord, hextended, hvalidation]
          rw [if_pos hdigest]
          rfl
  · left
    exact ⟨hlast, by rw [hvalue, if_neg hlast]⟩

/-- A change of the pending request alone leaves the record as it was. -/
private theorem Coherent.pending (h : Coherent history machine) {e : Call × Outcome}
    (hsilent : acceptedBody e = none) (pending : Option WaveformAction)
    (hfits : ∀ action, pending = some action → action.Fits machine.phase) :
    Coherent (history ++ [e]) { machine with pending } := by
  refine ⟨h.configured, hfits, ?_, ?_⟩
  · intro receivedBytes totalBytes hphase
    obtain ⟨status, htotal, hassembled⟩ := h.downloading _ _ hphase
    exact ⟨status, htotal, hassembled.silent hsilent rfl rfl rfl rfl⟩
  · intro hphase
    obtain ⟨status, hassembled, hvalidated⟩ := h.complete hphase
    exact ⟨status, hassembled.silent hsilent rfl rfl rfl rfl, hvalidated⟩

/-- Outside the download there is nothing to keep. -/
private theorem coherent_outside (hconfigured : ∃ configuration, next.configuration = .ok configuration)
    (hidle : next.pending = none) (hcomplete : next.phase ≠ .complete)
    (hdownloading : ∀ receivedBytes totalBytes, next.phase ≠ .downloading receivedBytes totalBytes) :
    Coherent history next := by
  refine ⟨hconfigured, ?_, ?_, fun hphase => absurd hphase hcomplete⟩
  · intro action haction
    rw [hidle] at haction
    cases haction
  · intro receivedBytes totalBytes hphase
    exact absurd hphase (hdownloading _ _)

/-- Every call keeps a machine coherent with its history. -/
theorem coherent_step (hextent : ChunkExtent) {e : Call × Outcome} (h : Transition machine e next)
    (hcoherent : Coherent history machine) : Coherent (history ++ [e]) next := by
  have hconfigured := hcoherent.configured
  cases h with
  | refused silent unaccepted idle => exact hcoherent.pending unaccepted _ hcoherent.fits
  | asked idle fits =>
    refine hcoherent.pending rfl _ ?_
    intro action haction
    obtain rfl := Option.some.inj haction
    exact fits
  | armed idle configured =>
    exact coherent_outside hconfigured idle (by simp) (by simp)
  | stopping idle known =>
    exact coherent_outside hconfigured idle (by simp) (by simp)
  | @abandoned action pending =>
    by_cases hread : action = .read
    · subst hread
      exact hcoherent.pending rfl none (by simp)
    · -- any other action leaves for a phase outside the download
      apply coherent_outside
      · exact hconfigured
      · rfl
      · cases action <;> first | exact absurd rfl hread | simp [WaveformAction.abandonedPhase]
      · cases action <;> first | exact absurd rfl hread | simp [WaveformAction.abandonedPhase]
  | rejected pending => exact hcoherent.pending rfl none (by simp)
  | settled pending status accepts =>
    obtain ⟨phase, status, record, rfl, hphases⟩ := settle_cases accepts
    rcases hphases with hsettled | ⟨announced, rfl, rfl, rfl⟩
    · apply coherent_outside
      · exact hconfigured
      · rfl
      · intro hcomplete
        have hmem : phase = .complete := hcomplete
        simp [hmem, settledPhases] at hsettled
      · intro receivedBytes totalBytes hdownloading
        have hmem : phase = .downloading receivedBytes totalBytes := hdownloading
        simp [hmem, settledPhases] at hsettled
    · refine ⟨hconfigured, by simp, ?_, by simp⟩
      intro receivedBytes totalBytes hphase
      obtain ⟨rfl, rfl⟩ := WaveformClientPhase.downloading.inj hphase
      exact ⟨announced, rfl, rfl, rfl, [], List.nil_suffix, .nil⟩
  | @ranged response ranged result status receivedBytes totalBytes chunk pending known downloading
      checked accepts =>
    obtain ⟨announced, htotal, hassembled⟩ := hcoherent.downloading _ _ downloading
    obtain ⟨hknown, hlength, ranges, hsuffix, hranges⟩ := hassembled
    obtain rfl : announced = status := Option.some.inj (hknown.symm.trans known)
    obtain ⟨hdecoded, hoffset, hrecord⟩ := checkedRange_eq_ok.1 checked
    have hend := hextent _ _ _ _ _ hdecoded
    have hextended : Ranges machine.reference announced.recordDigest machine.limits
        (ranges ++ [response.body]) chunk.endOffset.toNat (machine.record ++ chunk.bytes) := by
      rw [hend, hoffset]
      exact .snoc hranges hdecoded (by rw [hoffset])
    have hlast : (history ++ [(Call.acceptResponse response, Outcome.done (.ok ()))]).filterMap
        acceptedBody = history.filterMap acceptedBody ++ [response.body] := by
      rw [List.filterMap_append]
      rfl
    have hsuffix' : ranges ++ [response.body] <:+
        history.filterMap acceptedBody ++ [response.body] := by
      obtain ⟨front, hfront⟩ := hsuffix
      exact ⟨front, by rw [← List.append_assoc, hfront]⟩
    have hconfigured' : ∃ configuration,
        { machine with pending := none }.configuration = .ok configuration := hconfigured
    rcases acceptRange_of_checked hconfigured' known downloading checked with
      ⟨hmore, hvalue⟩ | ⟨hfull, hvalidated, hvalue⟩ | ⟨hfull, hvalidated, error, hvalue⟩
    · rw [hvalue, Prod.mk.injEq] at accepts
      obtain ⟨rfl, rfl⟩ := accepts
      refine ⟨hconfigured, by simp, ?_, by simp⟩
      intro received total hphase
      obtain ⟨rfl, rfl⟩ := WaveformClientPhase.downloading.inj hphase
      refine ⟨announced, htotal, known, hextended.length, ranges ++ [response.body], ?_, hextended⟩
      rw [hlast]
      exact hsuffix'
    · rw [hvalue, Prod.mk.injEq] at accepts
      obtain ⟨rfl, rfl⟩ := accepts
      refine ⟨hconfigured, by simp, by simp, ?_⟩
      intro _
      have hreceived : chunk.endOffset.toNat = announced.recordBytes.toNat := by rw [hfull, htotal]
      rw [hreceived] at hextended
      refine ⟨announced, ⟨known, hextended.length, ranges ++ [response.body], ?_, hextended⟩,
        hvalidated⟩
      rw [hlast]
      exact hsuffix'
    · rw [hvalue, Prod.mk.injEq] at accepts
      obtain ⟨rfl, rfl⟩ := accepts
      refine ⟨hconfigured, by simp [restart], ?_, by simp [restart]⟩
      intro received total hphase
      obtain ⟨rfl, rfl⟩ := WaveformClientPhase.downloading.inj hphase
      exact ⟨announced, htotal, known, rfl, [], List.nil_suffix, .nil⟩

/-! ## Runs -/

theorem coherent_new {configure : List UInt8} {limits : DiagnosticTransportLimits}
    {recordLimits : DiagnosticLimits} (h : new configure limits recordLimits = .ok start) :
    Coherent [] start := by
  simp only [new, Except.bind_eq_ok, Except.mapError_eq_ok, Except.pure_eq_ok] at h
  obtain ⟨configuration, hconfiguration, rfl⟩ := h
  apply coherent_outside
  · exact ⟨configuration, Except.mapError_eq_ok.2 hconfiguration⟩
  · rfl
  · simp
  · simp

theorem coherent_of_run (hextent : ChunkExtent) (h : Run Step start history machine)
    (hstart : Coherent [] start) : Coherent history machine :=
  h.along_history (fun _ _ _ _ hstep => coherent_step hextent (step_cases hstep)) hstart

/-- A request needs an idle machine and leaves it waiting. -/
private theorem emits_step (machine : WaveformCaptureMachine) (e : Call × Outcome)
    (next : WaveformCaptureMachine) (h : Step machine e next) (hemits : Emits e) :
    ¬ machine.pending.isSome ∧ next.pending.isSome := by
  cases step_cases h with
  | refused silent unaccepted idle => exact absurd hemits silent
  | asked idle fits => simp [idle]
  | _ =>
    obtain ⟨operation, hoperation⟩ := hemits
    cases hoperation

/-- A machine waits until a response or an abandonment. -/
private theorem waits_step (machine : WaveformCaptureMachine) (e : Call × Outcome)
    (next : WaveformCaptureMachine) (h : Step machine e next) (hpending : machine.pending.isSome) (hsettles : ¬ Settles e) : next.pending.isSome := by
  cases step_cases h with
  | refused silent unaccepted idle => exact hpending
  | asked idle fits => rfl
  | armed idle configured => exact hpending
  | stopping idle known => exact hpending
  | abandoned pending => exact absurd (Or.inr rfl) hsettles
  | _ => exact absurd (Or.inl ⟨_, rfl⟩) hsettles

/-! ## The download -/

/-- A response that names another capture, another configuration or another place in the
record than the machine is at. -/
inductive Foreign (machine : WaveformCaptureMachine) (response : Response) : Prop
  | status {action : WaveformAction} {status : WaveformStatus}
      (pending : machine.pending = some action) (other : action ≠ .read)
      (body : response.body ≠ [])
      (decoded : DiagnosticWire.decodeWaveformStatus response.body = .ok status)
      (differs : status.captureId ≠ machine.reference.captureId ∨
        status.configureDigest ≠ machine.reference.configureDigest)
  | range {status : WaveformStatus} {receivedBytes totalBytes : UInt32}
      (pending : machine.pending = some .read) (known : machine.status = some status)
      (downloading : machine.phase = .downloading receivedBytes totalBytes)
      (differs : ∀ chunk, DiagnosticWire.decodeWaveformChunk response.body machine.reference
        status.recordDigest machine.limits = .ok chunk →
          chunk.offset ≠ receivedBytes ∨ chunk.recordBytes ≠ totalBytes)

/-- A response with the last range of a record that does not pass the final check. -/
def FailsValidation (machine : WaveformCaptureMachine) (response : Response)
    (totalBytes : UInt32) : Prop :=
  ∃ status receivedBytes chunk, machine.pending = some .read ∧
    requireBody response = .ok () ∧ machine.status = some status ∧
    machine.phase = .downloading receivedBytes totalBytes ∧
    machine.checkedRange status receivedBytes totalBytes response.body = .ok chunk ∧
    chunk.endOffset = totalBytes ∧
    ¬ Validated { machine with record := machine.record ++ chunk.bytes } status

/-- What holds of a machine, of its history and of the response it gets next. -/
structure DownloadDiscipline (history : List (Call × Outcome)) (machine : WaveformCaptureMachine) :
    Prop where
  /-- Between two requests the first one is settled. -/
  onePending : ∀ before first between second after,
    history = before ++ first :: (between ++ second :: after) → Emits first → Emits second →
      ∃ e ∈ between, Settles e
  /-- The record of a download is its accepted ranges. -/
  downloading : ∀ receivedBytes totalBytes,
    machine.phase = .downloading receivedBytes totalBytes →
      ∃ status, status.recordBytes = totalBytes ∧
        Assembled history machine status receivedBytes.toNat
  /-- A complete record is the announced one. -/
  record : ∀ bytes, machine.completeRecord = some bytes → machine.phase = .complete ∧
    ∃ status configuration, machine.status = some status ∧
      bytes.length = status.recordBytes.toNat ∧ machine.configuration = .ok configuration ∧
      DiagnosticWire.validateRetainedCapture bytes configuration machine.recordLimits
        machine.limits = .ok status.recordDigest
  /-- A failed final check starts the download again. -/
  restarts : ∀ response totalBytes, FailsValidation machine response totalBytes →
    ∃ error, machine.acceptResponse response =
      ({ machine with pending := none, record := [], phase := .downloading 0 totalBytes },
        .error error)
  /-- A foreign response only frees the pending request. -/
  foreign : ∀ response, Foreign machine response →
    ∃ error, machine.acceptResponse response = ({ machine with pending := none }, .error error)

private theorem acceptResponse_of_settle {action : WaveformAction} {response : Response}
    {error : DiagnosticClientError} (hpending : machine.pending = some action)
    (hread : action ≠ .read)
    (hsettle : { machine with pending := none }.settle action response = .error error) :
    machine.acceptResponse response = ({ machine with pending := none }, .error error) := by
  cases action with
  | read => exact absurd rfl hread
  | _ => simp only [acceptResponse, hpending, hsettle]

private theorem restarts_of_failsValidation (hcoherent : Coherent history machine)
    {response : Response} {totalBytes : UInt32} (h : FailsValidation machine response totalBytes) :
    ∃ error, machine.acceptResponse response =
      ({ machine with pending := none, record := [], phase := .downloading 0 totalBytes },
        .error error) := by
  obtain ⟨status, receivedBytes, chunk, hpending, hbody, hstatus, hphase, hchecked, hfull, hfails⟩ := h
  have hvalue : machine.acceptResponse response =
      { machine with pending := none }.acceptRange response.body := by
    simp only [acceptResponse, hpending, hbody]
  have hconfigured : ∃ configuration,
      { machine with pending := none }.configuration = .ok configuration := hcoherent.configured
  rcases acceptRange_of_checked hconfigured hstatus hphase hchecked with
    ⟨hmore, -⟩ | ⟨-, hvalidated, -⟩ | ⟨-, -, error, hrestart⟩
  · exact absurd hfull hmore
  · exact absurd hvalidated hfails
  · exact ⟨error, hvalue.trans hrestart⟩

private theorem refused_of_foreign {response : Response} (h : Foreign machine response) :
    ∃ error, machine.acceptResponse response =
      ({ machine with pending := none }, .error error) := by
  cases h with
  | @status action status pending other body decoded differs =>
    -- every way to settle an action with a body reads the status first
    have hrejected : ∃ error,
        { machine with pending := none }.settle action response = .error error := by
      unfold settle
      split
      · exact ⟨.responseBody, by simp [requireEmpty, Except.failIf, body, bind, Except.bind]⟩
      split
      · exact ⟨.responseBody, by simp [requireEmpty, Except.failIf, body, bind, Except.bind]⟩
      · cases hbody : requireBody response with
        | error error => exact ⟨error, rfl⟩
        | ok =>
          refine ⟨.identity, ?_⟩
          simp [decoded, Except.mapError, validateStatus, Except.failIf, differs, bind, Except.bind]
    obtain ⟨error, hsettle⟩ := hrejected
    exact ⟨error, acceptResponse_of_settle pending other hsettle⟩
  | @range status receivedBytes totalBytes pending known downloading differs =>
    cases hbody : requireBody response with
    | error error => exact ⟨error, by simp only [acceptResponse, pending, hbody]⟩
    | ok =>
      have hvalue : machine.acceptResponse response =
          { machine with pending := none }.acceptRange response.body := by
        simp only [acceptResponse, pending, hbody]
      rw [hvalue]
      rcases acceptRange_cases { machine with pending := none } response.body with
        hrejected | ⟨status', received', total', chunk, hstatus, hphase, hchecked⟩
      · exact hrejected
      · -- a range that passes its checks is not foreign
        obtain ⟨hdecoded, hoffset, hbytes⟩ := checkedRange_eq_ok.1 hchecked
        obtain rfl := Option.some.inj (hstatus.symm.trans known)
        obtain ⟨rfl, rfl⟩ := WaveformClientPhase.downloading.inj (hphase.symm.trans downloading)
        rcases differs chunk hdecoded with hother | hother
        · exact absurd hoffset hother
        · exact absurd hbytes hother

/-- **Waveform download.** Whatever responses a machine gets, in whatever order it is called:
at most one request is pending, the record of a download is the concatenation of the ranges it
accepted, a complete record is the announced and validated one, a failed final check starts
again from the first byte, and a foreign response changes nothing but the pending request. -/
theorem waveformDownload {configure : List UInt8} {limits : DiagnosticTransportLimits}
    {recordLimits : DiagnosticLimits} (hextent : ChunkExtent)
    (hnew : new configure limits recordLimits = .ok start)
    (hrun : Run Step start history machine) : DownloadDiscipline history machine := by
  have hcoherent : Coherent history machine := coherent_of_run hextent hrun (coherent_new hnew)
  constructor
  · rintro before first between second after rfl hfirst hsecond
    exact hrun.settled_between emits_step waits_step hfirst hsecond
  · exact hcoherent.downloading
  · intro bytes hbytes
    unfold completeRecord at hbytes
    split at hbytes
    · next hphase =>
      obtain rfl := Option.some.inj hbytes
      obtain ⟨status, ⟨hstatus, hlength, -⟩, configuration, hconfiguration, hvalid⟩ :=
        hcoherent.complete hphase
      exact ⟨hphase, status, configuration, hstatus, hlength, hconfiguration, hvalid⟩
    · cases hbytes
  · intro response totalBytes
    exact restarts_of_failsValidation hcoherent
  · intro response
    exact refused_of_foreign

end Runs

section Sample

open HostLibrary Graph.HostLibrary

def sampleLimits : DiagnosticTransportLimits := ⟨1024, []⟩

def sampleConfigure : List UInt8 := encodeConfigure ⟨.replicate 16 0x41⟩ 2 [1]

def sampleCapture : WaveformCaptureMachine where
  configure := sampleConfigure
  limits := sampleLimits
  recordLimits := ⟨[]⟩
  reference := ⟨⟨.replicate 16 0x41⟩, Graph.Sha256.sha256 sampleConfigure⟩
  maximumChunkBytes := 2
  phase := .configuring
  pending := none
  status := none
  record := []

/-- A device's status of the sample capture and its record of three bytes. -/
def sampleStatus (phase : WaveformPhase) : Response :=
  ⟨.ok, encodeWaveformStatus ⟨phase, sampleCapture.reference.captureId,
    sampleCapture.reference.configureDigest, 3, Graph.Sha256.sha256 [1, 2, 3], []⟩⟩

def sampleRange (offset : Nat) : Response :=
  ⟨.ok, encodeChunk sampleCapture.reference [1, 2, 3] offset 2⟩

/-- The second range is lost once. -/
def sampleDownload : List Call :=
  [.nextRequest, .acceptResponse (sampleStatus .configured), .requestArm,
    .nextRequest, .acceptResponse (sampleStatus .complete),
    .nextRequest, .acceptResponse (sampleRange 0), .nextRequest, .abandonPending,
    .nextRequest, .acceptResponse (sampleRange 2)]

theorem chunkExtent_hostLibrary : ChunkExtent := by
  intro encoded reference digest limits chunk h
  change whole (decodeChunk reference digest) encoded = .ok chunk at h
  simp only [whole, decodeChunk, Except.bind_eq_ok, Codec.bind_eq_ok] at h
  obtain ⟨⟨chunk, rest⟩, ⟨id, r1, -, configureDigest, r2, -, recordDigest, r3, -, u, r4, -,
    recordBytes, r5, -, offset, r6, -, bytes, r7, -, v, r8, hfits, hchunk⟩, -, -, hsame⟩ := h
  obtain ⟨hfits, -⟩ := Codec.lift_eq_ok.1 hfits
  rw [Except.failIf_eq_ok, not_lt] at hfits
  obtain ⟨rfl, -⟩ := Prod.mk.inj (Except.ok.inj hchunk)
  obtain rfl := Except.ok.inj hsame
  have hbound : offset.toNat + bytes.length < UInt32.size :=
    lt_of_le_of_lt hfits recordBytes.toNat_lt
  rw [UInt32.toNat_ofNat_of_lt' hbound]

/-- The sample download completes with the record of the device. -/
theorem waveformDownload_sample :
    DownloadDiscipline (Run.execute perform sampleCapture sampleDownload).2
        (Run.execute perform sampleCapture sampleDownload).1 ∧
      (Run.execute perform sampleCapture sampleDownload).1.completeRecord = some [1, 2, 3] := by
  refine ⟨?_, by decide +kernel⟩
  exact waveformDownload chunkExtent_hostLibrary (show new sampleConfigure sampleLimits ⟨[]⟩ =
    .ok sampleCapture from rfl) (Run.run_execute perform sampleCapture sampleDownload)

end Sample

end WaveformCaptureMachine

end Alumina.Client
