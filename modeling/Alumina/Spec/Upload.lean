import Alumina.Client.Upload

/-!
# The upload machine over every run

What one call on `CacheUploadMachine` can do is said once, by an inversion lemma for each
call, and the facts about whole histories follow from those.

## Key results

- `request_eq_some`: the action a state issues and the exact body it carries
- `acceptAction_eq_ok`: what a response must say for each state it leads to
- `wellPlaced_of_run`: the pending action belongs to the state, and a chunk state names an
  exact prefix of the plan
- `outstanding_of_run`: a history emits at most one more request than it settles
- `finalize_origin`, `complete_origin`: how the last two states were entered
-/

namespace Alumina.Client

open Alumina.Graph (Sha256)
open Except (failIf)

variable [StorageWire]

/-! ## Actions and reports -/

/-- The states an action is issued from. -/
def UploadAction.IssuedFrom : UploadAction → UploadState → Prop
  | .inspect, state => state = .inspect
  | .begin, state => state = .begin
  | .chunk index, state => ∃ accepted, state = .chunk index accepted
  | .finalize, state => state = .finalize

/-- The `index`-th chunk of `source`, checked against the plan, as one storage body. -/
def CarriesChunk [Sha256] (plan : UploadPlan) (source : UploadSource) (index : UInt32)
    (body : List UInt8) : Prop :=
  ∃ header bytes, source.chunkHeader index = some header ∧ source.chunkBytes index = some bytes ∧
    body = StorageWire.encodeHeader header ++ bytes ∧ header.uploadId = plan.uploadId ∧
    header.index = index ∧ header.byteLen.toNat = bytes.length ∧
    header.content = contentOf bytes ∧ expectedChunkBytes plan index = .ok header.byteLen

/-- The operation that puts an action on the wire. -/
def UploadAction.Issues [Sha256] (plan : UploadPlan) (source : UploadSource) :
    UploadAction → UploadOperation → Prop
  | .inspect, operation =>
    operation = ⟨.storageInspect, StorageWire.encodePublished plan.publication⟩
  | .begin, operation => operation = ⟨.storageBeginUpload, StorageWire.encodePlan plan⟩
  | .chunk index, operation =>
    operation.operation = .storagePutChunk ∧ CarriesChunk plan source index operation.body
  | .finalize, operation =>
    operation = ⟨.storageFinalize, StorageWire.encodeFinalize ⟨plan.uploadId⟩⟩

/-- A progress report of this upload that names its complete prefix. -/
def NamesCompletePrefix (plan : UploadPlan) (response : Response) : Prop :=
  response.status = .ok ∧
  ∃ progress, StorageWire.decodeProgress response.body = .ok progress ∧
    progress.uploadId = plan.uploadId ∧ progress.nextChunk = plan.chunkCount ∧
    progress.acceptedBytes = plan.object.byteLen ∧ progress.totalBytes = plan.object.byteLen

/-- A chunk state names an exact prefix of the plan. -/
def UploadState.WellPlaced (plan : UploadPlan) : UploadState → Prop
  | .chunk nextChunk acceptedBytes =>
    nextChunk < plan.chunkCount ∧
      acceptedBytes.toNat = nextChunk.toNat * plan.chunkBytes.toNat
  | _ => True

/-- What a response said for the machine to move from `action` to `state`. -/
def UploadAction.Justifies (plan : UploadPlan) (limits : CacheLimits) (response : Response) :
    UploadAction → UploadState → Prop
  | .inspect, state =>
    state = .complete ∧ response.status = .ok ∧
        StorageWire.decodePublished response.body limits = .ok plan.publication ∨
      state = .begin ∧ response.status = .notFound ∧ response.body = []
  | .begin, state | .chunk _, state =>
    response.status = .ok ∧
      ((∃ nextChunk accepted, state = .chunk nextChunk accepted) ∧ state.WellPlaced plan ∨
        state = .finalize ∧ NamesCompletePrefix plan response)
  | .finalize, state => state = .complete ∧ response.status = .ok ∧ response.body = []

namespace CacheUploadMachine

variable {machine machine' start : CacheUploadMachine} {source : UploadSource}
  {limits : CacheLimits} {response : Response} {action : UploadAction} {state : UploadState}
  {operation : UploadOperation}

/-! ## Requests -/

/-- The checks a chunk passed before it is put on the wire. -/
theorem validateChunk_eq_ok [Sha256] {index : UInt32} {header : ChunkUploadHeader}
    {bytes : List UInt8} (h : machine.validateChunk index header bytes = .ok ()) :
    header.uploadId = machine.plan.uploadId ∧ header.index = index ∧
      header.byteLen.toNat = bytes.length ∧ header.content = contentOf bytes ∧
      expectedChunkBytes machine.plan index = .ok header.byteLen := by
  simp only [validateChunk, Except.bind_eq_ok, Except.failIf_eq_ok, Except.exists_unit,
    not_or, not_not] at h
  obtain ⟨expected, hexpected, hlength, hid, hindex, hlen, hreceived, hcontent⟩ := h
  have hbytes : (UInt32.ofNat bytes.length).toNat = bytes.length := by
    rw [UInt32.toNat_ofNat_of_lt']
    simpa using hlength
  refine ⟨hid, hindex, ?_, hcontent, ?_⟩
  · rw [hlen, ← hreceived, hbytes]
  · rw [hexpected, hlen]

/-- The action a state issues and the exact body it carries. -/
theorem request_eq_some [Sha256] (h : machine.request source = .ok (some (action, operation))) :
    action.IssuedFrom machine.state ∧ action.Issues machine.plan source operation := by
  unfold request at h
  split at h
  · next hstate =>
    simp only [Except.ok.injEq, Option.some.injEq, Prod.mk.injEq] at h
    obtain ⟨rfl, rfl⟩ := h
    exact ⟨hstate, rfl⟩
  · next hstate =>
    simp only [Except.ok.injEq, Option.some.injEq, Prod.mk.injEq] at h
    obtain ⟨rfl, rfl⟩ := h
    exact ⟨hstate, rfl⟩
  · next nextChunk accepted hstate =>
    simp only [Except.bind_eq_ok, Option.okOr_eq_ok, Except.exists_unit, Except.pure_eq_ok,
      Option.some.injEq, Prod.mk.injEq] at h
    obtain ⟨header, hheader, bytes, hbytes, hvalid, rfl, rfl⟩ := h
    obtain ⟨hid, hindex, hlen, hcontent, hexpected⟩ := validateChunk_eq_ok hvalid
    exact ⟨⟨accepted, hstate⟩, rfl, header, bytes, hheader, hbytes, rfl, hid, hindex, hlen,
      hcontent, hexpected⟩
  · next hstate =>
    simp only [Except.ok.injEq, Option.some.injEq, Prod.mk.injEq] at h
    obtain ⟨rfl, rfl⟩ := h
    exact ⟨hstate, rfl⟩
  · simp at h

/-- A request is refused without effect, or becomes the pending one. -/
theorem nextRequest_cases [Sha256] (machine : CacheUploadMachine) (source : UploadSource) :
    ((machine.nextRequest source).1 = machine ∧
        ∀ operation, (machine.nextRequest source).2 ≠ .ok (some operation)) ∨
      ∃ action operation, machine.pending = none ∧ source.uploadPlan = machine.plan ∧
        action.IssuedFrom machine.state ∧ action.Issues machine.plan source operation ∧
        machine.nextRequest source =
          ({ machine with pending := some action }, .ok (some operation)) := by
  unfold nextRequest
  split
  · exact Or.inl ⟨rfl, by simp⟩
  · next hpending =>
    split
    · exact Or.inl ⟨rfl, by simp⟩
    · next hplan =>
      split
      · exact Or.inl ⟨rfl, by simp⟩
      · exact Or.inl ⟨rfl, by simp⟩
      · next action operation hrequest =>
        obtain ⟨hissued, hissues⟩ := request_eq_some hrequest
        exact Or.inr ⟨action, operation, by simpa using hpending, not_not.1 hplan, hissued,
          hissues, rfl⟩

/-! ## Responses -/

theorem requireOk_eq_ok : requireOk response = .ok () ↔ response.status = .ok := by
  unfold requireOk
  split
  · next h => split <;> simp [h]
  · next h => simpa using h

/-- A report is turned into a position only if it names an exact prefix of the plan. -/
theorem stateFromProgress_eq_ok {progress : UploadProgress}
    (h : machine.stateFromProgress progress = .ok state) :
    (∃ nextChunk accepted, state = .chunk nextChunk accepted) ∧
        state.WellPlaced machine.plan ∨
      state = .finalize ∧ progress.uploadId = machine.plan.uploadId ∧
        progress.nextChunk = machine.plan.chunkCount ∧
        progress.acceptedBytes = machine.plan.object.byteLen ∧
        progress.totalBytes = machine.plan.object.byteLen := by
  simp only [stateFromProgress, Except.bind_eq_ok, Except.failIf_eq_ok, Except.exists_unit,
    not_or, not_not] at h
  obtain ⟨⟨hid, htotal, hcount⟩, expected, hexpected, haccepted, h⟩ := h
  split at h
  · next hlt =>
    -- a proper prefix: the expected length is the checked product
    simp only [Except.bind_eq_ok, Except.failIf_eq_ok, Except.exists_unit,
      Except.pure_eq_ok] at h
    obtain ⟨-, rfl⟩ := h
    refine Or.inl ⟨⟨_, _, rfl⟩, hlt, ?_⟩
    rw [expectedPrefixBytes, if_neg hcount, if_neg (UInt32.ne_of_lt hlt), Option.okOr_eq_ok,
      UInt64.checkedMul_eq_some] at hexpected
    rw [haccepted, hexpected, UInt32.toNat_toUInt64, UInt32.toNat_toUInt64, Nat.mul_comm]
  · next hlt =>
    have heq : progress.nextChunk = machine.plan.chunkCount := by
      rw [UInt32.not_lt] at hcount hlt
      exact UInt32.le_antisymm hcount hlt
    split at h
    · simp only [Except.pure_eq_ok] at h
      subst h
      rw [expectedPrefixBytes, if_neg hcount, if_pos heq, Except.ok.injEq] at hexpected
      exact Or.inr ⟨rfl, hid, heq, by rw [haccepted, ← hexpected], htotal⟩
    · cases h

/-- What a response must say for each state it leads to. -/
theorem acceptAction_eq_ok (h : machine.acceptAction action response = .ok state) :
    action.Justifies machine.plan machine.limits response state := by
  cases action with
  | inspect =>
    simp only [acceptAction, acceptInspection] at h
    split at h
    · next hstatus =>
      simp only [Except.bind_eq_ok, Except.mapError_eq_ok, Except.failIf_eq_ok,
        Except.exists_unit, Except.pure_eq_ok, not_not] at h
      obtain ⟨observed, hobserved, heq, rfl⟩ := h
      exact Or.inl ⟨rfl, hstatus, by rw [hobserved, heq]; rfl⟩
    · next hstatus =>
      split at h
      · next hbody =>
        cases h
        exact Or.inr ⟨rfl, hstatus, hbody⟩
      · cases h
    · split at h <;> cases h
  | begin =>
    simp only [acceptAction, Except.bind_eq_ok, Except.exists_unit, requireOk_eq_ok,
      Except.mapError_eq_ok] at h
    obtain ⟨hstatus, progress, hdecode, hstate⟩ := h
    refine ⟨hstatus, ?_⟩
    rcases stateFromProgress_eq_ok hstate with hchunk | ⟨hfinal, hprefix⟩
    · exact Or.inl hchunk
    · exact Or.inr ⟨hfinal, hstatus, progress, hdecode, hprefix⟩
  | chunk index =>
    simp only [acceptAction, Except.bind_eq_ok, Except.exists_unit, requireOk_eq_ok,
      Except.mapError_eq_ok] at h
    obtain ⟨hstatus, progress, hdecode, -, -, hstate⟩ := h
    refine ⟨hstatus, ?_⟩
    rcases stateFromProgress_eq_ok hstate with hchunk | ⟨hfinal, hprefix⟩
    · exact Or.inl hchunk
    · exact Or.inr ⟨hfinal, hstatus, progress, hdecode, hprefix⟩
  | finalize =>
    simp only [acceptAction, Except.bind_eq_ok, Except.exists_unit, requireOk_eq_ok,
      Except.failIf_eq_ok, Except.pure_eq_ok, not_not] at h
    obtain ⟨hstatus, hbody, rfl⟩ := h
    exact ⟨rfl, hstatus, hbody⟩

/-- Only a response without a pending request is refused as such. -/
theorem acceptAction_ne_noPendingRequest :
    machine.acceptAction action response ≠ .error .noPendingRequest := by
  have hok : requireOk response ≠ .error .noPendingRequest := by
    unfold requireOk
    split
    · split <;> simp
    · simp
  have hprogress : ∀ progress, machine.stateFromProgress progress ≠ .error .noPendingRequest := by
    intro progress
    simp only [stateFromProgress, expectedPrefixBytes]
    repeat' split
    all_goals simp [Except.bind_eq_error, Except.map_eq_error, Option.okOr_eq_error]
  cases action with
  | inspect =>
    simp only [acceptAction, acceptInspection]
    repeat' split
    all_goals simp [Except.bind_eq_error, Except.map_eq_error, Except.mapError_eq_error]
  | begin =>
    simp [acceptAction, Except.bind_eq_error, Except.mapError_eq_error, hok, hprogress]
  | chunk index =>
    simp [acceptAction, Except.bind_eq_error, Except.mapError_eq_error, hok, hprogress]
  | finalize => simp [acceptAction, Except.bind_eq_error, Except.map_eq_error, hok]

/-- A response is refused when nothing is pending, moves the machine to a state it
justifies, or sends it back to inspection. -/
theorem acceptResponse_cases (machine : CacheUploadMachine) (response : Response) :
    machine.pending = none ∧
        machine.acceptResponse response = (machine, .error .noPendingRequest) ∨
      (∃ action state, machine.pending = some action ∧
        action.Justifies machine.plan machine.limits response state ∧
        machine.acceptResponse response =
          ({ machine with state := state, pending := none }, .ok ())) ∨
      ∃ action error, machine.pending = some action ∧ error ≠ .noPendingRequest ∧
        machine.acceptResponse response =
          ({ machine with state := .inspect, pending := none }, .error error) := by
  unfold acceptResponse
  cases hpending : machine.pending with
  | none => exact Or.inl ⟨rfl, rfl⟩
  | some action =>
    cases haccept : machine.acceptAction action response with
    | ok state =>
      exact Or.inr (Or.inl ⟨action, state, rfl, acceptAction_eq_ok haccept, by simp [haccept]⟩)
    | error error =>
      refine Or.inr (Or.inr ⟨action, error, rfl, ?_, by simp [haccept]⟩)
      rintro rfl
      exact acceptAction_ne_noPendingRequest haccept

omit [StorageWire] in
/-- Abandoning does nothing without a pending request and otherwise returns to inspection. -/
theorem abandonPending_cases (machine : CacheUploadMachine) :
    machine.pending = none ∧ machine.abandonPending = (machine, false) ∨
      machine.pending.isSome ∧
        machine.abandonPending = ({ machine with state := .inspect, pending := none }, true) := by
  unfold abandonPending
  cases hpending : machine.pending with
  | none => exact Or.inl ⟨rfl, rfl⟩
  | some action => exact Or.inr ⟨rfl, rfl⟩

/-! ## Every run -/

variable [Sha256] {history : List Event} {e : Event}

/-- What holds of the machine after every call. -/
structure WellPlaced (start machine : CacheUploadMachine) : Prop where
  plan : machine.plan = start.plan
  limits : machine.limits = start.limits
  position : machine.state.WellPlaced machine.plan
  pending : ∀ action, machine.pending = some action → action.IssuedFrom machine.state

omit [Sha256] in
theorem wellPlaced_new (h : new source limits = .ok start) : WellPlaced start start := by
  simp only [new, Except.bind_eq_ok, Except.exists_unit, Except.pure_eq_ok] at h
  obtain ⟨-, -, rfl⟩ := h
  exact ⟨rfl, rfl, trivial, by simp⟩

omit [StorageWire] [Sha256] in
/-- A settled request leaves a machine that only has to be somewhere in its plan. -/
theorem WellPlaced.settle (h : WellPlaced start machine) (hstate : state.WellPlaced machine.plan) :
    WellPlaced start { machine with state := state, pending := none } :=
  ⟨h.plan, h.limits, hstate, by simp⟩

omit [Sha256] in
theorem justified_wellPlaced
    (h : action.Justifies machine.plan machine.limits response state) :
    state.WellPlaced machine.plan := by
  cases action with
  | inspect =>
    rcases h with ⟨rfl, -⟩ | ⟨rfl, -⟩
    · trivial
    · trivial
  | begin | chunk =>
    rcases h.2 with ⟨-, hplaced⟩ | ⟨rfl, -⟩
    · exact hplaced
    · trivial
  | finalize =>
    obtain ⟨rfl, -⟩ := h
    trivial

theorem wellPlaced_step (hstep : Step machine e machine') (h : WellPlaced start machine) :
    WellPlaced start machine' := by
  cases hstep with
  | nextRequest source =>
    rcases machine.nextRequest_cases source with ⟨hsame, -⟩ | ⟨action, operation, -, -, hfrom, -, heq⟩
    · rw [hsame]
      exact h
    · rw [heq]
      exact ⟨h.plan, h.limits, h.position, by simpa using hfrom⟩
  | acceptResponse response =>
    rcases machine.acceptResponse_cases response with
      ⟨-, heq⟩ | ⟨action, state, -, hjustified, heq⟩ | ⟨action, error, -, -, heq⟩
    · rw [heq]
      exact h
    · rw [heq]
      exact h.settle (justified_wellPlaced hjustified)
    · rw [heq]
      exact h.settle trivial
  | abandonPending =>
    rcases machine.abandonPending_cases with ⟨-, heq⟩ | ⟨-, heq⟩
    · rw [heq]
      exact h
    · rw [heq]
      exact h.settle trivial

/-- The invariant of every run from a bound source. -/
theorem wellPlaced_of_run (hnew : new source limits = .ok start)
    (h : Run Step start history machine) : WellPlaced start machine :=
  h.invariant (fun _ _ _ => wellPlaced_step) (wellPlaced_new hnew)

/-- Requests not yet settled. -/
def outstanding (machine : CacheUploadMachine) : Nat := machine.pending.toList.length

private theorem outstanding_step (hstep : Step machine e machine') :
    machine.outstanding + e.emits.toNat = e.settles.toNat + machine'.outstanding := by
  cases hstep with
  | nextRequest source =>
    rcases machine.nextRequest_cases source with
      ⟨hsame, hnone⟩ | ⟨action, operation, hpending, -, -, -, heq⟩
    · have hquiet : (Event.nextRequest source (machine.nextRequest source).2).emits = false := by
        cases hresult : (machine.nextRequest source).2 with
        | error error => rfl
        | ok result =>
          cases result with
          | none => rfl
          | some operation => exact absurd hresult (hnone operation)
      rw [hsame, hquiet]
      simp [Event.settles]
    · rw [heq]
      simp [Event.emits, Event.settles, outstanding, hpending]
  | acceptResponse response =>
    rcases machine.acceptResponse_cases response with
      ⟨hpending, heq⟩ | ⟨action, state, hpending, -, heq⟩ | ⟨action, error, hpending, hne, heq⟩
    · rw [heq]
      simp [Event.emits, Event.settles]
    · rw [heq]
      simp [Event.emits, Event.settles, outstanding, hpending]
    · have hsettles : (Event.acceptResponse response (.error error)).settles = true := by
        unfold Event.settles
        split
        · next heq => cases heq
        · next heq =>
          cases heq
          exact absurd rfl hne
        · rfl
        · next heq => cases heq
      rw [heq, hsettles]
      simp [Event.emits, outstanding, hpending]
  | abandonPending =>
    rcases machine.abandonPending_cases with ⟨-, heq⟩ | ⟨hpending, heq⟩
    · rw [heq]
      simp [Event.emits, Event.settles]
    · obtain ⟨action, haction⟩ := Option.isSome_iff_exists.1 hpending
      rw [heq]
      simp [Event.emits, Event.settles, outstanding, haction]

/-- Every request but the pending one has been settled. -/
theorem outstanding_of_run (h : Run Step start history machine) :
    start.outstanding + history.countP Event.emits =
      history.countP Event.settles + machine.outstanding := by
  induction h with
  | nil s => simp
  | @cons s t u e es head tail ih =>
    have hhead := outstanding_step head
    rw [List.countP_cons, List.countP_cons]
    cases hemits : e.emits <;> cases hsettles : e.settles <;>
      simp only [hemits, hsettles, Bool.toNat_true, Bool.toNat_false] at hhead ⊢ <;>
      simp <;> omega

/-- A call the machine refused without any effect. -/
def Event.Refused : Event → Prop
  | .nextRequest _ result => ∀ operation, result ≠ .ok (some operation)
  | .acceptResponse _ result => result = .error .noPendingRequest
  | .abandonPending abandoned => abandoned = false

/-- While the machine waits to ask for publication, only refused calls can have been made. -/
private theorem refused_of_waiting (hstep : Step machine e machine')
    (hbefore : machine.pending = none) (hafter : machine'.pending = none) : e.Refused := by
  cases hstep with
  | nextRequest source =>
    rcases machine.nextRequest_cases source with ⟨-, hnone⟩ | ⟨action, operation, -, -, -, -, heq⟩
    · exact hnone
    · rw [heq] at hafter
      cases hafter
  | acceptResponse response =>
    rcases machine.acceptResponse_cases response with
      ⟨-, heq⟩ | ⟨action, state, hpending, -⟩ | ⟨action, error, hpending, -⟩
    · rw [heq]
      rfl
    · rw [hbefore] at hpending
      cases hpending
    · rw [hbefore] at hpending
      cases hpending
  | abandonPending =>
    rcases machine.abandonPending_cases with ⟨-, heq⟩ | ⟨hpending, -⟩
    · rw [heq]
      rfl
    · rw [hbefore] at hpending
      cases hpending

private theorem refused_of_staying {p : CacheUploadMachine → Prop}
    (hp : ∀ m, p m → m.pending = none) (h : Run.Staying Step p machine history machine')
    (hm : p machine) : ∀ e ∈ history, e.Refused := by
  induction h with
  | nil s => simp
  | @cons s t u e es head tail ih =>
    have hrest := ih head.2
    have hhead := refused_of_waiting head.1 (hp _ hm) (hp _ head.2)
    exact List.forall_mem_cons.2 ⟨hhead, hrest⟩

/-- The machine is about to ask for publication. -/
def AboutToFinalize (machine : CacheUploadMachine) : Prop :=
  machine.state = .finalize ∧ machine.pending = none

/-- Only an accepted report of the complete prefix brings the machine to ask for
publication. -/
private theorem aboutToFinalize_entered (hstep : Step machine e machine')
    (hbefore : ¬ machine.AboutToFinalize) (hafter : machine'.AboutToFinalize) :
    ∃ response, e = .acceptResponse response (.ok ()) ∧
      NamesCompletePrefix machine.plan response := by
  cases hstep with
  | nextRequest source =>
    rcases machine.nextRequest_cases source with ⟨hsame, -⟩ | ⟨action, operation, -, -, -, -, heq⟩
    · rw [hsame] at hafter
      exact absurd hafter hbefore
    · rw [heq] at hafter
      cases hafter.2
  | acceptResponse response =>
    rcases machine.acceptResponse_cases response with
      ⟨-, heq⟩ | ⟨action, state, hpending, hjustified, heq⟩ | ⟨action, error, -, -, heq⟩
    · rw [heq] at hafter
      exact absurd hafter hbefore
    · rw [heq] at hafter ⊢
      obtain rfl : state = .finalize := hafter.1
      refine ⟨response, rfl, ?_⟩
      cases action with
      | inspect =>
        rcases hjustified with ⟨hstate, -⟩ | ⟨hstate, -⟩
        · cases hstate
        · cases hstate
      | begin | chunk =>
        rcases hjustified.2 with ⟨⟨nextChunk, accepted, hstate⟩, -⟩ | ⟨-, hprefix⟩
        · cases hstate
        · exact hprefix
      | finalize => cases hjustified.1
    · rw [heq] at hafter
      cases hafter.1
  | abandonPending =>
    rcases machine.abandonPending_cases with ⟨-, heq⟩ | ⟨-, heq⟩
    · rw [heq] at hafter
      exact absurd hafter hbefore
    · rw [heq] at hafter
      cases hafter.1

omit [Sha256] in
theorem state_new (h : new source limits = .ok start) :
    start.state = .inspect ∧ start.pending = none := by
  simp only [new, Except.bind_eq_ok, Except.exists_unit, Except.pure_eq_ok] at h
  obtain ⟨-, -, rfl⟩ := h
  exact ⟨rfl, rfl⟩

/-- The machine asks for publication only after an accepted report of the complete prefix,
and every call made since was refused. -/
theorem finalize_origin (hnew : new source limits = .ok start)
    (h : Run Step start history machine) (hmachine : machine.AboutToFinalize) :
    ∃ before response since, history = before ++ .acceptResponse response (.ok ()) :: since ∧
      NamesCompletePrefix start.plan response ∧ ∀ e ∈ since, e.Refused := by
  have hstart : ¬ start.AboutToFinalize := by
    intro hwaits
    have hstate := hwaits.1
    rw [(state_new hnew).1] at hstate
    cases hstate
  obtain ⟨entry⟩ := h.last_entry hstart hmachine
  obtain ⟨response, hevent, hprefix⟩ :=
    aboutToFinalize_entered entry.entered entry.outside entry.inside
  have hsince := refused_of_staying (fun m hm => hm.2) entry.run_since entry.inside
  have hhistory := entry.history
  rw [hevent] at hhistory
  refine ⟨entry.before, response, entry.since, hhistory, ?_, hsince⟩
  · rw [← (wellPlaced_of_run hnew entry.run_before).plan]
    exact hprefix

/-- A response that shows the bound publication on the device, to the question it answers. -/
def ShowsPublication (machine : CacheUploadMachine) (response : Response) : Prop :=
  machine.pending = some .inspect ∧ response.status = .ok ∧
      StorageWire.decodePublished response.body machine.limits = .ok machine.publication ∨
    machine.pending = some .finalize ∧ response.status = .ok ∧ response.body = []

/-- Only a response that shows the publication completes the upload. -/
private theorem complete_entered (hstep : Step machine e machine')
    (hbefore : machine.state ≠ .complete) (hafter : machine'.state = .complete) :
    ∃ response, e = .acceptResponse response (.ok ()) ∧ machine.ShowsPublication response := by
  cases hstep with
  | nextRequest source =>
    rcases machine.nextRequest_cases source with ⟨hsame, -⟩ | ⟨action, operation, -, -, -, -, heq⟩
    · rw [hsame] at hafter
      exact absurd hafter hbefore
    · rw [heq] at hafter
      exact absurd hafter hbefore
  | acceptResponse response =>
    rcases machine.acceptResponse_cases response with
      ⟨-, heq⟩ | ⟨action, state, hpending, hjustified, heq⟩ | ⟨action, error, -, -, heq⟩
    · rw [heq] at hafter
      exact absurd hafter hbefore
    · rw [heq] at hafter ⊢
      obtain rfl : state = .complete := hafter
      refine ⟨response, rfl, ?_⟩
      cases action with
      | inspect =>
        rcases hjustified with ⟨-, hstatus, hbody⟩ | ⟨hstate, -⟩
        · exact Or.inl ⟨hpending, hstatus, hbody⟩
        · cases hstate
      | begin | chunk =>
        rcases hjustified.2 with ⟨⟨nextChunk, accepted, hstate⟩, -⟩ | ⟨hstate, -⟩
        · cases hstate
        · cases hstate
      | finalize => exact Or.inr ⟨hpending, hjustified.2⟩
    · rw [heq] at hafter
      cases hafter
  | abandonPending =>
    rcases machine.abandonPending_cases with ⟨-, heq⟩ | ⟨-, heq⟩
    · rw [heq] at hafter
      exact absurd hafter hbefore
    · rw [heq] at hafter
      cases hafter

/-- The upload is complete only by a response that shows the publication. -/
theorem complete_origin (hnew : new source limits = .ok start)
    (h : Run Step start history machine) (hstate : machine.state = .complete) :
    ∃ before response since asked,
      history = before ++ .acceptResponse response (.ok ()) :: since ∧
      Run Step start before asked ∧ asked.ShowsPublication response := by
  have hstart : start.state ≠ .complete := by
    rw [(state_new hnew).1]
    exact UploadState.noConfusion
  obtain ⟨entry⟩ := h.last_entry (p := (·.state = .complete)) hstart hstate
  obtain ⟨response, hevent, hshows⟩ :=
    complete_entered entry.entered entry.outside entry.inside
  have hhistory := entry.history
  rw [hevent] at hhistory
  exact ⟨entry.before, response, entry.since, entry.source, hhistory, entry.run_before, hshows⟩

/-- A complete upload has nothing pending, so no call leaves that state. -/
private theorem complete_step (hplaced : WellPlaced start machine)
    (hstep : Step machine e machine') (hstate : machine.state = .complete) :
    machine'.state = .complete := by
  have hpending : machine.pending = none := by
    cases haction : machine.pending with
    | none => rfl
    | some action =>
      have hfrom := hplaced.pending action haction
      rw [hstate] at hfrom
      cases action with
      | chunk index =>
        obtain ⟨accepted, hchunk⟩ := hfrom
        cases hchunk
      | _ => cases hfrom
  cases hstep with
  | nextRequest source =>
    rcases machine.nextRequest_cases source with ⟨hsame, -⟩ | ⟨action, operation, -, -, -, -, heq⟩
    · rw [hsame]
      exact hstate
    · rw [heq]
      exact hstate
  | acceptResponse response =>
    rcases machine.acceptResponse_cases response with
      ⟨-, heq⟩ | ⟨action, state, hsome, -⟩ | ⟨action, error, hsome, -⟩
    · rw [heq]
      exact hstate
    · rw [hpending] at hsome
      cases hsome
    · rw [hpending] at hsome
      cases hsome
  | abandonPending =>
    rcases machine.abandonPending_cases with ⟨-, heq⟩ | ⟨hsome, -⟩
    · rw [heq]
      exact hstate
    · rw [hpending] at hsome
      cases hsome

/-- A complete upload stays complete. -/
theorem complete_of_run (hplaced : WellPlaced start machine) (h : Run Step machine history machine')
    (hstate : machine.state = .complete) : machine'.state = .complete := by
  have hkeeps : ∀ s e t, Step s e t →
      WellPlaced start s ∧ s.state = .complete → WellPlaced start t ∧ t.state = .complete := by
    rintro s e t hstep ⟨hs, hcomplete⟩
    exact ⟨wellPlaced_step hstep hs, complete_step hs hstep hcomplete⟩
  exact (h.invariant hkeeps ⟨hplaced, hstate⟩).2

/-- A rejected response to a pending request and an abandoned request both lead back to
inspection. -/
theorem inspect_of_setback (hstep : Step machine e machine') (hpending : machine.pending.isSome)
    (hevent : (∃ response error, e = .acceptResponse response (.error error)) ∨
      e = .abandonPending true) :
    machine'.state = .inspect ∧ machine'.pending = none := by
  cases hstep with
  | nextRequest source => rcases hevent with ⟨response, error, hevent⟩ | hevent <;> cases hevent
  | acceptResponse response =>
    rcases machine.acceptResponse_cases response with
      ⟨hnone, -⟩ | ⟨action, state, -, -, heq⟩ | ⟨action, error, -, -, heq⟩
    · rw [hnone] at hpending
      cases hpending
    · rw [heq] at hevent
      rcases hevent with ⟨response, error, hevent⟩ | hevent <;> cases hevent
    · rw [heq]
      exact ⟨rfl, rfl⟩
  | abandonPending =>
    rcases machine.abandonPending_cases with ⟨hnone, -⟩ | ⟨-, heq⟩
    · rw [hnone] at hpending
      cases hpending
    · rw [heq]
      exact ⟨rfl, rfl⟩

end CacheUploadMachine

end Alumina.Client
