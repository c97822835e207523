import Alumina.Spec.Upload

/-!
# Uploads against a truthful device

A device is anything that keeps one ordered chunk prefix for each upload identifier,
answers truthfully about it and publishes only a complete verified prefix. Requests and
responses can be lost at any point, requests can be served more than once, and other
clients may use the device in between.

## Key results

- `coherent_of_run`: what the machine believes is backed by the device
- `published_of_complete`: a complete upload is published on the device
-/

namespace Alumina.Client

open Alumina.Graph (Sha256)

variable [StorageWire] [Sha256]

/-! ## The device -/

/-- What a device durably keeps of one upload: its declaration and an ordered prefix. -/
structure DeviceUpload where
  plan : UploadPlan
  chunks : List (List UInt8)

/-- The report a truthful device makes of an upload. -/
structure DeviceUpload.Reports (upload : DeviceUpload) (progress : UploadProgress) : Prop where
  uploadId : progress.uploadId = upload.plan.uploadId
  nextChunk : progress.nextChunk.toNat = upload.chunks.length
  acceptedBytes : progress.acceptedBytes.toNat = upload.chunks.flatten.length
  totalBytes : progress.totalBytes = upload.plan.object.byteLen

/-- A prefix is complete and verified when every chunk is there and both content
identities of the plan are those of the stored bytes. -/
structure DeviceUpload.Verified (manifestOf : UploadPlan → List (List UInt8) → ContentId)
    (upload : DeviceUpload) : Prop where
  count : upload.chunks.length = upload.plan.chunkCount.toNat
  content : contentOf upload.chunks.flatten = upload.plan.object.content
  manifest : manifestOf upload.plan upload.chunks = upload.plan.manifest

/-- A device that keeps one ordered chunk prefix for each upload identifier, reports it
truthfully and publishes only a complete verified prefix. -/
structure TruthfulDevice where
  State : Type
  manifestOf : UploadPlan → List (List UInt8) → ContentId
  upload : State → UploadId → Option DeviceUpload
  published : State → PublishedObject → Prop
  handles : State → UploadOperation → Response → State → Prop
  /-- A prefix only grows, and is dropped only once its object is published. -/
  keeps : ∀ {store operation response store' id upload₁},
    handles store operation response store' → upload store id = some upload₁ →
    (∃ upload₂, upload store' id = some upload₂ ∧ upload₂.plan = upload₁.plan ∧
      upload₁.chunks <+: upload₂.chunks) ∨ published store' upload₁.plan.publication
  stays_published : ∀ {store operation response store' object},
    handles store operation response store' → published store object → published store' object
  publishes_verified : ∀ {store operation response store' object},
    handles store operation response store' → published store' object →
    published store object ∨ ∃ id upload₁, upload store id = some upload₁ ∧
      upload₁.plan.publication = object ∧ upload₁.Verified manifestOf
  inspects : ∀ {store body response store' limits object},
    handles store ⟨.storageInspect, body⟩ response store' → response.status = .ok →
    StorageWire.decodePublished response.body limits = .ok object → published store' object
  begins : ∀ {store plan response store'},
    handles store ⟨.storageBeginUpload, StorageWire.encodePlan plan⟩ response store' →
    response.status = .ok →
    ∃ upload₁, upload store' plan.uploadId = some upload₁ ∧ upload₁.plan = plan ∧
      ∀ progress, StorageWire.decodeProgress response.body = .ok progress →
        upload₁.Reports progress
  stores : ∀ {store header bytes response store'},
    handles store ⟨.storagePutChunk, StorageWire.encodeHeader header ++ bytes⟩ response store' →
    response.status = .ok →
    ∃ upload₁, upload store' header.uploadId = some upload₁ ∧
      upload₁.chunks[header.index.toNat]? = some bytes ∧
      ∀ progress, StorageWire.decodeProgress response.body = .ok progress →
        upload₁.Reports progress
  finalizes : ∀ {store id response store'},
    handles store ⟨.storageFinalize, StorageWire.encodeFinalize ⟨id⟩⟩ response store' →
    response.status = .ok →
    ∃ upload₁, upload store id = some upload₁ ∧ published store' upload₁.plan.publication

namespace TruthfulDevice

variable (device : TruthfulDevice)

/-- The device holds the upload of `plan`, or has already published its object. -/
def Holds (store : device.State) (plan : UploadPlan) : Prop :=
  (∃ upload, device.upload store plan.uploadId = some upload ∧ upload.plan = plan) ∨
    device.published store plan.publication

variable {device}

/-- Whatever the device does next, it still holds an upload it held. -/
theorem Holds.step {store store' : device.State} {operation : UploadOperation}
    {response : Response} {plan : UploadPlan} (h : device.Holds store plan)
    (hstep : device.handles store operation response store') : device.Holds store' plan := by
  rcases h with ⟨upload, hupload, rfl⟩ | hpublished
  · rcases device.keeps hstep hupload with ⟨upload', hupload', hplan, -⟩ | hpublished
    · exact Or.inl ⟨upload', hupload', hplan⟩
    · exact Or.inr hpublished
  · exact Or.inr (device.stays_published hstep hpublished)

end TruthfulDevice

/-! ## Delivery -/

/-- A machine and a device with the request on its way and the answer on its way back. -/
structure Delivery (device : TruthfulDevice) where
  machine : CacheUploadMachine
  store : device.State
  request : Option UploadOperation
  answer : Option Response

namespace Delivery

variable {device : TruthfulDevice}

/-- Nothing has been sent. -/
def initial (machine : CacheUploadMachine) (store : device.State) : Delivery device :=
  ⟨machine, store, none, none⟩

/-- Ask the machine for its next request and put it on the wire. -/
def ask (delivery : Delivery device) (source : UploadSource) : Delivery device :=
  match delivery.machine.nextRequest source with
  | (machine, .ok (some operation)) =>
    { delivery with machine := machine, request := some operation, answer := none }
  | (machine, _) => { delivery with machine := machine }

/-- One step of the machine, the wire or the device. Losing a request or a response is
abandoning it before it was served or after. -/
inductive Step : Delivery device → Unit → Delivery device → Prop
  | ask (delivery : Delivery device) (source : UploadSource) :
      Step delivery () (delivery.ask source)
  | serve (delivery : Delivery device) (operation : UploadOperation) (response : Response)
      (store : device.State) (sent : delivery.request = some operation)
      (handled : device.handles delivery.store operation response store) :
      Step delivery () { delivery with store := store, answer := some response }
  | deliver (delivery : Delivery device) (response : Response)
      (answered : delivery.answer = some response) :
      Step delivery () ⟨(delivery.machine.acceptResponse response).1, delivery.store, none, none⟩
  | abandon (delivery : Delivery device) :
      Step delivery () ⟨delivery.machine.abandonPending.1, delivery.store, none, none⟩
  | other (delivery : Delivery device) (operation : UploadOperation) (response : Response)
      (store : device.State) (handled : device.handles delivery.store operation response store) :
      Step delivery () { delivery with store := store }

/-- What a truthful answer to `action` establishes on the device. -/
def Answers (plan : UploadPlan) (store : device.State) (response : Response) :
    UploadAction → Prop
  | .inspect => response.status = .ok → ∀ limits object,
      StorageWire.decodePublished response.body limits = .ok object →
      device.published store object
  | .begin => response.status = .ok → device.Holds store plan
  | .chunk _ => True
  | .finalize => response.status = .ok → device.published store plan.publication

/-- What the machine believes is backed by the device. -/
structure Coherent (start : CacheUploadMachine) (delivery : Delivery device) : Prop where
  placed : CacheUploadMachine.WellPlaced start delivery.machine
  /-- The pending action is the one on the wire, and its answer is truthful. -/
  wire : delivery.machine.pending = none ∧ delivery.request = none ∧ delivery.answer = none ∨
    ∃ action source operation, delivery.machine.pending = some action ∧
      delivery.request = some operation ∧ action.Issues start.plan source operation ∧
      ∀ response, delivery.answer = some response →
        Answers start.plan delivery.store response action
  held : (∃ nextChunk accepted, delivery.machine.state = .chunk nextChunk accepted) ∨
    delivery.machine.state = .finalize → device.Holds delivery.store start.plan
  published : delivery.machine.state = .complete →
    device.published delivery.store start.plan.publication

variable {start : CacheUploadMachine} {delivery delivery' : Delivery device}

/-- An answer stays truthful while the device moves on. -/
private theorem answers_step {store store' : device.State} {operation : UploadOperation}
    {response response' : Response} {plan : UploadPlan} {action : UploadAction}
    (h : Answers plan store response action)
    (hstep : device.handles store operation response' store') :
    Answers plan store' response action := by
  cases action with
  | inspect =>
    intro hstatus limits object hdecode
    exact device.stays_published hstep (h hstatus limits object hdecode)
  | begin => exact fun hstatus => (h hstatus).step hstep
  | chunk index => trivial
  | finalize => exact fun hstatus => device.stays_published hstep (h hstatus)

/-- A truthful device answers the request it served truthfully. -/
private theorem answers_of_handles {store store' : device.State} {operation : UploadOperation}
    {response : Response} {plan : UploadPlan} {source : UploadSource} {action : UploadAction}
    (hissues : action.Issues plan source operation)
    (hheld : action = .finalize → device.Holds store plan)
    (hstep : device.handles store operation response store') :
    Answers plan store' response action := by
  cases action with
  | inspect =>
    obtain rfl := hissues
    intro hstatus limits object hdecode
    exact device.inspects hstep hstatus hdecode
  | begin =>
    obtain rfl := hissues
    intro hstatus
    obtain ⟨upload, hupload, hplan, -⟩ := device.begins hstep hstatus
    exact Or.inl ⟨upload, hupload, hplan⟩
  | chunk index => trivial
  | finalize =>
    obtain rfl := hissues
    intro hstatus
    obtain ⟨upload, hupload, hpublished⟩ := device.finalizes hstep hstatus
    rcases hheld rfl with ⟨upload', hupload', hplan⟩ | halready
    · -- the identifier still names the upload of this plan
      rw [hupload, Option.some.injEq] at hupload'
      rw [← hplan, ← hupload']
      exact hpublished
    · exact device.stays_published hstep halready

/-- The device moved on by itself. -/
private theorem Coherent.other {operation : UploadOperation} {response : Response}
    {store : device.State} (h : Coherent start delivery)
    (hstep : device.handles delivery.store operation response store) :
    Coherent start { delivery with store := store } where
  placed := h.placed
  wire := by
    rcases h.wire with hidle | ⟨action, source, operation, hpending, hrequest, hissues, hanswer⟩
    · exact Or.inl hidle
    · exact Or.inr ⟨action, source, operation, hpending, hrequest, hissues,
        fun response hresponse => answers_step (hanswer response hresponse) hstep⟩
  held := fun hstate => (h.held hstate).step hstep
  published := fun hstate => device.stays_published hstep (h.published hstate)

/-- A machine back in inspection believes nothing about the device. -/
private theorem Coherent.inspecting {machine : CacheUploadMachine} {store : device.State}
    (hplaced : CacheUploadMachine.WellPlaced start machine) (hstate : machine.state = .inspect)
    (hpending : machine.pending = none) :
    Coherent start (⟨machine, store, none, none⟩ : Delivery device) where
  placed := hplaced
  wire := Or.inl ⟨hpending, rfl, rfl⟩
  held := by
    rw [hstate]
    rintro (⟨nextChunk, accepted, h⟩ | h) <;> cases h
  published := by
    rw [hstate]
    intro h
    cases h

/-- An accepted answer moves the machine only to a state the device backs. -/
private theorem Coherent.accepted {response : Response} {action : UploadAction}
    {state : UploadState} (h : Coherent start delivery)
    (hpending : delivery.machine.pending = some action)
    (hanswer : Answers start.plan delivery.store response action)
    (hjustified : action.Justifies start.plan start.limits response state) :
    Coherent start (⟨{ delivery.machine with state := state, pending := none }, delivery.store,
      none, none⟩ : Delivery device) where
  placed := by
    have hjustified' := hjustified
    rw [← h.placed.plan, ← h.placed.limits] at hjustified'
    exact h.placed.settle (CacheUploadMachine.justified_wellPlaced hjustified')
  wire := Or.inl ⟨rfl, rfl, rfl⟩
  held := by
    intro hstate
    cases action with
    | inspect =>
      rcases hjustified with ⟨rfl, -⟩ | ⟨rfl, -⟩ <;> simp at hstate
    | begin => exact hanswer hjustified.1
    | chunk index => exact h.held (Or.inl ⟨index, h.placed.pending _ hpending⟩)
    | finalize =>
      obtain ⟨rfl, -⟩ := hjustified
      simp at hstate
  published := by
    rintro rfl
    cases action with
    | inspect =>
      rcases hjustified with ⟨-, hstatus, hdecode⟩ | ⟨hstate, -⟩
      · exact hanswer hstatus _ _ hdecode
      · cases hstate
    | begin | chunk =>
      rcases hjustified.2 with ⟨⟨nextChunk, accepted, hstate⟩, -⟩ | ⟨hstate, -⟩ <;> cases hstate
    | finalize => exact hanswer hjustified.2.1

theorem coherent_step (h : Coherent start delivery) (hstep : Step delivery () delivery') :
    Coherent start delivery' := by
  cases hstep with
  | ask source =>
    unfold ask
    rcases delivery.machine.nextRequest_cases source with
      ⟨hsame, hnone⟩ | ⟨action, operation, hpending, -, hfrom, hissues, heq⟩
    · -- refused: nothing goes on the wire
      cases hresult : delivery.machine.nextRequest source with
      | mk machine result =>
        rw [hresult] at hsame hnone
        obtain rfl : machine = delivery.machine := hsame
        split
        · next heq =>
          cases heq
          exact absurd rfl (hnone _)
        · next heq =>
          cases heq
          exact h
    · rw [heq]
      have hplaced := CacheUploadMachine.wellPlaced_step
        (CacheUploadMachine.Step.nextRequest delivery.machine source) h.placed
      rw [heq] at hplaced
      rw [h.placed.plan] at hissues
      exact ⟨hplaced, Or.inr ⟨action, source, operation, rfl, rfl, hissues, by simp⟩, h.held,
        h.published⟩
  | serve operation response store sent handled =>
    have hother := h.other handled
    refine ⟨hother.placed, ?_, hother.held, hother.published⟩
    rcases h.wire with ⟨-, hnone, -⟩ | ⟨action, source, issued, hpending, hrequest, hissues, -⟩
    · rw [hnone] at sent
      cases sent
    · rw [hrequest, Option.some.injEq] at sent
      subst sent
      have hheld : action = .finalize → device.Holds delivery.store start.plan := by
        rintro rfl
        exact h.held (Or.inr (h.placed.pending _ hpending))
      refine Or.inr ⟨action, source, issued, hpending, hrequest, hissues, ?_⟩
      intro response' hresponse
      obtain rfl : response = response' := by simpa using hresponse
      exact answers_of_handles hissues hheld handled
  | deliver response answered =>
    rcases h.wire with ⟨-, -, hnone⟩ | ⟨action, source, issued, hpending, -, -, hanswer⟩
    · rw [hnone] at answered
      cases answered
    · rcases delivery.machine.acceptResponse_cases response with
        ⟨hnone, -⟩ | ⟨action', state, hsome, hjustified, heq⟩ | ⟨action', error, -, -, heq⟩
      · rw [hnone] at hpending
        cases hpending
      · rw [hpending, Option.some.injEq] at hsome
        subst hsome
        rw [h.placed.plan, h.placed.limits] at hjustified
        rw [heq]
        exact h.accepted hpending (hanswer response answered) hjustified
      · rw [heq]
        exact Coherent.inspecting (h.placed.settle trivial) rfl rfl
  | abandon =>
    rcases delivery.machine.abandonPending_cases with ⟨hnone, heq⟩ | ⟨-, heq⟩
    · rw [heq]
      exact ⟨h.placed, Or.inl ⟨hnone, rfl, rfl⟩, h.held, h.published⟩
    · rw [heq]
      exact Coherent.inspecting (h.placed.settle trivial) rfl rfl
  | other operation response store handled => exact h.other handled

variable {source : UploadSource} {limits : CacheLimits} {store : device.State} {steps : List Unit}

theorem coherent_initial (hnew : CacheUploadMachine.new source limits = .ok start) :
    Coherent start (initial start store) := by
  obtain ⟨hstate, hpending⟩ := CacheUploadMachine.state_new hnew
  exact Coherent.inspecting (CacheUploadMachine.wellPlaced_new hnew) hstate hpending

theorem coherent_of_run (hnew : CacheUploadMachine.new source limits = .ok start)
    (h : Run Step (initial start store) steps delivery) : Coherent start delivery :=
  h.invariant (fun _ _ _ hstep hs => coherent_step hs hstep) (coherent_initial hnew)

/-- Only the device itself can publish. -/
private theorem published_entered {object : PublishedObject} (hstep : Step delivery () delivery')
    (hbefore : ¬ device.published delivery.store object)
    (hafter : device.published delivery'.store object) :
    ∃ operation response, device.handles delivery.store operation response delivery'.store := by
  cases hstep with
  | ask source =>
    have hstore : (delivery.ask source).store = delivery.store := by
      unfold ask
      split <;> rfl
    rw [hstore] at hafter
    exact absurd hafter hbefore
  | serve operation response store sent handled => exact ⟨operation, response, handled⟩
  | deliver response answered => exact absurd hafter hbefore
  | abandon => exact absurd hafter hbefore
  | other operation response store handled => exact ⟨operation, response, handled⟩

/-- At some point of the run the device held a complete verified prefix of `object`. -/
def VerifiedDuring (start : CacheUploadMachine) (store : device.State) (steps : List Unit)
    (object : PublishedObject) : Prop :=
  ∃ before after middle, steps = before ++ after ∧ Run Step (initial start store) before middle ∧
    ∃ id upload, device.upload middle.store id = some upload ∧
      upload.plan.publication = object ∧ upload.Verified device.manifestOf

/-- A complete upload is published on the device, and what the run published came from a
complete verified prefix. -/
theorem published_of_complete (hnew : CacheUploadMachine.new source limits = .ok start)
    (h : Run Step (initial start store) steps delivery)
    (hstate : delivery.machine.state = .complete) :
    device.published delivery.store start.publication ∧
      (device.published store start.publication ∨
        VerifiedDuring start store steps start.publication) := by
  have hpublished := (coherent_of_run hnew h).published hstate
  refine ⟨hpublished, ?_⟩
  by_cases hstart : device.published store start.publication
  · exact Or.inl hstart
  obtain ⟨entry⟩ := h.last_entry (p := fun d => device.published d.store start.publication)
    hstart hpublished
  obtain ⟨operation, response, handled⟩ :=
    published_entered entry.entered entry.outside entry.inside
  rcases device.publishes_verified handled entry.inside with hbefore | hupload
  · exact absurd hbefore entry.outside
  · exact Or.inr ⟨entry.before, _, entry.source, entry.history, entry.run_before, hupload⟩

end Delivery

end Alumina.Client
