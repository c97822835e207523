import Alumina.Client.HostLibrary
import Alumina.Spec.UploadDevice

/-!
# The upload contract

The contract of `CacheUploadMachine` in one statement, and a concrete device that is
truthful in the sense the contract asks for.

## Key results

- `ReferenceDevice.truthful`: the concrete device keeps the promises
- `cacheUpload_exact`: the contract over every run, alone and against a device
-/

namespace Alumina.Client

/-! ## A concrete device -/

namespace ReferenceDevice

open HostLibrary
open scoped Alumina.Graph.HostLibrary

/-- Uploads in progress and published objects. -/
structure Store where
  uploads : UploadId → Option DeviceUpload
  published : List PublishedObject

/-- The digest of the ordered chunk names. -/
def manifestOf (_ : UploadPlan) (chunks : List (List UInt8)) : ContentId :=
  contentOf (chunks.flatMap fun chunk => (contentOf chunk).digest.val)

def report (upload : DeviceUpload) : Response :=
  if upload.chunks.length < 2 ^ 32 ∧ upload.chunks.flatten.length < 2 ^ 64 then
    ⟨.ok, encodeProgress ⟨upload.plan.uploadId, .receiving, .ofNat upload.chunks.length,
      .ofNat upload.chunks.flatten.length, upload.plan.object.byteLen⟩⟩
  else ⟨.internal, []⟩

def Store.keep (store : Store) (id : UploadId) (upload : DeviceUpload) : Store :=
  { store with uploads := Function.update store.uploads id (some upload) }

def Store.begin (store : Store) (plan : UploadPlan) : Store × Response :=
  match store.uploads plan.uploadId with
  | none => (store.keep plan.uploadId ⟨plan, []⟩, report ⟨plan, []⟩)
  | some upload => (store, if upload.plan = plan then report upload else ⟨.conflict, []⟩)

def Store.putChunk (store : Store) (header : ChunkUploadHeader) (bytes : List UInt8) :
    Store × Response :=
  match store.uploads header.uploadId with
  | none => (store, ⟨.notFound, []⟩)
  | some upload =>
    if header.content ≠ contentOf bytes then (store, ⟨.conflict, []⟩)
    else if header.index.toNat = upload.chunks.length ∧ header.index < upload.plan.chunkCount then
      let grown := { upload with chunks := upload.chunks ++ [bytes] }
      (store.keep header.uploadId grown, report grown)
    else if upload.chunks[header.index.toNat]? = some bytes then (store, report upload)
    else (store, ⟨.conflict, []⟩)

def Store.finalize (store : Store) (id : UploadId) : Store × Response :=
  match store.uploads id with
  | none => (store, ⟨.notFound, []⟩)
  | some upload =>
    if upload.chunks.length = upload.plan.chunkCount.toNat ∧
        contentOf upload.chunks.flatten = upload.plan.object.content ∧
        manifestOf upload.plan upload.chunks = upload.plan.manifest then
      ({ store with published := upload.plan.publication :: store.published }, ⟨.ok, []⟩)
    else (store, ⟨.conflict, []⟩)

/-- Serve one operation. -/
def Store.serve (store : Store) (operation : UploadOperation) : Store × Response :=
  match operation.operation with
  | .storageInspect =>
    match whole decodePublished operation.body with
    | .ok object =>
      (store, if object ∈ store.published then ⟨.ok, encodePublished object⟩ else ⟨.notFound, []⟩)
    | .error _ => (store, ⟨.unsupported, []⟩)
  | .storageBeginUpload =>
    match whole decodePlan operation.body with
    | .ok plan => store.begin plan
    | .error _ => (store, ⟨.unsupported, []⟩)
  | .storagePutChunk =>
    match decodeHeader operation.body with
    | .ok (header, bytes) => store.putChunk header bytes
    | .error _ => (store, ⟨.unsupported, []⟩)
  | .storageFinalize =>
    match whole decodeFinalize operation.body with
    | .ok request => store.finalize request.uploadId
    | .error _ => (store, ⟨.unsupported, []⟩)
  | _ => (store, ⟨.unsupported, []⟩)

/-- What serving an operation can do to the store. -/
inductive Moves (store : Store) : Store → Prop
  | same : Moves store store
  | opened (id : UploadId) (upload : DeviceUpload) (absent : store.uploads id = none) :
      Moves store (store.keep id upload)
  | grown (id : UploadId) (upload : DeviceUpload) (bytes : List UInt8)
      (present : store.uploads id = some upload) :
      Moves store (store.keep id { upload with chunks := upload.chunks ++ [bytes] })
  | publishes (id : UploadId) (upload : DeviceUpload) (present : store.uploads id = some upload)
      (verified : upload.Verified manifestOf) :
      Moves store { store with published := upload.plan.publication :: store.published }

theorem serve_moves (store : Store) (operation : UploadOperation) :
    Moves store (store.serve operation).1 := by
  unfold Store.serve
  split
  · split <;> exact .same
  · split
    · next plan _ =>
      unfold Store.begin
      split
      · next habsent => exact .opened _ _ habsent
      · exact .same
    · exact .same
  · split
    · next header bytes _ =>
      unfold Store.putChunk
      split
      · exact .same
      · next upload hpresent =>
        split
        · exact .same
        · split
          · exact .grown _ upload bytes hpresent
          · split <;> exact .same
    · exact .same
  · split
    · next request _ =>
      unfold Store.finalize
      split
      · exact .same
      · next upload hpresent =>
        split
        · next hverified => exact .publishes _ upload hpresent ⟨hverified.1, hverified.2.1, hverified.2.2⟩
        · exact .same
    · exact .same
  · exact .same

/-- A report is truthful about the upload it is made for. -/
theorem reports_of_report {upload : DeviceUpload} {progress : UploadProgress}
    (h : StorageWire.decodeProgress (report upload).body = .ok progress)
    (hstatus : (report upload).status = .ok) : upload.Reports progress := by
  unfold report at h hstatus
  split at h
  · next hfits =>
    rw [show StorageWire.decodeProgress _ = .ok _ from whole_of_reads (reads_progress _),
      Except.ok.injEq] at h
    subst h
    exact ⟨rfl, UInt32.toNat_ofNat_of_lt' hfits.1, UInt64.toNat_ofNat_of_lt' hfits.2, rfl⟩
  · next hfits =>
    rw [if_neg hfits] at hstatus
    cases hstatus

/-- The reference device keeps the promises of a truthful device. -/
def truthful : TruthfulDevice where
  State := Store
  manifestOf := manifestOf
  upload := Store.uploads
  published store object := object ∈ store.published
  handles store operation response store' := store.serve operation = (store', response)
  keeps := by
    intro store operation response store' id upload hserve hupload
    have hmoves := serve_moves store operation
    rw [hserve] at hmoves
    cases hmoves with
    | same => exact Or.inl ⟨upload, hupload, rfl, List.prefix_refl _⟩
    | opened id' upload' absent =>
      have hne : id ≠ id' := by
        rintro rfl
        rw [absent] at hupload
        cases hupload
      exact Or.inl ⟨upload, by simpa [Store.keep, hne] using hupload, rfl, List.prefix_refl _⟩
    | grown id' upload' bytes present =>
      by_cases heq : id = id'
      · subst heq
        rw [hupload, Option.some.injEq] at present
        subst present
        refine Or.inl ⟨{ upload with chunks := upload.chunks ++ [bytes] }, ?_, rfl,
          List.prefix_append _ _⟩
        simp
      · exact Or.inl ⟨upload, by simpa [Store.keep, heq] using hupload, rfl, List.prefix_refl _⟩
    | publishes id' upload' present verified =>
      exact Or.inl ⟨upload, hupload, rfl, List.prefix_refl _⟩
  stays_published := by
    intro store operation response store' object hserve hobject
    have hmoves := serve_moves store operation
    rw [hserve] at hmoves
    cases hmoves with
    | publishes id' upload' present verified => exact List.mem_cons_of_mem _ hobject
    | _ => exact hobject
  publishes_verified := by
    intro store operation response store' object hserve hobject
    have hmoves := serve_moves store operation
    rw [hserve] at hmoves
    cases hmoves with
    | publishes id upload present verified =>
      rcases List.mem_cons.1 hobject with rfl | hold
      · exact Or.inr ⟨id, upload, present, rfl, verified⟩
      · exact Or.inl hold
    | _ => exact Or.inl hobject
  inspects := by
    intro store body response store' limits object hserve hstatus hdecode
    simp only [Store.serve] at hserve
    split at hserve
    · next asked _ =>
      simp only [Prod.mk.injEq] at hserve
      obtain ⟨rfl, rfl⟩ := hserve
      split at hdecode
      · next hpublished =>
        rw [show StorageWire.decodePublished _ _ = .ok _ from
          whole_of_reads (reads_published asked), Except.ok.injEq] at hdecode
        rw [← hdecode]
        exact hpublished
      · next hpublished =>
        rw [if_neg hpublished] at hstatus
        cases hstatus
    · simp only [Prod.mk.injEq] at hserve
      obtain ⟨rfl, rfl⟩ := hserve
      cases hstatus
  begins := by
    intro store plan response store' hserve hstatus
    have hread : whole decodePlan (StorageWire.encodePlan plan) = .ok plan :=
      whole_of_reads (reads_plan plan)
    simp only [Store.serve, hread, Store.begin] at hserve
    split at hserve
    · simp only [Prod.mk.injEq] at hserve
      obtain ⟨rfl, rfl⟩ := hserve
      exact ⟨⟨plan, []⟩, by simp [Store.keep], rfl, fun progress h => reports_of_report h hstatus⟩
    · next upload hupload =>
      simp only [Prod.mk.injEq] at hserve
      obtain ⟨rfl, rfl⟩ := hserve
      by_cases hplan : upload.plan = plan
      · rw [if_pos hplan] at hstatus ⊢
        exact ⟨upload, hupload, hplan, fun progress h => reports_of_report h hstatus⟩
      · rw [if_neg hplan] at hstatus
        cases hstatus
  stores := by
    intro store header bytes response store' hserve hstatus
    have hread : decodeHeader (StorageWire.encodeHeader header ++ bytes) = .ok (header, bytes) :=
      reads_header header bytes
    simp only [Store.serve, hread, Store.putChunk] at hserve
    split at hserve
    · simp only [Prod.mk.injEq] at hserve
      obtain ⟨rfl, rfl⟩ := hserve
      cases hstatus
    · next upload hupload =>
      split at hserve
      · simp only [Prod.mk.injEq] at hserve
        obtain ⟨rfl, rfl⟩ := hserve
        cases hstatus
      · split at hserve
        · next hnext =>
          simp only [Prod.mk.injEq] at hserve
          obtain ⟨rfl, rfl⟩ := hserve
          refine ⟨_, by simp [Store.keep], ?_, fun progress h => reports_of_report h hstatus⟩
          simp [hnext.1]
        · split at hserve
          · next hsame =>
            simp only [Prod.mk.injEq] at hserve
            obtain ⟨rfl, rfl⟩ := hserve
            exact ⟨upload, hupload, hsame, fun progress h => reports_of_report h hstatus⟩
          · simp only [Prod.mk.injEq] at hserve
            obtain ⟨rfl, rfl⟩ := hserve
            cases hstatus
  finalizes := by
    intro store id response store' hserve hstatus
    have hread : whole decodeFinalize (StorageWire.encodeFinalize ⟨id⟩) = .ok ⟨id⟩ :=
      whole_of_reads (reads_finalize ⟨id⟩)
    simp only [Store.serve, hread, Store.finalize] at hserve
    split at hserve
    · simp only [Prod.mk.injEq] at hserve
      obtain ⟨rfl, rfl⟩ := hserve
      cases hstatus
    · next upload hupload =>
      split at hserve
      · simp only [Prod.mk.injEq] at hserve
        obtain ⟨rfl, rfl⟩ := hserve
        exact ⟨upload, hupload, List.mem_cons_self⟩
      · simp only [Prod.mk.injEq] at hserve
        obtain ⟨rfl, rfl⟩ := hserve
        cases hstatus

end ReferenceDevice

/-! ## A three-chunk upload -/

section ThreeChunks

open HostLibrary
open scoped Alumina.Graph.HostLibrary

/-- `abcdefghij` in chunks of four bytes. -/
def threeChunks : List (List UInt8) := [[97, 98, 99, 100], [101, 102, 103, 104], [105, 106]]

def threeChunkPlan : UploadPlan where
  uploadId := ⟨7⟩
  object := ⟨.machineJobPartition, contentOf threeChunks.flatten, 10⟩
  manifest := contentOf (threeChunks.flatMap fun chunk => (contentOf chunk).digest.val)
  chunkBytes := 4
  chunkCount := 3

def threeChunkSource : UploadSource where
  uploadPlan := threeChunkPlan
  chunkHeader index :=
    (threeChunks[index.toNat]?).map fun chunk =>
      ⟨⟨7⟩, index, .ofNat chunk.length, contentOf chunk⟩
  chunkBytes index := threeChunks[index.toNat]?

def threeChunkLimits : CacheLimits := ⟨1024, 4, 256⟩

def threeChunkStart : CacheUploadMachine := ⟨threeChunkPlan, threeChunkLimits, .inspect, none⟩

theorem threeChunkStart_new :
    CacheUploadMachine.new threeChunkSource threeChunkLimits = .ok threeChunkStart := by
  have hplan : validatePlan threeChunkPlan threeChunkLimits = .ok () := by decide +kernel
  have hpublished : validatePublished threeChunkPlan.publication threeChunkLimits = .ok () := by
    decide +kernel
  have hplan' : StorageWire.validatePlan threeChunkPlan threeChunkLimits = .ok () := hplan
  have hpublished' :
      StorageWire.validatePublished threeChunkPlan.publication threeChunkLimits = .ok () :=
    hpublished
  simp only [CacheUploadMachine.new, threeChunkSource, hplan', hpublished']
  rfl

/-- Exchange requests and responses with the reference device, losing none. -/
def exchange : Nat → CacheUploadMachine × ReferenceDevice.Store →
    CacheUploadMachine × ReferenceDevice.Store
  | 0, pair => pair
  | n + 1, (machine, store) =>
    match machine.nextRequest threeChunkSource with
    | (machine, .ok (some operation)) =>
      let (store, response) := store.serve operation
      exchange n ((machine.acceptResponse response).1, store)
    | (machine, _) => exchange n (machine, store)

/-- Inspection, opening, three chunks and publication. -/
example : (exchange 6 (threeChunkStart, ⟨fun _ => none, []⟩)).1.state = .complete := by
  decide +kernel

end ThreeChunks


/-! ## The contract -/

section Contract

open Alumina.Graph (Sha256)
open CacheUploadMachine

variable [StorageWire] [Sha256]

/-- What holds of the machine, its history and its next call at every point of a run. -/
structure UploadDiscipline (start : CacheUploadMachine) (history : List Event)
    (machine : CacheUploadMachine) : Prop where
  /-- Every request emitted so far but at most one has been settled. -/
  single : machine.outstanding ≤ 1 ∧
    history.countP Event.emits = history.countP Event.settles + machine.outstanding
  /-- In a chunk state the next chunk exists and the accepted bytes are its offset. -/
  position : machine.state.WellPlaced start.plan
  /-- A request is emitted only while none is pending, for the action of the state. -/
  emitted : ∀ source operation machine',
    Step machine (.nextRequest source (.ok (some operation))) machine' →
    machine.pending = none ∧ machine'.pending.isSome ∧
      ∃ action : UploadAction, action.IssuedFrom machine.state ∧
        action.Issues start.plan source operation
  /-- A chunk request carries exactly the chunk the state names. -/
  chunk : ∀ source operation machine' nextChunk accepted,
    Step machine (.nextRequest source (.ok (some operation))) machine' →
    machine.state = .chunk nextChunk accepted →
    operation.operation = .storagePutChunk ∧
      CarriesChunk start.plan source nextChunk operation.body
  /-- Publication is requested only after an accepted report of the complete prefix, and
  only refused calls lie between. -/
  finalized : ∀ source operation machine',
    Step machine (.nextRequest source (.ok (some operation))) machine' →
    operation.operation = .storageFinalize →
    ∃ before response since, history = before ++ .acceptResponse response (.ok ()) :: since ∧
      NamesCompletePrefix start.plan response ∧ ∀ e ∈ since, e.Refused
  /-- Completion is an accepted response that shows the bound publication. -/
  completed : machine.state = .complete →
    ∃ before response since asked,
      history = before ++ .acceptResponse response (.ok ()) :: since ∧
      Run Step start before asked ∧ asked.ShowsPublication response
  completeStays : machine.state = .complete → ∀ more machine', Run Step machine more machine' →
    machine'.state = .complete
  /-- A rejected response and an abandoned request lead back to inspection. -/
  setback : ∀ e machine', Step machine e machine' → machine.pending.isSome →
    (∃ response error, e = .acceptResponse response (.error error)) ∨ e = .abandonPending true →
    machine'.state = .inspect ∧ machine'.pending = none

variable {source : UploadSource} {limits : CacheLimits} {start machine machine' : CacheUploadMachine}
  {history : List Event}

/-- The call that emitted a request, with the state it was emitted from. -/
private theorem issued_of_step {operation : UploadOperation}
    (hplaced : WellPlaced start machine)
    (hstep : Step machine (.nextRequest source (.ok (some operation))) machine') :
    machine.pending = none ∧ machine'.pending.isSome ∧
      ∃ action : UploadAction, action.IssuedFrom machine.state ∧
        action.Issues start.plan source operation := by
  generalize hevent : Event.nextRequest source (.ok (some operation)) = e at hstep
  cases hstep with
  | nextRequest source' =>
    obtain ⟨rfl, hresult⟩ := Event.nextRequest.inj hevent
    rcases machine.nextRequest_cases source with
      ⟨-, hnone⟩ | ⟨action, operation', hpending, -, hfrom, hissues, heq⟩
    · exact absurd hresult.symm (hnone operation)
    · rw [heq] at hresult ⊢
      obtain rfl : operation = operation' := by simpa using hresult
      rw [hplaced.plan] at hissues
      exact ⟨hpending, rfl, action, hfrom, hissues⟩
  | acceptResponse response => cases hevent
  | abandonPending => cases hevent

theorem uploadDiscipline_of_run (hnew : new source limits = .ok start)
    (h : Run Step start history machine) : UploadDiscipline start history machine where
  single := by
    have hcount := outstanding_of_run h
    have hstart : start.outstanding = 0 := by
      rw [outstanding, (state_new hnew).2]
      rfl
    refine ⟨?_, by omega⟩
    unfold outstanding
    cases machine.pending <;> simp
  position := by
    have hplaced := wellPlaced_of_run hnew h
    rw [← hplaced.plan]
    exact hplaced.position
  emitted := fun _ _ _ hstep => issued_of_step (wellPlaced_of_run hnew h) hstep
  chunk := by
    intro source operation machine' nextChunk accepted hstep hstate
    obtain ⟨-, -, action, hfrom, hissues⟩ := issued_of_step (wellPlaced_of_run hnew h) hstep
    rw [hstate] at hfrom
    cases action with
    | chunk index =>
      obtain ⟨accepted', hsame⟩ := hfrom
      cases hsame
      exact hissues
    | _ => cases hfrom
  finalized := by
    intro source operation machine' hstep hoperation
    obtain ⟨hpending, -, action, hfrom, hissues⟩ :=
      issued_of_step (wellPlaced_of_run hnew h) hstep
    cases action with
    | finalize => exact finalize_origin hnew h ⟨hfrom, hpending⟩
    | chunk index =>
      rw [hissues.1] at hoperation
      cases hoperation
    | inspect | begin =>
      obtain rfl := hissues
      cases hoperation
  completed := complete_origin hnew h
  completeStays := fun hstate _ _ hmore =>
    complete_of_run (wellPlaced_of_run hnew h) hmore hstate
  setback := fun _ _ hstep hpending hevent => inspect_of_setback hstep hpending hevent

/-- The upload machine keeps its discipline over every sequence of calls with any
responses, and against any truthful device a complete upload is published there. -/
theorem cacheUpload_exact (hnew : new source limits = .ok start) :
    start.plan = source.uploadPlan ∧
    (∀ history machine, Run Step start history machine →
      UploadDiscipline start history machine) ∧
    ∀ (device : TruthfulDevice) (store : device.State) (steps : List Unit)
      (delivery : Delivery device),
      Run Delivery.Step (Delivery.initial start store) steps delivery →
      delivery.machine.state = .complete →
      device.published delivery.store start.publication ∧
        (device.published store start.publication ∨
          Delivery.VerifiedDuring start store steps start.publication) := by
  have hplan : start.plan = source.uploadPlan := by
    simp only [new, Except.bind_eq_ok, Except.exists_unit, Except.pure_eq_ok] at hnew
    obtain ⟨-, -, rfl⟩ := hnew
    rfl
  refine ⟨hplan, fun history machine h => uploadDiscipline_of_run hnew h, ?_⟩
  intro device store steps delivery h hstate
  exact Delivery.published_of_complete hnew h hstate

end Contract

open scoped Alumina.Client.HostLibrary Alumina.Graph.HostLibrary in
theorem cacheUpload_exact_threeChunks :
    CacheUploadMachine.new threeChunkSource threeChunkLimits = .ok threeChunkStart ∧
      ∀ history machine, Run CacheUploadMachine.Step threeChunkStart history machine →
        UploadDiscipline threeChunkStart history machine :=
  ⟨threeChunkStart_new, (cacheUpload_exact threeChunkStart_new).2.1⟩

end Alumina.Client
