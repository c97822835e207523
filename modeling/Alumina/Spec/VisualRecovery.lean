import Alumina.Spec.RangeDownload

/-!
# When a visual download recovers

From any reachable state a device serves the object truthfully. Every answered range then extends
the bytes stored so far, so the download completes when these agree with the object. Nothing ever
replaces them or the pinned identity, so otherwise it does not complete with the object.

## Key results

- `recoverable_exchange`: an exchange with a truthful device keeps whether a download can recover
- `exchange_rank`: and brings one that can closer to its end
- `visual_recovers_iff`: the object is reached exactly from the states that can recover
-/

namespace Alumina.Client

open Alumina.Graph (Digest Sha256)

/-! ## Truthful devices -/

/-- The range requests of a download can be encoded. -/
class EncodesVisualReads [CapabilityWire] : Prop where
  encode {request : VisualAssetReadRequest} : request.capabilityDigest.isZero = false →
    request.assetDigest.isZero = false → 0 < request.maximumBytes.toNat →
    request.maximumBytes.toNat ≤ CapabilityWire.maxVisualAssetChunkBytes.toNat →
    request.offset.toNat + request.maximumBytes.toNat < 2 ^ 32 →
    ∃ body, CapabilityWire.encodeVisualAssetRead request = .ok body

section Devices

variable [CapabilityWire] [Sha256]

/-- An answer gives a range of an object from the requested offset on, which is empty only where the
object ends. -/
structure Serves (object : List UInt8) (request : VisualAssetReadRequest) (response : Response)
    (metadata : VisualAssetReadResponse) (chunk : List UInt8) : Prop where
  accepted : response.status = .ok
  decoded : CapabilityWire.decodeVisualAssetRead response.body = .ok (metadata, chunk)
  capability : metadata.capabilityDigest = request.capabilityDigest
  asset : metadata.asset = ⟨.ofNat object.length, Sha256.sha256 object⟩
  offset : metadata.offset = request.offset
  chunkLen : metadata.chunkLen.toNat = chunk.length
  bounded : chunk.length ≤ request.maximumBytes.toNat
  range : chunk <+: object.drop request.offset.toNat
  complete : metadata.complete = true ↔ request.offset.toNat + chunk.length = object.length
  progress : request.offset.toNat < object.length → chunk ≠ []

/-- A device answers every request for an object truthfully; a range behind the end of the object
may be refused. -/
def Truthful (capability : Digest) (object : List UInt8) (device : List UInt8 → Response) : Prop :=
  ∀ (request : VisualAssetReadRequest) (body : List UInt8), request.capabilityDigest = capability →
    request.assetDigest = Sha256.sha256 object → 0 < request.maximumBytes.toNat →
    CapabilityWire.encodeVisualAssetRead request = .ok body →
    (∃ metadata chunk, Serves object request (device body) metadata chunk) ∨
      object.length < request.offset.toNat ∧ (device body).status ≠ .ok

end Devices

/-! ## Stored ranges -/

/-- Storing a range that fits the object, with memory for the object. -/
theorem RangeBuffer.store_fitting {I ε : Type} {byteLen : I → UInt32}
    {buffer pinned : RangeBuffer I} {identity : I} {chunk : List UInt8} {complete : Bool}
    {allocation range : ε} {verify : List UInt8 → Except ε Unit}
    (hpinned : buffer.pin byteLen identity = pinned)
    (hlength : pinned.bytes.length = (byteLen identity).toNat)
    (hroom : pinned.receivedBytes.toNat + chunk.length ≤ (byteLen identity).toNat)
    (hcomplete : complete = true ↔
      pinned.receivedBytes.toNat + chunk.length = (byteLen identity).toNat) :
    (buffer.store byteLen allocation range verify identity chunk complete true).1 =
      if complete then
        match verify (pinned.write chunk).bytes with
        | .error _ => pinned.write chunk
        | .ok () => { pinned.write chunk with
            receivedBytes := .ofNat (pinned.receivedBytes.toNat + chunk.length)
            complete := true }
      else { pinned.write chunk with
        receivedBytes := .ofNat (pinned.receivedBytes.toNat + chunk.length) } := by
  have hsize : pinned.receivedBytes.toNat + chunk.length < 2 ^ 32 :=
    hroom.trans_lt (UInt32.toNat_lt _)
  have hvalue : (UInt32.ofNat (pinned.receivedBytes.toNat + chunk.length)).toNat =
      pinned.receivedBytes.toNat + chunk.length := UInt32.toNat_ofNat_of_lt' hsize
  unfold store
  rw [if_neg (by simp), hpinned]
  dsimp only
  rw [if_neg (by omega), if_neg (by omega)]
  cases complete with
  | true =>
    have hall : UInt32.ofNat (pinned.receivedBytes.toNat + chunk.length) = byteLen identity :=
      UInt32.toNat_inj.1 (hvalue.trans (hcomplete.1 rfl))
    rw [if_pos rfl, if_pos rfl, if_neg (not_not.2 hall)]
    cases verify (pinned.write chunk).bytes with
    | error error => rfl
    | ok _ => rfl
  | false =>
    have hmore : ¬ byteLen identity ≤
        UInt32.ofNat (pinned.receivedBytes.toNat + chunk.length) := by
      rw [UInt32.le_iff_toNat_le, hvalue]
      have hne : pinned.receivedBytes.toNat + chunk.length ≠ (byteLen identity).toNat :=
        fun heq => Bool.false_ne_true (hcomplete.2 heq)
      omega
    rw [if_neg Bool.false_ne_true, if_neg Bool.false_ne_true, if_neg hmore]

namespace VisualAssetDownloadMachine

variable [CapabilityWire] {machine machine' : VisualAssetDownloadMachine}
  {request : VisualAssetReadRequest} {response : Response} {chunks : List AcceptedChunk}
  {object chunk : List UInt8} {metadata : VisualAssetReadResponse}

/-! ## Requests -/

/-- The request that follows the received bytes. -/
def follow (machine : VisualAssetDownloadMachine) : VisualAssetReadRequest where
  capabilityDigest := machine.capabilityDigest
  assetDigest := machine.expectedAssetDigest
  offset := machine.receivedBytes
  maximumBytes := .ofNat (min (machine.remaining VisualAssetIdentity.byteLen
    CapabilityWire.maxVisualAssetChunkBytes) CapabilityWire.maxVisualAssetChunkBytes).toNat

/-- What remains to be requested. -/
abbrev rest (machine : VisualAssetDownloadMachine) : UInt32 :=
  machine.remaining VisualAssetIdentity.byteLen CapabilityWire.maxVisualAssetChunkBytes

/-- What every reachable machine keeps besides its bytes. -/
structure Wellformed (machine : VisualAssetDownloadMachine) : Prop where
  capability : machine.capabilityDigest.isZero = false
  expected : machine.expectedAssetDigest.isZero = false
  pending : ∀ request, machine.pending = some request →
    request = machine.follow ∧ machine.rest ≠ 0

/-- Everything `nextRequest` can do. -/
theorem nextRequest_cases (machine : VisualAssetDownloadMachine) :
    (machine.nextRequest.1 = machine ∧
      (machine.pending ≠ none ∨ machine.complete = true ∨ machine.rest = 0)) ∨
    machine.pending = none ∧ machine.complete = false ∧ machine.rest ≠ 0 ∧
      machine.nextRequest.1 = { machine with pending := some machine.follow } := by
  unfold nextRequest
  dsimp only
  split
  · next hpending =>
    exact .inl ⟨rfl, .inl (Option.isSome_iff_ne_none.1 hpending)⟩
  next hidle =>
  rw [Bool.not_eq_true, Option.isSome_eq_false_iff, Option.isNone_iff_eq_none] at hidle
  split
  · next hcomplete => exact .inl ⟨rfl, .inr (.inl hcomplete)⟩
  next hincomplete =>
  rw [Bool.not_eq_true] at hincomplete
  split
  · next hnothing => exact .inl ⟨rfl, .inr (.inr hnothing)⟩
  next hsome =>
  refine .inr ⟨hidle, hincomplete, hsome, ?_⟩
  split <;> rfl

theorem Wellformed.nextRequest (h : machine.Wellformed) : machine.nextRequest.1.Wellformed := by
  rcases nextRequest_cases machine with ⟨hsame, -⟩ | ⟨-, -, hrest, hnext⟩
  · rwa [hsame]
  · rw [hnext]
    refine ⟨h.capability, h.expected, ?_⟩
    intro request hpending
    cases hpending
    exact ⟨rfl, hrest⟩

variable [Sha256]

/-- An accepted or rejected response leaves nothing pending and the authority as it was. -/
theorem acceptResponse_authority (machine : VisualAssetDownloadMachine) (response : Response)
    (reserved : Bool) :
    (machine.acceptResponse response reserved).1.capabilityDigest = machine.capabilityDigest ∧
      (machine.acceptResponse response reserved).1.expectedAssetDigest =
        machine.expectedAssetDigest ∧
      (machine.acceptResponse response reserved).1.maximumAssetBytes =
        machine.maximumAssetBytes ∧
      (machine.acceptResponse response reserved).1.pending = none := by
  unfold acceptResponse
  split
  · next hpending => exact ⟨rfl, rfl, rfl, hpending⟩
  · dsimp only
    split
    · exact ⟨rfl, rfl, rfl, rfl⟩
    · exact ⟨rfl, rfl, rfl, rfl⟩

theorem Wellformed.acceptResponse (h : machine.Wellformed) (response : Response)
    (reserved : Bool) : (machine.acceptResponse response reserved).1.Wellformed := by
  obtain ⟨hcapability, hexpected, -, hpending⟩ :=
    acceptResponse_authority machine response reserved
  refine ⟨hcapability ▸ h.capability, hexpected ▸ h.expected, ?_⟩
  intro request hsome
  rw [hpending] at hsome
  cases hsome

/-- A call on a download keeps what a machine keeps. -/
theorem Wellformed.perform {w w' : Download VisualAssetDownloadMachine} {call : RangeCall}
    {outcome : RangeOutcome VisualAssetDownloadMachine} (h : w.machine.Wellformed)
    (hcall : w.perform call = (w', outcome)) : w'.machine.Wellformed := by
  cases call with
  | nextRequest =>
    cases hcall
    exact h.nextRequest
  | acceptResponse response reserved =>
    cases hcall
    exact h.acceptResponse response reserved
  | abandonPending =>
    cases hcall
    exact ⟨h.capability, h.expected, nofun⟩

/-! ## Truthful answers -/

/-- The identity of an object. -/
def identityOf (object : List UInt8) : VisualAssetIdentity :=
  ⟨.ofNat object.length, Sha256.sha256 object⟩

/-- The download is of an object that it admits. -/
structure Expects (machine : VisualAssetDownloadMachine) (object : List UInt8) : Prop where
  digest : Sha256.sha256 object = machine.expectedAssetDigest
  bound : object.length ≤ machine.maximumAssetBytes.toNat

omit [CapabilityWire] in
theorem Expects.byteLen (h : machine.Expects object) :
    (identityOf object).byteLen.toNat = object.length :=
  UInt32.toNat_ofNat_of_lt' (h.bound.trans_lt (UInt32.toNat_lt _))

/-- A truthful answer is admitted unless another identity is pinned. -/
theorem admitRange_served (h : machine.Expects object)
    (hserves : Serves object machine.follow response metadata chunk) :
    (machine.identity = none ∨ machine.identity = some (identityOf object) →
      machine.admitRange machine.follow response = .ok (metadata, chunk)) ∧
    (machine.identity ≠ none → machine.identity ≠ some (identityOf object) →
      ∃ error, machine.admitRange machine.follow response = .error error) := by
  have hasset : metadata.asset = identityOf object := hserves.asset
  have hdigest : metadata.asset.digest = machine.expectedAssetDigest := by
    rw [hasset]
    exact h.digest
  have hoffset : metadata.offset = machine.receivedBytes := hserves.offset
  have hcapability : metadata.capabilityDigest = machine.capabilityDigest := hserves.capability
  have hchunk : ¬ machine.follow.maximumBytes < metadata.chunkLen := by
    rw [UInt16.lt_iff_toNat_lt, hserves.chunkLen]
    exact Nat.not_lt.2 hserves.bounded
  have hlimit : ¬ machine.maximumAssetBytes < metadata.asset.byteLen := by
    rw [UInt32.lt_iff_toNat_lt, hasset, h.byteLen]
    exact Nat.not_lt.2 h.bound
  have hfollow : metadata.offset = machine.follow.offset := hserves.offset
  have hmatches : ¬ (metadata.capabilityDigest ≠ machine.capabilityDigest ∨
      metadata.asset.digest ≠ machine.expectedAssetDigest ∨
      metadata.offset ≠ machine.follow.offset ∨ metadata.offset ≠ machine.receivedBytes ∨
      machine.follow.maximumBytes < metadata.chunkLen) := by
    rintro (hwrong | hwrong | hwrong | hwrong | hwrong)
    · exact hwrong hcapability
    · exact hwrong hdigest
    · exact hwrong hfollow
    · exact hwrong hoffset
    · exact hchunk hwrong
  have hranged : machine.admitRange machine.follow response =
      Except.failIf (machine.identity.isSome ∧ machine.identity ≠ some metadata.asset)
        VisualAssetDownloadError.identity >>= fun _ => pure (metadata, chunk) := by
    unfold admitRange
    rw [Except.bind_of_ok (Except.failIf_of_not fun hrefused => hrefused.1 hserves.accepted),
      Except.bind_of_ok (Except.failIf_of_not (not_not.2 hserves.accepted)),
      Except.bind_of_ok (a := (metadata, chunk)) (by rw [hserves.decoded]; rfl)]
    dsimp only
    rw [Except.bind_of_ok (Except.failIf_of_not hmatches),
      Except.bind_of_ok (Except.failIf_of_not hlimit)]
  constructor
  · intro hidentity
    have hpinned : ¬ (machine.identity.isSome ∧ machine.identity ≠ some metadata.asset) := by
      rw [hasset]
      rintro ⟨hsome, hother⟩
      rcases hidentity with hnone | hsame
      · rw [hnone] at hsome
        cases hsome
      · exact hother hsame
    rw [hranged, Except.bind_of_ok (Except.failIf_of_not hpinned)]
    rfl
  · intro hnone hother
    have hpinned : machine.identity.isSome ∧ machine.identity ≠ some metadata.asset := by
      rw [hasset]
      exact ⟨Option.isSome_iff_ne_none.2 hnone, hother⟩
    refine ⟨.identity, ?_⟩
    rw [hranged, Except.bind_eq_error]
    exact .inl (Except.failIf_eq_error.2 ⟨hpinned, rfl⟩)

/-- The bytes stored so far. -/
def stored (machine : VisualAssetDownloadMachine) : List UInt8 :=
  machine.bytes.take machine.receivedBytes.toNat

/-- What an admitted truthful answer does to a download. -/
inductive Advances (object chunk : List UInt8) (machine after : VisualAssetDownloadMachine) : Prop
  | extended (more : machine.receivedBytes.toNat + chunk.length < object.length)
      (incomplete : after.complete = false) (identity : after.identity = some (identityOf object))
      (received : after.receivedBytes.toNat = machine.receivedBytes.toNat + chunk.length)
      (stored : after.stored = machine.stored ++ chunk)
  | completed (all : machine.receivedBytes.toNat + chunk.length = object.length)
      (digest : Sha256.sha256 (machine.stored ++ chunk) = machine.expectedAssetDigest)
      (complete : after.complete = true) (bytes : after.bytes = machine.stored ++ chunk)
  | rejected (all : machine.receivedBytes.toNat + chunk.length = object.length)
      (digest : Sha256.sha256 (machine.stored ++ chunk) ≠ machine.expectedAssetDigest)
      (incomplete : after.complete = false) (identity : after.identity = some (identityOf object))
      (stored : after.stored = machine.stored)

theorem acceptResponse_served (hcoherent : Coherent machine chunks) (h : machine.Expects object)
    (hpending : machine.pending = some machine.follow)
    (hidentity : machine.identity = none ∨ machine.identity = some (identityOf object))
    (hserves : Serves object machine.follow response metadata chunk) :
    Advances object chunk machine (machine.acceptResponse response true).1 := by
  have hasset : metadata.asset = identityOf object := hserves.asset
  have hranged : ({ machine with pending := none } : VisualAssetDownloadMachine).admitRange
      machine.follow response = .ok (metadata, chunk) := (admitRange_served h hserves).1 hidentity
  have hholds : machine.Holds VisualAssetIdentity.byteLen (RangeMachine.Verified machine) chunks :=
    hcoherent.holds
  have hopen : machine.complete = false := by
    apply hcoherent.open_
    show machine.pending.map _ ≠ none
    rw [hpending]
    exact Option.some_ne_none _
  have hsame : ∀ pinned, machine.identity = some pinned → pinned = identityOf object := by
    intro pinned hpinned
    rcases hidentity with hnone | hsome
    · rw [hnone] at hpinned
      cases hpinned
    · exact Option.some.inj (hpinned.symm.trans hsome)
  obtain ⟨hpin, hnow, hreceived, hstill⟩ := hholds.pin hsame
  generalize hpinned : machine.toRangeBuffer.pin VisualAssetIdentity.byteLen (identityOf object) =
    pinned at hpin hnow hreceived hstill
  have hlength := hpin.pinned _ hnow
  have hle := hpin.le_pinned _ hnow
  -- what was stored is what the pinned buffer holds
  have hstored : pinned.bytes.take pinned.receivedBytes.toNat = machine.stored := by
    rw [hpin.received, ← hholds.received]
    rfl
  have hsize : chunk.length ≤ object.length - machine.receivedBytes.toNat := by
    have := hserves.range.length_le
    rwa [List.length_drop] at this
  have hroom : pinned.receivedBytes.toNat + chunk.length ≤ (identityOf object).byteLen.toNat := by
    rw [h.byteLen] at hle ⊢
    rw [hreceived] at hle ⊢
    omega
  have hcomplete : metadata.complete = true ↔
      pinned.receivedBytes.toNat + chunk.length = (identityOf object).byteLen.toNat := by
    rw [h.byteLen, hreceived]
    exact hserves.complete
  obtain ⟨-, hbefore, hupTo⟩ := RangeBuffer.write_bytes
    (show pinned.receivedBytes.toNat + chunk.length ≤ pinned.bytes.length by omega)
  have hbuffer : (machine.acceptResponse response true).1.toRangeBuffer =
      (machine.toRangeBuffer.store VisualAssetIdentity.byteLen VisualAssetDownloadError.allocation
        VisualAssetDownloadError.range (verify { machine with pending := none })
        (identityOf object) chunk metadata.complete true).1 := by
    unfold acceptResponse
    rw [hpending]
    dsimp only
    rw [hranged]
    dsimp only
    rw [hasset]
  rw [RangeBuffer.store_fitting hpinned hlength hroom hcomplete] at hbuffer
  generalize (machine.acceptResponse response true).1 = after at hbuffer
  have hvalue : (UInt32.ofNat (pinned.receivedBytes.toNat + chunk.length)).toNat =
      pinned.receivedBytes.toNat + chunk.length :=
    UInt32.toNat_ofNat_of_lt' (hroom.trans_lt (UInt32.toNat_lt _))
  cases hlast : metadata.complete with
  | true =>
    have hall : machine.receivedBytes.toNat + chunk.length = object.length := by
      rw [← h.byteLen, ← hreceived]
      exact hcomplete.1 hlast
    have hbytes : (pinned.write chunk).bytes = machine.stored ++ chunk := by
      have hfull := (RangeBuffer.write_bytes
        (show pinned.receivedBytes.toNat + chunk.length ≤ pinned.bytes.length by omega)).1
      rw [← hstored, ← hupTo, hcomplete.1 hlast, ← hlength, ← hfull, List.take_length]
    rw [hlast, if_pos rfl] at hbuffer
    by_cases hdigest : Sha256.sha256 (machine.stored ++ chunk) = machine.expectedAssetDigest
    · have hverify : verify { machine with pending := none } (pinned.write chunk).bytes =
          .ok () := by
        rw [hbytes]
        exact Except.failIf_of_not (not_not.2 hdigest)
      rw [hverify] at hbuffer
      refine .completed hall hdigest ?_ ?_
      · rw [hbuffer]
      · rw [hbuffer, hbytes]
    · have hverify : verify { machine with pending := none } (pinned.write chunk).bytes =
          .error .digest := by
        rw [hbytes]
        exact Except.failIf_eq_error.2 ⟨hdigest, rfl⟩
      rw [hverify] at hbuffer
      refine .rejected hall hdigest ?_ ?_ ?_
      · rw [hbuffer]
        exact hstill.trans hopen
      · rw [hbuffer]
        exact hnow
      · rw [stored, hbuffer]
        exact hbefore.trans hstored
  | false =>
    rw [hlast, if_neg Bool.false_ne_true] at hbuffer
    have hmore : machine.receivedBytes.toNat + chunk.length ≠ object.length := by
      intro hall
      rw [← h.byteLen, ← hreceived] at hall
      rw [hcomplete.2 hall] at hlast
      cases hlast
    rw [h.byteLen, hreceived] at hroom
    refine .extended (by omega) ?_ ?_ ?_ ?_
    · rw [hbuffer]
      exact hstill.trans hopen
    · rw [hbuffer]
      exact hnow
    · rw [hbuffer, ← hreceived]
      exact hvalue
    · rw [stored, hbuffer]
      show (pinned.write chunk).bytes.take (UInt32.ofNat _).toNat = _
      rw [hvalue, hupTo, hstored]

/-! ## Exchanges -/

/-- Ask for the next range, or take the answer to the one that is asked for. A request that could
not be encoded was not sent, and nothing answers it. -/
def exchange (device : List UInt8 → Response) (machine : VisualAssetDownloadMachine) :
    VisualAssetDownloadMachine :=
  match machine.pending with
  | none => machine.nextRequest.1
  | some request =>
    match CapabilityWire.encodeVisualAssetRead request with
    | .ok body => (machine.acceptResponse (device body) true).1
    | .error _ => machine

/-- Some exchanges with a device whose answers may change with time. -/
def serve (device : Nat → List UInt8 → Response) :
    Nat → VisualAssetDownloadMachine → VisualAssetDownloadMachine
  | 0, machine => machine
  | n + 1, machine => serve (fun k => device (k + 1)) n (exchange (device 0) machine)

/-- The facts that hold of every reachable machine. -/
structure Sound (machine : VisualAssetDownloadMachine) : Prop where
  coherent : ∃ chunks, Coherent machine chunks
  wellformed : machine.Wellformed

/-- The states from which an object can still be reached: the object itself when the download is
complete, otherwise nothing pinned, or its identity pinned and a part of it stored. An object of no
bytes cannot be asked for once it is pinned. -/
def Recoverable (object : List UInt8) (machine : VisualAssetDownloadMachine) : Prop :=
  (machine.complete = true → machine.bytes = object) ∧
    (machine.complete = false → machine.identity = none ∨
      machine.identity = some (identityOf object) ∧ object ≠ [] ∧ machine.stored <+: object)

instance (object : List UInt8) (machine : VisualAssetDownloadMachine) :
    Decidable (Recoverable object machine) :=
  inferInstanceAs (Decidable (_ ∧ _))

section Exchange

variable {device : List UInt8 → Response}

theorem Sound.exchange [LawfulCapabilityWire] (h : machine.Sound) :
    (machine.exchange device).Sound := by
  obtain ⟨⟨chunks, hcoherent⟩, hwellformed⟩ := h
  unfold VisualAssetDownloadMachine.exchange
  split
  · have hcall : Download.perform ⟨machine, chunks⟩ .nextRequest = (_, _) := rfl
    exact ⟨⟨_, (Download.perform_coherent hcoherent hcall).1⟩, hwellformed.nextRequest⟩
  · split
    · next body _ =>
      have hcall : Download.perform ⟨machine, chunks⟩ (.acceptResponse (device body) true) =
        (_, _) := rfl
      exact ⟨⟨_, (Download.perform_coherent hcoherent hcall).1⟩,
        hwellformed.acceptResponse _ _⟩
    · exact ⟨⟨chunks, hcoherent⟩, hwellformed⟩

/-- What a pending request of a reachable download is. -/
theorem Sound.of_pending [LawfulCapabilityWire] [EncodesVisualReads] (h : machine.Sound)
    (hpending : machine.pending = some request) :
    request = machine.follow ∧ machine.rest ≠ 0 ∧ machine.complete = false ∧
      0 < request.maximumBytes.toNat ∧
        ∃ body, CapabilityWire.encodeVisualAssetRead request = .ok body := by
  obtain ⟨⟨chunks, hcoherent⟩, hwellformed⟩ := h
  obtain ⟨rfl, hrest⟩ := hwellformed.pending request hpending
  have hopen : machine.complete = false := by
    apply hcoherent.open_
    show machine.pending.map _ ≠ none
    rw [hpending]
    exact Option.some_ne_none _
  obtain ⟨hpos, hfits⟩ := LawfulCapabilityWire.visualAssetChunk
  have hholds : machine.Holds VisualAssetIdentity.byteLen (RangeMachine.Verified machine) chunks :=
    hcoherent.holds
  have hasks := hholds.asks_next hfits
  have hmaximum : machine.follow.maximumBytes.toNat =
      min machine.rest.toNat CapabilityWire.maxVisualAssetChunkBytes.toNat := hasks.exact
  have hrestPos : 0 < machine.rest.toNat :=
    Nat.pos_of_ne_zero fun hzero => hrest (UInt32.toNat_inj.1 hzero)
  have hchunkPos : 0 < CapabilityWire.maxVisualAssetChunkBytes.toNat := hpos
  refine ⟨rfl, hrest, hopen, by omega, ?_⟩
  exact EncodesVisualReads.encode hwellformed.capability hwellformed.expected (by omega) (by omega)
    hasks.fits

theorem Sound.stored_length (h : machine.Sound) :
    machine.stored.length = machine.receivedBytes.toNat := by
  obtain ⟨⟨chunks, hcoherent⟩, -⟩ := h
  have hholds : machine.Holds VisualAssetIdentity.byteLen (RangeMachine.Verified machine) chunks :=
    hcoherent.holds
  rw [stored, hholds.received, hholds.count]

/-- Nothing is stored while nothing is pinned. -/
theorem Sound.stored_of_unpinned (h : machine.Sound) (hnone : machine.identity = none) :
    machine.stored = [] := by
  obtain ⟨⟨chunks, hcoherent⟩, -⟩ := h
  have hholds : machine.Holds VisualAssetIdentity.byteLen (RangeMachine.Verified machine) chunks :=
    hcoherent.holds
  rw [stored, (hholds.unpinned hnone).1]
  rfl

omit [CapabilityWire] [Sha256] in
/-- A range of an object extends exactly the stored bytes that agree with it. -/
theorem stored_append_prefix_iff (hlength : machine.stored.length = machine.receivedBytes.toNat)
    (hrange : chunk <+: object.drop machine.receivedBytes.toNat) :
    machine.stored ++ chunk <+: object ↔ machine.stored <+: object := by
  constructor
  · exact fun h => (List.prefix_append _ _).trans h
  · rintro ⟨later, rfl⟩
    rw [← hlength, List.drop_left] at hrange
    exact (List.prefix_append_right_inj _).2 hrange

/-- An admitted truthful answer keeps whether the object can be reached. -/
theorem Advances.recoverable_iff {after : VisualAssetDownloadMachine} (h : machine.Sound)
    (hexpects : machine.Expects object) (hopen : machine.complete = false)
    (hrest : machine.rest ≠ 0)
    (hidentity : machine.identity = none ∨ machine.identity = some (identityOf object))
    (hrange : chunk <+: object.drop machine.receivedBytes.toNat)
    (hadvances : Advances object chunk machine after) :
    Recoverable object after ↔ Recoverable object machine := by
  have hlength := h.stored_length
  have hprefix := stored_append_prefix_iff hlength hrange
  -- before the answer, the object can be reached when the stored bytes agree with it
  have hbefore : Recoverable object machine ↔ machine.stored <+: object := by
    constructor
    · intro hrecoverable
      rcases hrecoverable.2 hopen with hnone | ⟨-, -, hstored⟩
      · rw [h.stored_of_unpinned hnone]
        exact List.nil_prefix
      · exact hstored
    · intro hstored
      refine ⟨fun hcomplete => absurd (hcomplete.symm.trans hopen) Bool.noConfusion, fun _ => ?_⟩
      rcases hidentity with hnone | hsome
      · exact .inl hnone
      · refine .inr ⟨hsome, ?_, hstored⟩
        rintro rfl
        apply hrest
        unfold rest RangeBuffer.remaining
        rw [hsome]
        exact if_pos (UInt32.le_iff_toNat_le.2 (Nat.zero_le _))
  have hfull : machine.receivedBytes.toNat + chunk.length = object.length →
      (machine.stored <+: object ↔ machine.stored ++ chunk = object) := by
    intro hall
    rw [← hprefix]
    constructor
    · intro hstored
      exact hstored.eq_of_length (by rw [List.length_append, hlength, hall])
    · intro hstored
      rw [hstored]
  rw [hbefore]
  cases hadvances with
  | extended hmore hincomplete hnow hreceived hstored =>
    have hnonempty : object ≠ [] := by
      rintro rfl
      simp at hmore
    rw [← hprefix, ← hstored]
    constructor
    · intro hrecoverable
      rcases hrecoverable.2 hincomplete with hnone | ⟨-, -, hagrees⟩
      · rw [hnow] at hnone
        cases hnone
      · exact hagrees
    · intro hagrees
      exact ⟨fun hcomplete => absurd (hcomplete.symm.trans hincomplete) Bool.noConfusion,
        fun _ => .inr ⟨hnow, hnonempty, hagrees⟩⟩
  | completed hall hdigest hcomplete hbytes =>
    rw [hfull hall, ← hbytes]
    constructor
    · exact fun hrecoverable => hrecoverable.1 hcomplete
    · intro hobject
      exact ⟨fun _ => hobject,
        fun hincomplete => absurd (hcomplete.symm.trans hincomplete) Bool.noConfusion⟩
  | rejected hall hdigest hincomplete hnow hstored =>
    rw [hfull hall]
    constructor
    · intro hrecoverable
      rcases hrecoverable.2 hincomplete with hnone | ⟨-, -, hagrees⟩
      · rw [hnow] at hnone
        cases hnone
      · rw [hstored] at hagrees
        exact (hfull hall).1 hagrees
    · intro hobject
      rw [hobject] at hdigest
      exact absurd hexpects.digest hdigest

/-- A response that is not admitted changes nothing but the pending request. -/
theorem acceptResponse_of_refused {error : VisualAssetDownloadError}
    (hpending : machine.pending = some request)
    (h : machine.admitRange request response = .error error) :
    (machine.acceptResponse response true).1 = { machine with pending := none } := by
  have hrefused : ({ machine with pending := none } : VisualAssetDownloadMachine).admitRange
      request response = .error error := h
  unfold acceptResponse
  rw [hpending]
  dsimp only
  rw [hrefused]

/-- The answer of a truthful device to a pending request is admitted, or the object is out of
reach and nothing is stored. -/
theorem exchange_of_pending [LawfulCapabilityWire] [EncodesVisualReads] (h : machine.Sound)
    (hexpects : machine.Expects object)
    (htruthful : Truthful machine.capabilityDigest object device)
    (hpending : machine.pending = some request) :
    (∃ chunk, (machine.identity = none ∨ machine.identity = some (identityOf object)) ∧
      chunk <+: object.drop machine.receivedBytes.toNat ∧
      (machine.receivedBytes.toNat < object.length → chunk ≠ []) ∧
      Advances object chunk machine (machine.exchange device)) ∨
    machine.exchange device = { machine with pending := none } ∧ machine.complete = false ∧
      machine.identity ≠ none ∧ machine.identity ≠ some (identityOf object) := by
  obtain ⟨rfl, -, hopen, hmaximum, body, hencoded⟩ := h.of_pending hpending
  obtain ⟨⟨chunks, hcoherent⟩, -⟩ := h
  have hholds : machine.Holds VisualAssetIdentity.byteLen (RangeMachine.Verified machine) chunks :=
    hcoherent.holds
  have hexchange : machine.exchange device =
      (machine.acceptResponse (device body) true).1 := by
    unfold exchange
    rw [hpending]
    dsimp only
    rw [hencoded]
  rw [hexchange]
  by_cases hidentity : machine.identity = none ∨ machine.identity = some (identityOf object)
  · left
    rcases htruthful _ _ rfl hexpects.digest.symm hmaximum hencoded with
      ⟨metadata, chunk, hserves⟩ | ⟨hbehind, -⟩
    · exact ⟨chunk, hidentity, hserves.range, hserves.progress,
        acceptResponse_served hcoherent hexpects hpending hidentity hserves⟩
    · -- no more than the object was received
      exfalso
      have hreceived : object.length < machine.receivedBytes.toNat := hbehind
      rcases hidentity with hnone | hsome
      · rw [(hholds.unpinned hnone).1] at hreceived
        exact absurd hreceived (Nat.not_lt_zero _)
      · have hle := hholds.le_pinned _ hsome
        rw [hexpects.byteLen] at hle
        omega
  · right
    obtain ⟨hnone, hother⟩ := not_or.1 hidentity
    refine ⟨?_, hopen, hnone, hother⟩
    rcases htruthful _ _ rfl hexpects.digest.symm hmaximum hencoded with
      ⟨metadata, chunk, hserves⟩ | ⟨-, hrefused⟩
    · obtain ⟨error, herror⟩ := (admitRange_served hexpects hserves).2 hnone hother
      exact acceptResponse_of_refused hpending herror
    · have herror : ∃ error, machine.admitRange machine.follow (device body) = .error error := by
        unfold admitRange
        by_cases hempty : (device body).body.isEmpty
        · exact ⟨_, Except.bind_eq_error.2
            (.inl (Except.failIf_eq_error.2 ⟨⟨hrefused, hempty⟩, rfl⟩))⟩
        · rw [Except.bind_of_ok (Except.failIf_of_not fun hboth => hempty hboth.2)]
          exact ⟨_, Except.bind_eq_error.2 (.inl (Except.failIf_eq_error.2 ⟨hrefused, rfl⟩))⟩
      obtain ⟨error, herror⟩ := herror
      exact acceptResponse_of_refused hpending herror

/-- An exchange with a truthful device keeps whether the object can be reached. -/
theorem recoverable_exchange [LawfulCapabilityWire] [EncodesVisualReads] (h : machine.Sound)
    (hexpects : machine.Expects object)
    (htruthful : Truthful machine.capabilityDigest object device) :
    Recoverable object (machine.exchange device) ↔ Recoverable object machine := by
  cases hpending : machine.pending with
  | none =>
    have hexchange : machine.exchange device = machine.nextRequest.1 := by
      unfold exchange
      rw [hpending]
    rw [hexchange]
    rcases nextRequest_cases machine with ⟨hsame, -⟩ | ⟨-, -, -, hnext⟩
    · rw [hsame]
    · rw [hnext]
      rfl
  | some request =>
    rcases exchange_of_pending h hexpects htruthful hpending with
      ⟨chunk, hidentity, hrange, -, hadvances⟩ | ⟨hkept, -⟩
    · obtain ⟨rfl, hrest, hopen, -⟩ := h.of_pending hpending
      exact hadvances.recoverable_iff h hexpects hopen hrest hidentity hrange
    · rw [hkept]
      rfl

/-- How far a download is from its end: two exchanges for every byte left, one of which has been
made when a request is pending. -/
def rank (object : List UInt8) (machine : VisualAssetDownloadMachine) : Nat :=
  2 * (object.length - machine.receivedBytes.toNat) + (if machine.pending.isNone then 1 else 0)

/-- An exchange with a truthful device completes a download that can reach the object or brings it
closer to its end. -/
theorem exchange_rank [LawfulCapabilityWire] [EncodesVisualReads] (h : machine.Sound)
    (hexpects : machine.Expects object)
    (htruthful : Truthful machine.capabilityDigest object device)
    (hrecoverable : Recoverable object machine) (hopen : machine.complete = false) :
    (machine.exchange device).complete = true ∨
      rank object (machine.exchange device) < rank object machine := by
  cases hpending : machine.pending with
  | none =>
    right
    have hexchange : machine.exchange device = machine.nextRequest.1 := by
      unfold exchange
      rw [hpending]
    rcases nextRequest_cases machine with ⟨-, hbusy | hcomplete | hnothing⟩ | ⟨-, -, -, hnext⟩
    · exact absurd hpending hbusy
    · rw [hopen] at hcomplete
      cases hcomplete
    · -- something remains of every object that can be reached
      exfalso
      obtain ⟨⟨chunks, hcoherent⟩, -⟩ := h
      have hholds : machine.Holds VisualAssetIdentity.byteLen (RangeMachine.Verified machine)
          chunks := hcoherent.holds
      obtain ⟨identity, hsome, hzero⟩ := (hholds.remaining_eq_zero hopen
        LawfulCapabilityWire.visualAssetChunk.1).1 hnothing
      rcases hrecoverable.2 hopen with hnone | ⟨hidentity, hnonempty, -⟩
      · rw [hnone] at hsome
        cases hsome
      · obtain rfl := Option.some.inj (hidentity.symm.trans hsome)
        have hlength := hexpects.byteLen
        rw [hzero] at hlength
        exact hnonempty (List.eq_nil_of_length_eq_zero hlength.symm)
    · rw [hexchange, hnext]
      simp [rank, hpending]
  | some request =>
    rcases exchange_of_pending h hexpects htruthful hpending with
      ⟨chunk, hidentity, hrange, hprogress, hadvances⟩ | ⟨-, -, hnone, hother⟩
    · obtain ⟨rfl, hrest, -, -⟩ := h.of_pending hpending
      have hafter := (hadvances.recoverable_iff h hexpects hopen hrest hidentity hrange).2
        hrecoverable
      cases hadvances with
      | extended hmore hincomplete hnow hreceived hstored =>
        right
        have hchunk : 0 < chunk.length := List.length_pos_iff.2 (hprogress (by omega))
        have hone : (if (machine.exchange device).pending.isNone then 1 else 0) ≤ 1 := by
          split <;> omega
        simp only [rank, hpending, hreceived, Option.isNone_some, Bool.false_eq_true, if_false]
        omega
      | completed hall hdigest hcomplete hbytes => exact .inl hcomplete
      | rejected hall hdigest hincomplete hnow hstored =>
        exfalso
        rcases hafter.2 hincomplete with hunpinned | ⟨-, -, hagrees⟩
        · rw [hnow] at hunpinned
          cases hunpinned
        · -- the whole object would be stored, and its digest is the expected one
          rw [hstored, ← stored_append_prefix_iff h.stored_length hrange] at hagrees
          have hobject : machine.stored ++ chunk = object :=
            hagrees.eq_of_length (by rw [List.length_append, h.stored_length, hall])
          rw [hobject] at hdigest
          exact hdigest hexpects.digest
    · exfalso
      rcases hrecoverable.2 hopen with hunpinned | ⟨hsame, -, -⟩
      · exact hnone hunpinned
      · exact hother hsame

/-- An exchange keeps what the download expects. -/
theorem exchange_authority (machine : VisualAssetDownloadMachine)
    (device : List UInt8 → Response) :
    (machine.exchange device).capabilityDigest = machine.capabilityDigest ∧
      (machine.exchange device).expectedAssetDigest = machine.expectedAssetDigest ∧
      (machine.exchange device).maximumAssetBytes = machine.maximumAssetBytes := by
  unfold exchange
  split
  · rcases nextRequest_cases machine with ⟨hsame, -⟩ | ⟨-, -, -, hnext⟩
    · rw [hsame]
      exact ⟨rfl, rfl, rfl⟩
    · rw [hnext]
      exact ⟨rfl, rfl, rfl⟩
  · split
    · obtain ⟨hcapability, hexpected, hmaximum, -⟩ := acceptResponse_authority machine _ true
      exact ⟨hcapability, hexpected, hmaximum⟩
    · exact ⟨rfl, rfl, rfl⟩

theorem Expects.exchange (h : machine.Expects object) :
    (machine.exchange device).Expects object := by
  obtain ⟨-, hexpected, hmaximum⟩ := exchange_authority machine device
  exact ⟨hexpected ▸ h.digest, hmaximum ▸ h.bound⟩

omit [CapabilityWire] [Sha256] in
/-- Only the object that is reached is exposed. -/
theorem asset_eq_some : machine.asset = some object ↔
    machine.complete = true ∧ machine.bytes = object := by
  unfold asset RangeBuffer.exposed
  split
  · next hcomplete => simp [hcomplete]
  · next hopen => simp [hopen]

/-- From a sound state, a truthful device leads to the object exactly when it can be reached. -/
theorem serve_recovers_iff [LawfulCapabilityWire] [EncodesVisualReads] (h : machine.Sound)
    (hexpects : machine.Expects object) (answers : Nat → List UInt8 → Response)
    (htruthful : ∀ k, Truthful machine.capabilityDigest object (answers k)) :
    (∃ n, (serve answers n machine).asset = some object) ↔ Recoverable object machine := by
  constructor
  · intro hreached
    obtain ⟨n, hreached⟩ := hreached
    induction n generalizing machine answers with
    | zero =>
      obtain ⟨hcomplete, hbytes⟩ := asset_eq_some.1 hreached
      exact ⟨fun _ => hbytes,
        fun hopen => absurd (hcomplete.symm.trans hopen) Bool.noConfusion⟩
    | succ n ih =>
      have hsame := (exchange_authority machine (answers 0)).1
      have hnext := ih h.exchange hexpects.exchange (fun k => answers (k + 1))
        (fun k => by rw [hsame]; exact htruthful (k + 1)) hreached
      exact (recoverable_exchange h hexpects (htruthful 0)).1 hnext
  · intro hrecoverable
    -- induction on the exchanges that are left
    induction hrank : rank object machine using Nat.strong_induction_on generalizing machine
        answers with
    | _ left ih =>
      cases hopen : machine.complete with
      | true => exact ⟨0, asset_eq_some.2 ⟨hopen, hrecoverable.1 hopen⟩⟩
      | false =>
        have hnext := (recoverable_exchange h hexpects (htruthful 0)).2 hrecoverable
        rcases exchange_rank h hexpects (htruthful 0) hrecoverable hopen with hdone | hcloser
        · exact ⟨1, asset_eq_some.2 ⟨hdone, hnext.1 hdone⟩⟩
        · have hsame := (exchange_authority machine (answers 0)).1
          obtain ⟨n, hn⟩ := ih _ (hrank ▸ hcloser) h.exchange hexpects.exchange
            (fun k => answers (k + 1))
            (fun k => by rw [hsame]; exact htruthful (k + 1)) hnext rfl
          exact ⟨n + 1, hn⟩

/-! ## Runs -/

/-- What holds of every download that a run of calls reaches. -/
structure Reached (capabilityDigest expectedAssetDigest : Digest) (maximumAssetBytes : UInt32)
    (w : Download VisualAssetDownloadMachine) : Prop where
  coherent : Coherent w.machine w.chunks
  wellformed : w.machine.Wellformed
  capability : w.machine.capabilityDigest = capabilityDigest
  expected : w.machine.expectedAssetDigest = expectedAssetDigest
  maximum : w.machine.maximumAssetBytes = maximumAssetBytes

section Runs

variable {capabilityDigest expectedAssetDigest : Digest} {maximumAssetBytes : UInt32}
  {start : VisualAssetDownloadMachine} {w w' : Download VisualAssetDownloadMachine}

theorem Reached.perform [LawfulCapabilityWire] {call : RangeCall}
    {outcome : RangeOutcome VisualAssetDownloadMachine}
    (h : Reached capabilityDigest expectedAssetDigest maximumAssetBytes w)
    (hcall : w.perform call = (w', outcome)) :
    Reached capabilityDigest expectedAssetDigest maximumAssetBytes w' := by
  have hcoherent := (Download.perform_coherent h.coherent hcall).1
  have hwellformed := h.wellformed.perform hcall
  have hauthority : w'.machine.capabilityDigest = w.machine.capabilityDigest ∧
      w'.machine.expectedAssetDigest = w.machine.expectedAssetDigest ∧
      w'.machine.maximumAssetBytes = w.machine.maximumAssetBytes := by
    cases call with
    | nextRequest =>
      cases hcall
      show w.machine.nextRequest.1.capabilityDigest = _ ∧
        w.machine.nextRequest.1.expectedAssetDigest = _ ∧
        w.machine.nextRequest.1.maximumAssetBytes = _
      rcases nextRequest_cases w.machine with ⟨hsame, -⟩ | ⟨-, -, -, hnext⟩
      · rw [hsame]
        exact ⟨rfl, rfl, rfl⟩
      · rw [hnext]
        exact ⟨rfl, rfl, rfl⟩
    | acceptResponse response reserved =>
      cases hcall
      obtain ⟨hcapability, hexpected, hmaximum, -⟩ :=
        acceptResponse_authority w.machine response reserved
      exact ⟨hcapability, hexpected, hmaximum⟩
    | abandonPending =>
      cases hcall
      exact ⟨rfl, rfl, rfl⟩
  exact ⟨hcoherent, hwellformed, hauthority.1.trans h.capability,
    hauthority.2.1.trans h.expected, hauthority.2.2.trans h.maximum⟩

theorem Reached.of_run [LawfulCapabilityWire] {history : List (RangeCall × _)}
    (hnew : new capabilityDigest expectedAssetDigest maximumAssetBytes = .ok start)
    (hrun : Run (Run.Calls Download.perform) ⟨start, []⟩ history w) :
    Reached capabilityDigest expectedAssetDigest maximumAssetBytes w := by
  have hcoherent := coherent_new hnew
  simp only [new, Except.bind_eq_ok, Except.exists_unit, Except.failIf_eq_ok, not_or,
    Except.pure_eq_ok, Bool.not_eq_true] at hnew
  obtain ⟨⟨hcapability, hexpected, -⟩, rfl⟩ := hnew
  have hstep : ∀ s (e : RangeCall × RangeOutcome VisualAssetDownloadMachine) t,
      Run.Calls Download.perform s e t →
      Reached capabilityDigest expectedAssetDigest maximumAssetBytes s →
      Reached capabilityDigest expectedAssetDigest maximumAssetBytes t :=
    fun _ _ _ hcall hs => hs.perform hcall
  exact hrun.invariant hstep ⟨hcoherent, ⟨hcapability, hexpected, by simp⟩, rfl, rfl, rfl⟩

theorem Reached.sound (h : Reached capabilityDigest expectedAssetDigest maximumAssetBytes w) :
    w.machine.Sound :=
  ⟨⟨_, h.coherent⟩, h.wellformed⟩

theorem Reached.expects (h : Reached capabilityDigest expectedAssetDigest maximumAssetBytes w)
    (hdigest : Sha256.sha256 object = expectedAssetDigest)
    (hbound : object.length ≤ maximumAssetBytes.toNat) : w.machine.Expects object :=
  ⟨hdigest.trans h.expected.symm, h.maximum ▸ hbound⟩

/-- From every reachable state, whatever was answered before, a device that serves the expected
object truthfully leads to it in finitely many exchanges exactly when nothing is pinned yet, or the
identity of a nonempty object is pinned and the bytes stored so far agree with it. -/
theorem visual_recovers_iff [LawfulCapabilityWire] [EncodesVisualReads]
    {history : List (RangeCall × _)}
    (hnew : new capabilityDigest expectedAssetDigest maximumAssetBytes = .ok start)
    (hrun : Run (Run.Calls Download.perform) ⟨start, []⟩ history w)
    (hdigest : Sha256.sha256 object = expectedAssetDigest)
    (hbound : object.length ≤ maximumAssetBytes.toNat)
    {answers : Nat → List UInt8 → Response}
    (htruthful : ∀ k, Truthful capabilityDigest object (answers k)) :
    (∃ n, (serve answers n w.machine).asset = some object) ↔ Recoverable object w.machine := by
  have hreached := Reached.of_run hnew hrun
  apply serve_recovers_iff hreached.sound (hreached.expects hdigest hbound)
  intro k
  rw [hreached.capability]
  exact htruthful k

end Runs

end Exchange

end VisualAssetDownloadMachine

namespace VisualAssetDownloadMachine

section Sample

open RangeDownload Alumina.Client.HostLibrary Alumina.Graph.HostLibrary
open Alumina.Graph (decodeU32 encodeU16 encodeU32 reads_array reads_u8 reads_u16 reads_u32)
open Codec (Reads)

/-- A device with an object of three bytes, which it hands out one by one. -/
def serveAsset (body : List UInt8) : Response :=
  match decodeU32 (body.drop 64) with
  | .ok (offset, _) =>
    if offset ≤ 3 then
      assetResponse offset (([7, 8, 9].drop offset.toNat).take 1) (2 ≤ offset)
    else ⟨.internal, []⟩
  | .error _ => ⟨.internal, []⟩

theorem encodesVisualReads : EncodesVisualReads where
  encode := by
    intro request _ _ hpos _ _
    have hsome : request.maximumBytes ≠ 0 := by
      intro hzero
      rw [hzero] at hpos
      exact absurd hpos (by decide)
    exact ⟨request.capabilityDigest.val ++ request.assetDigest.val ++ encodeU32 request.offset ++
      encodeU16 request.maximumBytes, Except.bind_of_ok (Except.failIf_of_not hsome)⟩

/-- The body of a range reads back. -/
theorem decode_assetResponse (offset : UInt32) {chunk : List UInt8} (complete : Bool)
    (h : chunk.length < 2 ^ 16) :
    CapabilityWire.decodeVisualAssetRead (assetResponse offset chunk complete).body =
      .ok (⟨.replicate 32 3, ⟨3, Sha256.sha256 [7, 8, 9]⟩, offset, .ofNat chunk.length, complete⟩,
        chunk) := by
  have hflag : Reads decodeFlag (encodeFlag complete) complete := by
    cases complete <;> exact (reads_u8 _).map
  have hreads : Reads decodeVisualResponse (encodeVisualResponse ⟨.replicate 32 3,
      ⟨3, Sha256.sha256 [7, 8, 9]⟩, offset, .ofNat chunk.length, complete⟩)
      ⟨.replicate 32 3, ⟨3, Sha256.sha256 [7, 8, 9]⟩, offset, .ofNat chunk.length, complete⟩ := by
    simp only [encodeVisualResponse, List.append_assoc]
    exact (reads_array _).bind ((reads_u32 _).bind ((reads_array _).bind ((reads_u32 _).bind
      ((reads_u16 _).bind (hflag.map)))))
  have hlength : (UInt16.ofNat chunk.length).toNat = chunk.length := UInt16.toNat_ofNat_of_lt' h
  show decodeRange decodeVisualResponse _ (encodeVisualResponse _ ++ chunk) = _
  unfold decodeRange
  rw [Except.bind_of_ok (hreads chunk)]
  dsimp only
  rw [Except.bind_of_ok (Except.failIf_of_not (not_not.2 hlength.symm))]
  rfl

theorem truthful_serveAsset : Truthful (.replicate 32 3) [7, 8, 9] serveAsset := by
  intro request body hcapability _ hmaximum hencoded
  have hencoded : encodeVisualRequest request = .ok body := hencoded
  obtain ⟨_, -, hbody⟩ := Except.bind_eq_ok.1 hencoded
  cases hbody
  have hoffset : decodeU32 ((request.capabilityDigest.val ++ request.assetDigest.val ++
      encodeU32 request.offset ++ encodeU16 request.maximumBytes).drop 64) =
      .ok (request.offset, encodeU16 request.maximumBytes) := by
    have hdigests : (request.capabilityDigest.val ++ request.assetDigest.val).length = 64 := by
      rw [List.length_append, request.capabilityDigest.property, request.assetDigest.property]
    rw [List.append_assoc, List.drop_left' hdigests]
    exact reads_u32 _ _
  unfold serveAsset
  rw [hoffset]
  dsimp only
  by_cases hle : request.offset ≤ 3
  · left
    rw [if_pos hle]
    have hbound : request.offset.toNat ≤ 3 := hle
    have hchunk : ((([7, 8, 9] : List UInt8).drop request.offset.toNat).take 1).length =
        min 1 (3 - request.offset.toNat) := by
      rw [List.length_take, List.length_drop]
      rfl
    refine ⟨_, _, rfl, decode_assetResponse _ _ (by omega), hcapability.symm, rfl, rfl,
      UInt16.toNat_ofNat_of_lt' (show _ < 2 ^ 16 by omega), by omega, List.take_prefix _ _, ?_, ?_⟩
    · rw [hchunk, decide_eq_true_iff]
      show 2 ≤ request.offset.toNat ↔ request.offset.toNat + _ = 3
      omega
    · intro hinside hnil
      have hinside : request.offset.toNat < 3 := hinside
      rw [hnil, List.length_nil] at hchunk
      omega
  · right
    rw [if_neg hle]
    exact ⟨Nat.lt_of_not_le hle, StatusCode.noConfusion⟩

/-- Two bytes are stored, and a further request was abandoned. -/
def servedCalls : List RangeCall := [
    .nextRequest, .acceptResponse (assetResponse 0 [7, 8] false) true, .nextRequest,
    .abandonPending]

/-- The first two bytes are stored, one of which is not of the object. -/
def wrongCalls : List RangeCall := [
    .nextRequest, .acceptResponse (assetResponse 0 [7, 9] false) true]

theorem new_sampleAsset :
    new (.replicate 32 3) (Sha256.sha256 [7, 8, 9]) 16 = .ok sampleAsset := by
  have hdigest : (Sha256.sha256 [7, 8, 9]).isZero = false := by decide +kernel
  simp only [new, hdigest]
  rfl

/-- The abandoned download is resumed. -/
theorem visual_recovers_sample :
    ∃ n, (serve (fun _ => serveAsset) n
      (Run.execute Download.perform ⟨sampleAsset, []⟩ servedCalls).1.machine).asset =
        some [7, 8, 9] := by
  have := lawfulCapabilityWire
  have := encodesVisualReads
  exact (visual_recovers_iff new_sampleAsset (Run.run_execute _ _ servedCalls) rfl (by decide)
    (fun _ => truthful_serveAsset)).2 (by decide +kernel)

/-- The download that stored a wrong byte never reaches the object. -/
theorem visual_stuck : ¬ ∀ (capabilityDigest expectedAssetDigest : Digest)
    (maximumAssetBytes : UInt32) (start : VisualAssetDownloadMachine)
    (history : List (RangeCall × _)) (w : Download VisualAssetDownloadMachine)
    (object : List UInt8) (answers : Nat → List UInt8 → Response),
    new capabilityDigest expectedAssetDigest maximumAssetBytes = .ok start →
    Run (Run.Calls Download.perform) ⟨start, []⟩ history w →
    Sha256.sha256 object = expectedAssetDigest → object.length ≤ maximumAssetBytes.toNat →
    (∀ k, Truthful capabilityDigest object (answers k)) →
    ∃ n, (serve answers n w.machine).asset = some object := by
  intro h
  have := lawfulCapabilityWire
  have := encodesVisualReads
  have hrun := Run.run_execute Download.perform ⟨sampleAsset, []⟩ wrongCalls
  have hreached := Reached.of_run new_sampleAsset hrun
  obtain ⟨n, hn⟩ := h _ _ _ _ _ _ [7, 8, 9] (fun _ => serveAsset) new_sampleAsset hrun rfl
    (by decide) (fun _ => truthful_serveAsset)
  have hrecoverable := (serve_recovers_iff hreached.sound (hreached.expects rfl (by decide))
    (fun _ => serveAsset) fun _ => hreached.capability.symm ▸ truthful_serveAsset).1 ⟨n, hn⟩
  revert hrecoverable
  decide +kernel

end Sample

end VisualAssetDownloadMachine

end Alumina.Client
