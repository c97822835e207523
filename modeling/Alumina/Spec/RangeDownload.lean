import Alumina.Client.CapabilityLibrary

/-!
# What a range download assembles

The buffer of a download is read beside the chunks accepted so far: they are contiguous, they are
the bytes received, and they are never more than the pinned identity declares.

## Key results

- `RangeBuffer.store_spec`: a stored chunk extends the chunks, a rejected one changes nothing that
  was received
-/

namespace Alumina.Client

open Except (failIf)
open Alumina.Graph (Digest FixedArray Sha256)

/-! ## Chunks -/

/-- A chunk that was accepted, with the offset it was requested at. -/
structure AcceptedChunk where
  offset : UInt32
  bytes : List UInt8

/-- The bytes of chunks, in order. -/
def assembled (chunks : List AcceptedChunk) : List UInt8 := chunks.flatMap AcceptedChunk.bytes

/-- Each chunk was requested where the chunks before it end. -/
def Contiguous (chunks : List AcceptedChunk) : Prop :=
  ∀ before chunk after, chunks = before ++ chunk :: after →
    chunk.offset.toNat = (assembled before).length

@[simp] theorem assembled_concat {chunks : List AcceptedChunk} {chunk : AcceptedChunk} :
    assembled (chunks ++ [chunk]) = assembled chunks ++ chunk.bytes := by
  simp [assembled]

theorem Contiguous.concat {chunks : List AcceptedChunk} {chunk : AcceptedChunk}
    (h : Contiguous chunks) (hoffset : chunk.offset.toNat = (assembled chunks).length) :
    Contiguous (chunks ++ [chunk]) := by
  intro before other after hsplit
  rcases List.eq_nil_or_concat after with rfl | ⟨after, last, rfl⟩
  · obtain ⟨rfl, hlast⟩ := List.append_inj' hsplit rfl
    cases hlast
    exact hoffset
  · have hsame : chunks ++ [chunk] = (before ++ other :: after) ++ [last] := by
      rw [hsplit]
      simp
    obtain ⟨hchunks, -⟩ := List.append_inj' hsame rfl
    exact h before other after hchunks

/-! ## Buffers -/

namespace RangeBuffer

variable {I ε : Type} {byteLen : I → UInt32} {verified : I → List UInt8 → Prop}
  {buffer after : RangeBuffer I} {chunks : List AcceptedChunk} {identity : I}
  {chunk : List UInt8} {complete reserved : Bool} {allocation range : ε}
  {verify : List UInt8 → Except ε Unit} {result : Except ε Unit}

/-- A buffer that holds the accepted chunks of one pinned object. -/
structure Holds (byteLen : I → UInt32) (verified : I → List UInt8 → Prop) (buffer : RangeBuffer I)
    (chunks : List AcceptedChunk) : Prop where
  received : buffer.bytes.take buffer.receivedBytes.toNat = assembled chunks
  count : buffer.receivedBytes.toNat = (assembled chunks).length
  contiguous : Contiguous chunks
  unpinned : buffer.identity = none → buffer.receivedBytes = 0 ∧ buffer.complete = false
  pinned : ∀ identity, buffer.identity = some identity →
    buffer.bytes.length = (byteLen identity).toNat
  exposed : buffer.complete = true → ∃ identity, buffer.identity = some identity ∧
    buffer.receivedBytes = byteLen identity ∧ verified identity buffer.bytes
  ahead : ∀ identity, buffer.identity = some identity → buffer.complete = false →
    buffer.receivedBytes < byteLen identity ∨ byteLen identity = 0

/-- No more is received than the pinned identity declares. -/
theorem Holds.le_pinned (h : Holds byteLen verified buffer chunks) (identity : I)
    (hidentity : buffer.identity = some identity) :
    buffer.receivedBytes.toNat ≤ (byteLen identity).toNat := by
  have hlength := congrArg List.length h.received
  rw [List.length_take, ← h.count, h.pinned identity hidentity] at hlength
  omega

theorem holds_empty : Holds byteLen verified .empty [] where
  received := rfl
  count := rfl
  contiguous := by
    intro before chunk after h
    simp at h
  unpinned := fun _ => ⟨rfl, rfl⟩
  pinned := nofun
  exposed := nofun
  ahead := nofun

/-- Pinning an identity keeps what was received. -/
theorem Holds.pin (h : Holds byteLen verified buffer chunks)
    (hidentity : ∀ pinned, buffer.identity = some pinned → pinned = identity) :
    Holds byteLen verified (buffer.pin byteLen identity) chunks ∧
      (buffer.pin byteLen identity).identity = some identity ∧
      (buffer.pin byteLen identity).receivedBytes = buffer.receivedBytes ∧
      (buffer.pin byteLen identity).complete = buffer.complete := by
  unfold RangeBuffer.pin
  cases hpinned : buffer.identity with
  | some pinned =>
    obtain rfl := hidentity pinned hpinned
    exact ⟨h, hpinned, rfl, rfl⟩
  | none =>
    obtain ⟨hzero, hopen⟩ := h.unpinned hpinned
    have hempty : assembled chunks = [] := by
      rw [← h.received, hzero]
      rfl
    refine ⟨?_, rfl, rfl, rfl⟩
    rw [if_pos Option.isNone_none]
    exact
      { received := by rw [hzero, hempty]; rfl
        count := h.count
        contiguous := h.contiguous
        unpinned := nofun
        pinned := by
          rintro _ ⟨⟩
          exact List.length_replicate
        exposed := fun hcomplete => by
          rw [hopen] at hcomplete
          cases hcomplete
        ahead := by
          rintro _ ⟨⟩ -
          rw [hzero, UInt32.lt_iff_toNat_lt]
          by_cases hnone : byteLen identity = 0
          · exact Or.inr hnone
          · refine Or.inl (Nat.pos_of_ne_zero fun hlength => hnone ?_)
            exact UInt32.toNat_inj.1 hlength }

/-- What is copied behind the received bytes leaves them as they are. -/
theorem write_bytes (hroom : buffer.receivedBytes.toNat + chunk.length ≤ buffer.bytes.length) :
    (buffer.write chunk).bytes.length = buffer.bytes.length ∧
      (buffer.write chunk).bytes.take buffer.receivedBytes.toNat =
        buffer.bytes.take buffer.receivedBytes.toNat ∧
      (buffer.write chunk).bytes.take (buffer.receivedBytes.toNat + chunk.length) =
        buffer.bytes.take buffer.receivedBytes.toNat ++ chunk := by
  have hstart : (buffer.bytes.take buffer.receivedBytes.toNat).length =
      buffer.receivedBytes.toNat := List.length_take_of_le (by omega)
  unfold write
  dsimp only
  refine ⟨?_, ?_, ?_⟩
  · rw [List.length_append, List.length_append, List.length_drop, hstart]
    omega
  · rw [List.take_append_of_le_length (by omega), List.take_take, min_self]
  · rw [← List.append_assoc, List.take_left']
    rw [List.length_append, hstart]

/-- A stored chunk extends the chunks; a rejected one leaves what was received. -/
theorem store_spec (h : Holds byteLen verified buffer chunks) (hopen : buffer.complete = false)
    (hidentity : ∀ pinned, buffer.identity = some pinned → pinned = identity)
    (hverify : ∀ bytes, verify bytes = .ok () → verified identity bytes)
    (hstore : buffer.store byteLen allocation range verify identity chunk complete reserved =
      (after, result)) :
    (result = .ok () ∧ after.identity = some identity ∧
      Holds byteLen verified after (chunks ++ [⟨buffer.receivedBytes, chunk⟩])) ∨
    (∃ error, result = .error error) ∧ Holds byteLen verified after chunks ∧
      after.receivedBytes = buffer.receivedBytes ∧ after.complete = false ∧
      (∀ pinned, buffer.identity = some pinned → after.identity = some pinned) := by
  unfold store at hstore
  split at hstore
  · cases hstore
    exact Or.inr ⟨⟨_, rfl⟩, h, rfl, hopen, fun _ hpinned => hpinned⟩
  obtain ⟨hpin, hnow, hsame, hstill⟩ := h.pin hidentity
  have hkeep : ∀ pinned, buffer.identity = some pinned → some identity = some pinned := by
    intro pinned hpinned
    rw [hidentity pinned hpinned]
  dsimp only at hstore
  generalize buffer.pin byteLen identity = pinned at hpin hnow hsame hstill hstore
  have hreject {kept : RangeBuffer I} (hholds : Holds byteLen verified kept chunks)
      (hidentity : kept.identity = pinned.identity)
      (hreceived : kept.receivedBytes = pinned.receivedBytes)
      (hcomplete : kept.complete = pinned.complete) {error : ε} :
      (∃ other, Except.error error = (Except.error other : Except ε Unit)) ∧
        Holds byteLen verified kept chunks ∧ kept.receivedBytes = buffer.receivedBytes ∧
        kept.complete = false ∧
        ∀ old, buffer.identity = some old → kept.identity = some old :=
    ⟨⟨error, rfl⟩, hholds, hreceived.trans hsame, hcomplete.trans (hstill.trans hopen),
      fun old hold => hidentity.trans (hnow.trans (hkeep old hold))⟩
  split at hstore
  · cases hstore
    exact Or.inr (hreject hpin rfl rfl rfl)
  next hroom =>
  have hroom : pinned.receivedBytes.toNat + chunk.length ≤ pinned.bytes.length := not_lt.1 hroom
  obtain ⟨hlength, hbefore, hupTo⟩ := write_bytes hroom
  have hlen := hpin.pinned identity hnow
  -- A rejection after the copy.
  have hrejected : Holds byteLen verified (pinned.write chunk) chunks :=
    { received := hbefore.trans hpin.received
      count := hpin.count
      contiguous := hpin.contiguous
      unpinned := hpin.unpinned
      pinned := fun other hother => hlength.trans (hpin.pinned other hother)
      exposed := fun hcomplete => by
        rw [show (pinned.write chunk).complete = false from hstill.trans hopen] at hcomplete
        cases hcomplete
      ahead := hpin.ahead }
  -- An accepted chunk.
  have haccepted (hsmall : pinned.receivedBytes.toNat + chunk.length < 2 ^ 32)
      (complete : Bool)
      (hend : complete = true → UInt32.ofNat (pinned.receivedBytes.toNat + chunk.length) =
        byteLen identity ∧ verified identity (pinned.write chunk).bytes)
      (hmore : complete = false →
        UInt32.ofNat (pinned.receivedBytes.toNat + chunk.length) < byteLen identity) :
      Holds byteLen verified
        { pinned.write chunk with
          receivedBytes := .ofNat (pinned.receivedBytes.toNat + chunk.length)
          complete }
        (chunks ++ [⟨buffer.receivedBytes, chunk⟩]) := by
    have hvalue : (UInt32.ofNat (pinned.receivedBytes.toNat + chunk.length)).toNat =
        pinned.receivedBytes.toNat + chunk.length := UInt32.toNat_ofNat_of_lt' hsmall
    constructor
    case received =>
      dsimp only
      rw [hvalue, hupTo, hpin.received, assembled_concat]
    case count =>
      dsimp only
      rw [hvalue, assembled_concat, List.length_append, hpin.count]
    case contiguous =>
      apply hpin.contiguous.concat
      rw [← hsame]
      exact hpin.count
    case unpinned =>
      intro hnone
      rw [show (pinned.write chunk).identity = some identity from hnow] at hnone
      cases hnone
    case pinned => exact fun other hother => hlength.trans (hpin.pinned other hother)
    case exposed => exact fun hcomplete => ⟨identity, hnow, hend hcomplete⟩
    case ahead =>
      intro other hother hincomplete
      rw [show (pinned.write chunk).identity = some identity from hnow] at hother
      cases hother
      exact Or.inl (hmore hincomplete)
  split at hstore
  · cases hstore
    exact Or.inr (hreject hrejected rfl rfl rfl)
  next hsmall =>
  split at hstore
  · split at hstore
    · cases hstore
      exact Or.inr (hreject hrejected rfl rfl rfl)
    next hall =>
    split at hstore
    · cases hstore
      exact Or.inr (hreject hrejected rfl rfl rfl)
    next hverified =>
    cases hstore
    exact Or.inl ⟨rfl, hnow, haccepted (not_le.1 hsmall) true
      (fun _ => ⟨not_not.1 hall, hverify _ hverified⟩) nofun⟩
  next hopened =>
  split at hstore
  · cases hstore
    exact Or.inr (hreject hrejected rfl rfl rfl)
  next hmore =>
  cases hstore
  refine Or.inl ⟨rfl, hnow, ?_⟩
  have hlater := haccepted (not_le.1 hsmall) false nofun fun _ => UInt32.not_le.1 hmore
  rwa [show false = (pinned.write chunk).complete from (hstill.trans hopen).symm] at hlater

/-! ### Requests -/

variable {chunkLimit : UInt32} {offset : UInt32} {maximumBytes : UInt16}

/-- A range that follows the received bytes and stays within the pinned object. -/
structure Asks (byteLen : I → UInt32) (chunkLimit : UInt32) (buffer : RangeBuffer I)
    (offset : UInt32) (maximumBytes : UInt16) : Prop where
  follows : offset = buffer.receivedBytes
  exact : maximumBytes.toNat = min (buffer.remaining byteLen chunkLimit).toNat chunkLimit.toNat
  within : ∀ identity, buffer.identity = some identity →
    offset.toNat + maximumBytes.toNat ≤ (byteLen identity).toNat
  fits : offset.toNat + maximumBytes.toNat < 2 ^ 32

/-- Nothing remains of an open object only when it is pinned to no bytes. -/
theorem Holds.remaining_eq_zero (h : Holds byteLen verified buffer chunks)
    (hopen : buffer.complete = false) (hchunk : 0 < chunkLimit) :
    buffer.remaining byteLen chunkLimit = 0 ↔
      ∃ identity, buffer.identity = some identity ∧ byteLen identity = 0 := by
  unfold remaining
  cases hidentity : buffer.identity with
  | none => simpa using (UInt32.ne_of_lt hchunk).symm
  | some identity =>
    have hahead := h.ahead identity hidentity hopen
    simp only [Option.some.injEq, exists_eq_left']
    split
    · next hle => exact iff_of_true rfl (hahead.resolve_left (UInt32.not_lt.2 hle))
    · next hlt =>
      have hlt := UInt32.not_le.1 hlt
      have hpos : byteLen identity ≠ 0 := by
        intro hzero
        rw [hzero, UInt32.lt_iff_toNat_lt] at hlt
        exact absurd hlt (Nat.not_lt_zero _)
      refine iff_of_false ?_ hpos
      intro hzero
      rw [← UInt32.toNat_inj, UInt32.toNat_sub_of_le _ _ (UInt32.le_of_lt hlt)] at hzero
      rw [UInt32.lt_iff_toNat_lt] at hlt
      have hvalue : (0 : UInt32).toNat = 0 := rfl
      omega

/-- The next range asks for no more than remains. -/
theorem Holds.asks_next (h : Holds byteLen verified buffer chunks)
    (hfits : chunkLimit < 2 ^ 16) :
    Asks byteLen chunkLimit buffer buffer.receivedBytes
      (.ofNat (min (buffer.remaining byteLen chunkLimit) chunkLimit).toNat) := by
  have hmin : (min (buffer.remaining byteLen chunkLimit) chunkLimit).toNat =
      min (buffer.remaining byteLen chunkLimit).toNat chunkLimit.toNat := by
    show (if buffer.remaining byteLen chunkLimit ≤ chunkLimit then
      buffer.remaining byteLen chunkLimit else chunkLimit).toNat = _
    split
    · next hle =>
      rw [UInt32.le_iff_toNat_le] at hle
      omega
    · next hgt =>
      rw [UInt32.le_iff_toNat_le] at hgt
      omega
  have hsmall : chunkLimit.toNat < 2 ^ 16 := hfits
  have hexact : (UInt16.ofNat (min (buffer.remaining byteLen chunkLimit) chunkLimit).toNat).toNat =
      min (buffer.remaining byteLen chunkLimit).toNat chunkLimit.toNat := by
    rw [hmin]
    have hsize : UInt16.size = 2 ^ 16 := rfl
    exact UInt16.toNat_ofNat_of_lt' (by omega)
  have hwithin : ∀ identity, buffer.identity = some identity →
      buffer.receivedBytes.toNat + (buffer.remaining byteLen chunkLimit).toNat ≤
        (byteLen identity).toNat := by
    intro identity hidentity
    have hle := h.le_pinned identity hidentity
    unfold remaining
    rw [hidentity]
    dsimp only
    split
    · exact hle
    · next hlt =>
      rw [UInt32.toNat_sub_of_le _ _ (UInt32.le_of_lt (UInt32.not_le.1 hlt))]
      omega
  refine ⟨rfl, hexact, ?_, ?_⟩
  · intro identity hidentity
    have hle := hwithin identity hidentity
    rw [hexact]
    omega
  · rw [hexact]
    cases hidentity : buffer.identity with
    | none =>
      rw [(h.unpinned hidentity).1]
      have hzero : (0 : UInt32).toNat = 0 := rfl
      omega
    | some identity =>
      have hle := hwithin identity hidentity
      have hbound := (byteLen identity).toNat_lt
      omega

/-- What a rejection leaves as it was. -/
structure Keeps (buffer after : RangeBuffer I) : Prop where
  received : after.receivedBytes = buffer.receivedBytes
  bytes : after.bytes.take buffer.receivedBytes.toNat =
    buffer.bytes.take buffer.receivedBytes.toNat
  identity : ∀ identity, buffer.identity = some identity → after.identity = some identity

theorem Keeps.refl : Keeps buffer buffer := ⟨rfl, rfl, fun _ h => h⟩

/-- Buffers that hold the same chunks have received the same bytes. -/
theorem Holds.keeps (h : Holds byteLen verified buffer chunks)
    (hafter : Holds byteLen verified after chunks)
    (hreceived : after.receivedBytes = buffer.receivedBytes)
    (hidentity : ∀ identity, buffer.identity = some identity → after.identity = some identity) :
    Keeps buffer after where
  received := hreceived
  bytes := by
    rw [h.received, ← hafter.received, hreceived]
  identity := hidentity

end RangeBuffer

/-! ## Machines -/

/-- A download machine, seen through its buffer and its pending request. -/
class RangeMachine (M : Type) where
  Identity : Type
  Error : Type
  byteLen : Identity → UInt32
  /-- The longest chunk a request may ask for. -/
  chunkLimit : UInt32
  range : Error
  buffer : M → RangeBuffer Identity
  /-- Offset and maximum length of the pending request. -/
  pending : M → Option (UInt32 × UInt16)
  /-- The encoding of the pending request. -/
  pendingBody : M → Option (List UInt8)
  /-- Bytes that are the object an identity names. -/
  Verified : M → Identity → List UInt8 → Prop
  /-- The chunk of a response to the pending request. -/
  chunkOf : M → Response → Option AcceptedChunk
  nextRequest : M → M × Except Error (Option (List UInt8))
  acceptResponse : M → Response → Bool → M × Except Error Unit
  abandonPending : M → M × Bool

/-- A machine beside the chunks it accepted since its object was last discovered. -/
structure Download (M : Type) where
  machine : M
  chunks : List AcceptedChunk

section Machines

variable {M : Type} [RangeMachine M]

open RangeMachine (byteLen chunkLimit buffer pending pendingBody Verified chunkOf)

/-- What holds of a machine and its chunks between two calls. -/
structure Coherent (machine : M) (chunks : List AcceptedChunk) : Prop where
  holds : (buffer machine).Holds byteLen (Verified machine) chunks
  open_ : pending machine ≠ none → (buffer machine).complete = false

/-- What one call of each kind does to a coherent machine. -/
class LawfulRangeMachine (M : Type) [RangeMachine M] : Prop where
  /-- A request follows the received bytes; it fails for its range exactly when an object of no
  bytes is pinned. -/
  nextRequest {machine : M} {chunks : List AcceptedChunk} (h : Coherent machine chunks)
      {machine' : M} {result : Except (RangeMachine.Error M) (Option (List UInt8))}
      (hnext : RangeMachine.nextRequest machine = (machine', result)) :
    buffer machine' = buffer machine ∧ Verified machine' = Verified machine ∧
      (pending machine' ≠ none → pending machine ≠ none ∨ (buffer machine).complete = false) ∧
      (∀ body, result = .ok (some body) → pendingBody machine' = some body ∧
        ∃ offset maximumBytes, pending machine' = some (offset, maximumBytes) ∧
          (buffer machine).Asks byteLen (chunkLimit M) offset maximumBytes) ∧
      (result = .error RangeMachine.range ↔ pending machine = none ∧
        (buffer machine).complete = false ∧
          ∃ identity, (buffer machine).identity = some identity ∧ byteLen identity = 0)
  /-- An accepted response extends the chunks by its own; a rejected one keeps what was
  received. -/
  acceptResponse {machine : M} {chunks : List AcceptedChunk} (h : Coherent machine chunks)
      {machine' : M} {response : Response} {reserved : Bool}
      {result : Except (RangeMachine.Error M) Unit}
      (haccept : RangeMachine.acceptResponse machine response reserved = (machine', result)) :
    pending machine' = none ∧ Verified machine' = Verified machine ∧
      ((result = .ok () ∧ ∃ chunk, chunkOf machine response = some chunk ∧
        (∀ pinned, (buffer machine).identity = some pinned →
          (buffer machine').identity = some pinned) ∧
        (buffer machine').Holds byteLen (Verified machine) (chunks ++ [chunk])) ∨
      (∃ error, result = .error error) ∧ (buffer machine).Keeps (buffer machine') ∧
        (buffer machine').Holds byteLen (Verified machine) chunks)
  abandonPending (machine : M) :
    buffer (RangeMachine.abandonPending machine).1 = buffer machine ∧
      Verified (RangeMachine.abandonPending machine).1 = Verified machine ∧
      pending (RangeMachine.abandonPending machine).1 = none

inductive RangeCall where
  | nextRequest
  | acceptResponse (response : Response) (reserved : Bool)
  | abandonPending

inductive RangeOutcome (M : Type) [RangeMachine M] where
  | requested (result : Except (RangeMachine.Error M) (Option (List UInt8)))
  | accepted (result : Except (RangeMachine.Error M) Unit)
  | abandoned (had : Bool)

namespace Download

/-- A call on a machine, recording the chunk it accepts. -/
def perform (w : Download M) : RangeCall → Download M × RangeOutcome M
  | .nextRequest =>
    let (machine, result) := RangeMachine.nextRequest w.machine
    (⟨machine, w.chunks⟩, .requested result)
  | .acceptResponse response reserved =>
    let (machine, result) := RangeMachine.acceptResponse w.machine response reserved
    let chunks := match result with
      | .ok () => w.chunks ++ (chunkOf w.machine response).toList
      | .error _ => w.chunks
    (⟨machine, chunks⟩, .accepted result)
  | .abandonPending =>
    let (machine, had) := RangeMachine.abandonPending w.machine
    (⟨machine, w.chunks⟩, .abandoned had)

/-- What holds of every reachable machine and of the next call on it. -/
structure Lawful (w : Download M) : Prop where
  holds : (buffer w.machine).Holds byteLen (Verified w.machine) w.chunks
  pinned : ∀ call w' outcome identity, w.perform call = (w', outcome) →
    (buffer w.machine).identity = some identity → (buffer w'.machine).identity = some identity
  rejected : ∀ response reserved w' error,
    w.perform (.acceptResponse response reserved) = (w', .accepted (.error error)) →
      (buffer w.machine).Keeps (buffer w'.machine) ∧ w'.chunks = w.chunks
  requests : ∀ w' body, w.perform .nextRequest = (w', .requested (.ok (some body))) →
    pendingBody w'.machine = some body ∧
      ∃ offset maximumBytes, pending w'.machine = some (offset, maximumBytes) ∧
        (buffer w.machine).Asks byteLen (chunkLimit M) offset maximumBytes
  range : (∃ w', w.perform .nextRequest = (w', .requested (.error RangeMachine.range))) ↔
    pending w.machine = none ∧ (buffer w.machine).complete = false ∧
      ∃ identity, (buffer w.machine).identity = some identity ∧ byteLen identity = 0
  exposed : ∀ bytes, (buffer w.machine).exposed = some bytes → ∃ identity,
    (buffer w.machine).identity = some identity ∧
      (buffer w.machine).receivedBytes = byteLen identity ∧ bytes = assembled w.chunks ∧
      bytes.length = (byteLen identity).toNat ∧ Verified w.machine identity bytes

variable [LawfulRangeMachine M] {w w' : Download M} {call : RangeCall} {outcome : RangeOutcome M}

/-- Every call keeps what an object is checked against, the pinned identity and the coherence of
the machine with its chunks. -/
theorem perform_coherent (h : Coherent w.machine w.chunks)
    (hcall : w.perform call = (w', outcome)) :
    Coherent w'.machine w'.chunks ∧ Verified w'.machine = Verified w.machine ∧
      ∀ identity, (buffer w.machine).identity = some identity →
        (buffer w'.machine).identity = some identity := by
  cases call with
  | nextRequest =>
    generalize hnext : RangeMachine.nextRequest w.machine = next at hcall
    obtain ⟨machine', result⟩ := next
    simp only [perform, hnext] at hcall
    cases hcall
    obtain ⟨hbuffer, hverified, hpending, -, -⟩ := LawfulRangeMachine.nextRequest h hnext
    refine ⟨⟨?_, ?_⟩, hverified, ?_⟩
    · rw [hbuffer, hverified]
      exact h.holds
    · intro hsome
      rw [hbuffer]
      rcases hpending hsome with hbefore | hopen
      · exact h.open_ hbefore
      · exact hopen
    · intro identity hidentity
      rw [hbuffer]
      exact hidentity
  | acceptResponse response reserved =>
    generalize haccept : RangeMachine.acceptResponse w.machine response reserved = accepted
    obtain ⟨machine', result⟩ := accepted
    obtain ⟨hpending, hverified, hresult⟩ := LawfulRangeMachine.acceptResponse h haccept
    simp only [perform, haccept] at hcall
    have hidle : pending machine' ≠ none → (buffer machine').complete = false :=
      fun hsome => absurd hpending hsome
    rcases hresult with ⟨rfl, chunk, hchunk, hkept, hholds⟩ | ⟨⟨error, rfl⟩, hkeeps, hholds⟩
    · simp only [hchunk, Option.toList_some] at hcall
      cases hcall
      refine ⟨⟨?_, hidle⟩, hverified, hkept⟩
      rw [hverified]
      exact hholds
    · cases hcall
      refine ⟨⟨?_, hidle⟩, hverified, hkeeps.identity⟩
      rw [hverified]
      exact hholds
  | abandonPending =>
    obtain ⟨hbuffer, hverified, hpending⟩ := LawfulRangeMachine.abandonPending w.machine
    generalize habandon : RangeMachine.abandonPending w.machine = abandoned
    obtain ⟨machine', had⟩ := abandoned
    simp only [perform, habandon] at hcall hbuffer hverified hpending
    cases hcall
    refine ⟨⟨?_, fun hsome => absurd hpending hsome⟩, hverified, ?_⟩
    · rw [hbuffer, hverified]
      exact h.holds
    · intro identity hidentity
      rw [hbuffer]
      exact hidentity

/-- A coherent machine is lawful. -/
theorem lawful (h : Coherent w.machine w.chunks) : Lawful w := by
  generalize hnext : RangeMachine.nextRequest w.machine = next
  obtain ⟨next, result⟩ := next
  obtain ⟨-, -, -, hrequest, hrange⟩ := LawfulRangeMachine.nextRequest h hnext
  constructor
  case holds => exact h.holds
  case pinned =>
    intro call w' outcome identity hcall hidentity
    exact (perform_coherent h hcall).2.2 identity hidentity
  case rejected =>
    intro response reserved w' error hcall
    generalize haccept : RangeMachine.acceptResponse w.machine response reserved = accepted
    obtain ⟨machine', accepted⟩ := accepted
    obtain ⟨-, -, hresult⟩ := LawfulRangeMachine.acceptResponse h haccept
    simp only [perform, haccept] at hcall
    rcases hresult with ⟨rfl, -⟩ | ⟨⟨other, rfl⟩, hkeeps, -⟩
    · cases hcall
    · cases hcall
      exact ⟨hkeeps, rfl⟩
  case requests =>
    intro w' operation hcall
    simp only [perform, hnext] at hcall
    cases hcall
    exact hrequest operation rfl
  case range =>
    rw [← hrange]
    simp only [perform, hnext]
    constructor
    · rintro ⟨w', hcall⟩
      cases hcall
      rfl
    · rintro rfl
      exact ⟨_, rfl⟩
  case exposed =>
    intro bytes hbytes
    unfold RangeBuffer.exposed at hbytes
    split at hbytes
    · next hcomplete =>
      cases hbytes
      obtain ⟨identity, hidentity, hall, hverified⟩ := h.holds.exposed hcomplete
      have hlength := h.holds.pinned identity hidentity
      refine ⟨identity, hidentity, hall, ?_, hlength, hverified⟩
      rw [← h.holds.received, hall, ← hlength, List.take_length]
    · cases hbytes

end Download

end Machines

/-! ## Capability documents -/

namespace CapabilityDownloadMachine

variable [CapabilityWire] {machine machine' : CapabilityDownloadMachine}
  {request : CapabilityReadRequest} {response : Response} {reserved : Bool}
  {chunks : List AcceptedChunk}

instance : RangeMachine CapabilityDownloadMachine where
  Identity := CapabilityIdentity
  Error := CapabilityDownloadError
  byteLen := CapabilityIdentity.byteLen
  chunkLimit := CapabilityWire.maxCapabilityChunkBytes
  range := .range
  buffer := toRangeBuffer
  pending machine := machine.pending.map fun request => (request.offset, request.maximumBytes)
  pendingBody machine := machine.pending.bind fun request =>
    (CapabilityWire.encodeCapabilityRead request).toOption
  Verified machine identity bytes :=
    ∃ view, CapabilityWire.decodeBoardCapability bytes machine.limits = .ok view ∧
      CapabilityWire.viewIdentity view = identity
  chunkOf machine response :=
    match machine.pending, CapabilityWire.decodeCapabilityRead response.body with
    | some request, .ok (_, chunk) => some ⟨request.offset, chunk⟩
    | _, _ => none
  nextRequest machine :=
    let (machine, result) := machine.nextRequest
    (machine, result.map (Option.map CapabilityOperation.body))
  acceptResponse := acceptResponse
  abandonPending := abandonPending

theorem admit_eq_ok {metadata : CapabilityReadResponse} {chunk : List UInt8}
    (h : machine.admitRange request response = .ok (metadata, chunk)) :
    CapabilityWire.decodeCapabilityRead response.body = .ok (metadata, chunk) ∧
      request.offset = machine.receivedBytes ∧
      ∀ pinned, machine.identity = some pinned → pinned = metadata.identity := by
  simp only [admitRange, admitIdentity, Except.bind_eq_ok, Except.exists_unit, Except.failIf_eq_ok,
    Except.mapError_eq_ok, not_or, not_not, Except.pure_eq_ok, Prod.exists] at h
  obtain ⟨-, -, -, other, bytes, hdecode, ⟨hoffset, hreceived, -⟩, -, hidentity, hsame⟩ := h
  cases hsame
  refine ⟨hdecode, hoffset.symm.trans hreceived, ?_⟩
  intro pinned hpinned
  rw [hpinned] at hidentity
  simp only [Except.failIf_eq_ok, not_or, not_not] at hidentity
  exact hidentity.1.symm

theorem acceptResponse_spec (h : Coherent machine chunks) {result : Except _ Unit}
    (haccept : machine.acceptResponse response reserved = (machine', result)) :
    machine'.limits = machine.limits ∧ machine'.pending = none ∧
      ((result = .ok () ∧ ∃ chunk, RangeMachine.chunkOf machine response = some chunk ∧
        (∀ pinned, machine.identity = some pinned → machine'.identity = some pinned) ∧
        machine'.Holds CapabilityIdentity.byteLen (RangeMachine.Verified machine)
          (chunks ++ [chunk])) ∨
      (∃ error, result = .error error) ∧ machine.Keeps machine'.toRangeBuffer ∧
        machine'.Holds CapabilityIdentity.byteLen (RangeMachine.Verified machine) chunks) := by
  unfold acceptResponse at haccept
  cases hpending : machine.pending with
  | none =>
    rw [hpending] at haccept
    cases haccept
    exact ⟨rfl, hpending, Or.inr ⟨⟨_, rfl⟩, .refl, h.holds⟩⟩
  | some request =>
    rw [hpending] at haccept
    dsimp only at haccept
    split at haccept
    · cases haccept
      exact ⟨rfl, rfl, Or.inr ⟨⟨_, rfl⟩, .refl, h.holds⟩⟩
    next metadata chunk hadmit =>
    obtain ⟨hdecode, hoffset, hidentity⟩ := admit_eq_ok hadmit
    generalize hstore : RangeBuffer.store CapabilityIdentity.byteLen
      CapabilityDownloadError.allocation CapabilityDownloadError.range _ metadata.identity chunk
        metadata.complete reserved machine.toRangeBuffer = stored at haccept
    obtain ⟨after, stored⟩ := stored
    cases haccept
    have hverify : ∀ bytes, verify { machine with pending := none } metadata.identity bytes =
        .ok () → RangeMachine.Verified machine metadata.identity bytes := by
      intro bytes hbytes
      simp only [verify, Except.bind_eq_ok, Except.mapError_eq_ok, Except.failIf_eq_ok,
        not_not] at hbytes
      exact hbytes
    have hopen : machine.complete = false := by
      apply h.open_
      show machine.pending.map _ ≠ none
      rw [hpending]
      exact Option.some_ne_none _
    refine ⟨rfl, rfl, ?_⟩
    rcases RangeBuffer.store_spec h.holds hopen hidentity hverify hstore with
      ⟨rfl, hnow, hholds⟩ | ⟨herror, hholds, hreceived, -, hkept⟩
    · refine Or.inl ⟨rfl, ⟨request.offset, chunk⟩, ?_, ?_, ?_⟩
      · simp only [RangeMachine.chunkOf, hpending, hdecode]
      · intro pinned hpinned
        rw [hidentity pinned hpinned]
        exact hnow
      · rw [hoffset]
        exact hholds
    · exact Or.inr ⟨herror, h.holds.keeps hholds hreceived hkept, hholds⟩

theorem nextRequest_spec [LawfulCapabilityWire] (h : Coherent machine chunks)
    {result : Except _ (Option CapabilityOperation)}
    (hnext : machine.nextRequest = (machine', result)) :
    machine'.toRangeBuffer = machine.toRangeBuffer ∧ machine'.limits = machine.limits ∧
      (∀ request, machine'.pending = some request → machine.pending = some request ∨
        machine.complete = false) ∧
      (∀ operation, result = .ok (some operation) → ∃ request, machine'.pending = some request ∧
        CapabilityWire.encodeCapabilityRead request = .ok operation.body ∧
        machine.Asks CapabilityIdentity.byteLen CapabilityWire.maxCapabilityChunkBytes
          request.offset request.maximumBytes) ∧
      (result = .error .range ↔ machine.pending = none ∧ machine.complete = false ∧
        ∃ identity, machine.identity = some identity ∧ identity.byteLen = 0) := by
  obtain ⟨hpos, hfits⟩ := LawfulCapabilityWire.capabilityChunk
  unfold nextRequest at hnext
  dsimp only at hnext
  split at hnext
  · next hpending =>
    cases hnext
    refine ⟨rfl, rfl, fun _ => Or.inl, nofun, ?_⟩
    rw [Option.isSome_iff_ne_none] at hpending
    exact iff_of_false nofun fun hnone => hpending hnone.1
  next hidle =>
  rw [Bool.not_eq_true, Option.isSome_eq_false_iff, Option.isNone_iff_eq_none] at hidle
  split at hnext
  · next hcomplete =>
    cases hnext
    refine ⟨rfl, rfl, fun _ => Or.inl, nofun, ?_⟩
    exact iff_of_false nofun fun hopen => by simp [hcomplete] at hopen
  next hincomplete =>
  rw [Bool.not_eq_true] at hincomplete
  have hzero := h.holds.remaining_eq_zero hincomplete hpos
  split at hnext
  · next hnothing =>
    cases hnext
    exact ⟨rfl, rfl, fun _ => Or.inl, nofun,
      iff_of_true rfl ⟨hidle, hincomplete, hzero.1 hnothing⟩⟩
  next hsome =>
  have hrange : ¬ (machine.pending = none ∧ machine.complete = false ∧
      ∃ identity, machine.identity = some identity ∧ identity.byteLen = 0) :=
    fun hempty => hsome (hzero.2 hempty.2.2)
  split at hnext
  · cases hnext
    exact ⟨rfl, rfl, fun _ => Or.inl, nofun, iff_of_false nofun hrange⟩
  next body hencode =>
  cases hnext
  refine ⟨rfl, rfl, fun _ _ => Or.inr hincomplete, ?_, iff_of_false nofun hrange⟩
  rintro _ ⟨⟩
  exact ⟨_, rfl, hencode, h.holds.asks_next hfits⟩

instance [LawfulCapabilityWire] : LawfulRangeMachine CapabilityDownloadMachine where
  nextRequest := by
    intro machine chunks h machine' result hresult
    generalize hnext : machine.nextRequest = next
    obtain ⟨next, requested⟩ := next
    simp only [RangeMachine.nextRequest, hnext] at hresult
    cases hresult
    obtain ⟨hbuffer, hlimits, hpending, hrequest, hrange⟩ := nextRequest_spec h hnext
    refine ⟨hbuffer, ?_, ?_, ?_, ?_⟩
    · simp only [RangeMachine.Verified, hlimits]
    · intro hsome
      obtain ⟨⟨offset, maximumBytes⟩, hsome⟩ := Option.ne_none_iff_exists'.1 hsome
      obtain ⟨request, hcurrent, -⟩ := Option.map_eq_some_iff.1 hsome
      rcases hpending request hcurrent with hbefore | hopen
      · refine Or.inl ?_
        show machine.pending.map _ ≠ none
        rw [hbefore]
        exact Option.some_ne_none _
      · exact Or.inr hopen
    · intro body hbody
      rcases requested with error | operation
      · cases hbody
      obtain ⟨operation, rfl, rfl⟩ := Option.map_eq_some_iff.1 (Except.ok.inj hbody)
      obtain ⟨request, hcurrent, hencode, hasks⟩ := hrequest operation rfl
      refine ⟨?_, request.offset, request.maximumBytes, ?_, hasks⟩
      · simp only [RangeMachine.pendingBody, hcurrent, Option.bind_some, hencode,
          Except.toOption]
      · simp only [RangeMachine.pending, hcurrent, Option.map_some]
    · have hidle : RangeMachine.pending machine = none ↔ machine.pending = none :=
        Option.map_eq_none_iff
      rw [hidle]
      refine Iff.trans ?_ hrange
      cases requested with
      | error error =>
        exact ⟨fun h => congrArg Except.error (Except.error.inj h),
          fun h => congrArg Except.error (Except.error.inj h)⟩
      | ok operation => exact iff_of_false nofun nofun
  acceptResponse := by
    intro machine chunks h machine' response reserved result hresult
    obtain ⟨hlimits, hpending, hcases⟩ := acceptResponse_spec h hresult
    refine ⟨?_, ?_, hcases⟩
    · simp only [RangeMachine.pending, hpending, Option.map_none]
    · simp only [RangeMachine.Verified, hlimits]
  abandonPending := fun _ => ⟨rfl, rfl, rfl⟩

/-- A fresh machine has accepted nothing. -/
theorem coherent_new {limits : CapabilityWire.Limits} (h : new limits = .ok machine) :
    Coherent machine [] := by
  simp only [new, Except.bind_eq_ok, Except.exists_unit, Except.pure_eq_ok] at h
  obtain ⟨-, rfl⟩ := h
  exact ⟨RangeBuffer.holds_empty, fun hsome => absurd rfl hsome⟩

/-- A reset machine has accepted nothing. -/
theorem coherent_reset : Coherent machine.reset [] :=
  ⟨RangeBuffer.holds_empty, fun hsome => absurd rfl hsome⟩

inductive Call where
  | range (call : RangeCall)
  | reset

inductive Outcome where
  | range (outcome : RangeOutcome CapabilityDownloadMachine)
  | reset

/-- A call on a machine; a reset forgets the chunks. -/
def perform (w : Download CapabilityDownloadMachine) :
    Call → Download CapabilityDownloadMachine × Outcome
  | .range call =>
    let (w, outcome) := w.perform call
    (w, .range outcome)
  | .reset => (⟨w.machine.reset, []⟩, .reset)

/-- Every call leaves a machine coherent with its chunks. -/
theorem perform_coherent [LawfulCapabilityWire] {w w' : Download CapabilityDownloadMachine}
    {call : Call} {outcome : Outcome} (h : Coherent w.machine w.chunks)
    (hcall : perform w call = (w', outcome)) : Coherent w'.machine w'.chunks := by
  cases call with
  | range call =>
    generalize hrange : w.perform call = performed
    obtain ⟨after, outcome⟩ := performed
    simp only [perform, hrange] at hcall
    cases hcall
    exact (Download.perform_coherent h hrange).1
  | reset =>
    cases hcall
    exact coherent_reset

end CapabilityDownloadMachine

/-! ## Visual assets -/

namespace VisualAssetDownloadMachine

variable [CapabilityWire] {machine machine' : VisualAssetDownloadMachine}
  {request : VisualAssetReadRequest} {response : Response} {reserved : Bool}
  {chunks : List AcceptedChunk}

theorem admit_eq_ok {metadata : VisualAssetReadResponse} {chunk : List UInt8}
    (h : machine.admitRange request response = .ok (metadata, chunk)) :
    CapabilityWire.decodeVisualAssetRead response.body = .ok (metadata, chunk) ∧
      request.offset = machine.receivedBytes ∧
      metadata.asset.digest = machine.expectedAssetDigest ∧
      ∀ pinned, machine.identity = some pinned → pinned = metadata.asset := by
  simp only [admitRange, Except.bind_eq_ok, Except.exists_unit, Except.failIf_eq_ok,
    Except.mapError_eq_ok, not_or, not_and, not_not, Except.pure_eq_ok, Prod.exists] at h
  obtain ⟨-, -, other, bytes, hdecode, ⟨-, hdigest, hoffset, hreceived, -⟩, -, hidentity,
    hsame⟩ := h
  cases hsame
  refine ⟨hdecode, hoffset.symm.trans hreceived, hdigest, ?_⟩
  intro pinned hpinned
  rw [hpinned] at hidentity
  exact Option.some.inj (hidentity rfl)

theorem nextRequest_spec [LawfulCapabilityWire] {verified : VisualAssetIdentity → List UInt8 → Prop}
    (h : machine.Holds VisualAssetIdentity.byteLen verified chunks)
    {result : Except _ (Option VisualAssetOperation)}
    (hnext : machine.nextRequest = (machine', result)) :
    machine'.toRangeBuffer = machine.toRangeBuffer ∧
      machine'.expectedAssetDigest = machine.expectedAssetDigest ∧
      (∀ request, machine'.pending = some request → machine.pending = some request ∨
        machine.complete = false) ∧
      (∀ operation, result = .ok (some operation) → ∃ request, machine'.pending = some request ∧
        CapabilityWire.encodeVisualAssetRead request = .ok operation.body ∧
        machine.Asks VisualAssetIdentity.byteLen CapabilityWire.maxVisualAssetChunkBytes
          request.offset request.maximumBytes) ∧
      (result = .error .range ↔ machine.pending = none ∧ machine.complete = false ∧
        ∃ identity, machine.identity = some identity ∧ identity.byteLen = 0) := by
  obtain ⟨hpos, hfits⟩ := LawfulCapabilityWire.visualAssetChunk
  unfold nextRequest at hnext
  dsimp only at hnext
  split at hnext
  · next hpending =>
    cases hnext
    refine ⟨rfl, rfl, fun _ => Or.inl, nofun, ?_⟩
    rw [Option.isSome_iff_ne_none] at hpending
    exact iff_of_false nofun fun hnone => hpending hnone.1
  next hidle =>
  rw [Bool.not_eq_true, Option.isSome_eq_false_iff, Option.isNone_iff_eq_none] at hidle
  split at hnext
  · next hcomplete =>
    cases hnext
    refine ⟨rfl, rfl, fun _ => Or.inl, nofun, ?_⟩
    exact iff_of_false nofun fun hopen => by simp [hcomplete] at hopen
  next hincomplete =>
  rw [Bool.not_eq_true] at hincomplete
  have hzero := h.remaining_eq_zero hincomplete hpos
  split at hnext
  · next hnothing =>
    cases hnext
    exact ⟨rfl, rfl, fun _ => Or.inl, nofun,
      iff_of_true rfl ⟨hidle, hincomplete, hzero.1 hnothing⟩⟩
  next hsome =>
  have hrange : ¬ (machine.pending = none ∧ machine.complete = false ∧
      ∃ identity, machine.identity = some identity ∧ identity.byteLen = 0) :=
    fun hempty => hsome (hzero.2 hempty.2.2)
  split at hnext
  · cases hnext
    exact ⟨rfl, rfl, fun _ _ => Or.inr hincomplete, nofun, iff_of_false nofun hrange⟩
  next body hencode =>
  cases hnext
  refine ⟨rfl, rfl, fun _ _ => Or.inr hincomplete, ?_, iff_of_false nofun hrange⟩
  rintro _ ⟨⟩
  exact ⟨_, rfl, hencode, h.asks_next hfits⟩

variable [Sha256]

instance : RangeMachine VisualAssetDownloadMachine where
  Identity := VisualAssetIdentity
  Error := VisualAssetDownloadError
  byteLen := VisualAssetIdentity.byteLen
  chunkLimit := CapabilityWire.maxVisualAssetChunkBytes
  range := .range
  buffer := toRangeBuffer
  pending machine := machine.pending.map fun request => (request.offset, request.maximumBytes)
  pendingBody machine := machine.pending.bind fun request =>
    (CapabilityWire.encodeVisualAssetRead request).toOption
  Verified machine identity bytes :=
    identity.digest = machine.expectedAssetDigest ∧
      Sha256.sha256 bytes = machine.expectedAssetDigest
  chunkOf machine response :=
    match machine.pending, CapabilityWire.decodeVisualAssetRead response.body with
    | some request, .ok (_, chunk) => some ⟨request.offset, chunk⟩
    | _, _ => none
  nextRequest machine :=
    let (machine, result) := machine.nextRequest
    (machine, result.map (Option.map VisualAssetOperation.body))
  acceptResponse := acceptResponse
  abandonPending := abandonPending

theorem acceptResponse_spec (h : Coherent machine chunks) {result : Except _ Unit}
    (haccept : machine.acceptResponse response reserved = (machine', result)) :
    machine'.expectedAssetDigest = machine.expectedAssetDigest ∧ machine'.pending = none ∧
      ((result = .ok () ∧ ∃ chunk, RangeMachine.chunkOf machine response = some chunk ∧
        (∀ pinned, machine.identity = some pinned → machine'.identity = some pinned) ∧
        machine'.Holds VisualAssetIdentity.byteLen (RangeMachine.Verified machine)
          (chunks ++ [chunk])) ∨
      (∃ error, result = .error error) ∧ machine.Keeps machine'.toRangeBuffer ∧
        machine'.Holds VisualAssetIdentity.byteLen (RangeMachine.Verified machine) chunks) := by
  unfold acceptResponse at haccept
  cases hpending : machine.pending with
  | none =>
    rw [hpending] at haccept
    cases haccept
    exact ⟨rfl, hpending, Or.inr ⟨⟨_, rfl⟩, .refl, h.holds⟩⟩
  | some request =>
    rw [hpending] at haccept
    dsimp only at haccept
    split at haccept
    · cases haccept
      exact ⟨rfl, rfl, Or.inr ⟨⟨_, rfl⟩, .refl, h.holds⟩⟩
    next metadata chunk hadmit =>
    obtain ⟨hdecode, hoffset, hdigest, hidentity⟩ := admit_eq_ok hadmit
    generalize hstore : RangeBuffer.store VisualAssetIdentity.byteLen
      VisualAssetDownloadError.allocation VisualAssetDownloadError.range _ metadata.asset chunk
        metadata.complete reserved machine.toRangeBuffer = stored at haccept
    obtain ⟨after, stored⟩ := stored
    cases haccept
    have hverify : ∀ bytes, verify { machine with pending := none } bytes = .ok () →
        RangeMachine.Verified machine metadata.asset bytes := by
      intro bytes hbytes
      simp only [verify, Except.failIf_eq_ok, not_not] at hbytes
      exact ⟨hdigest, hbytes⟩
    have hopen : machine.complete = false := by
      apply h.open_
      show machine.pending.map _ ≠ none
      rw [hpending]
      exact Option.some_ne_none _
    refine ⟨rfl, rfl, ?_⟩
    rcases RangeBuffer.store_spec h.holds hopen hidentity hverify hstore with
      ⟨rfl, hnow, hholds⟩ | ⟨herror, hholds, hreceived, -, hkept⟩
    · refine Or.inl ⟨rfl, ⟨request.offset, chunk⟩, ?_, ?_, ?_⟩
      · simp only [RangeMachine.chunkOf, hpending, hdecode]
      · intro pinned hpinned
        rw [hidentity pinned hpinned]
        exact hnow
      · rw [hoffset]
        exact hholds
    · exact Or.inr ⟨herror, h.holds.keeps hholds hreceived hkept, hholds⟩

instance [LawfulCapabilityWire] : LawfulRangeMachine VisualAssetDownloadMachine where
  nextRequest := by
    intro machine chunks h machine' result hresult
    generalize hnext : machine.nextRequest = next
    obtain ⟨next, requested⟩ := next
    simp only [RangeMachine.nextRequest, hnext] at hresult
    cases hresult
    obtain ⟨hbuffer, hexpected, hpending, hrequest, hrange⟩ := nextRequest_spec h.holds hnext
    refine ⟨hbuffer, ?_, ?_, ?_, ?_⟩
    · simp only [RangeMachine.Verified, hexpected]
    · intro hsome
      obtain ⟨⟨offset, maximumBytes⟩, hsome⟩ := Option.ne_none_iff_exists'.1 hsome
      obtain ⟨request, hcurrent, -⟩ := Option.map_eq_some_iff.1 hsome
      rcases hpending request hcurrent with hbefore | hopen
      · refine Or.inl ?_
        show machine.pending.map _ ≠ none
        rw [hbefore]
        exact Option.some_ne_none _
      · exact Or.inr hopen
    · intro body hbody
      rcases requested with error | operation
      · cases hbody
      obtain ⟨operation, rfl, rfl⟩ := Option.map_eq_some_iff.1 (Except.ok.inj hbody)
      obtain ⟨request, hcurrent, hencode, hasks⟩ := hrequest operation rfl
      refine ⟨?_, request.offset, request.maximumBytes, ?_, hasks⟩
      · simp only [RangeMachine.pendingBody, hcurrent, Option.bind_some, hencode,
          Except.toOption]
      · simp only [RangeMachine.pending, hcurrent, Option.map_some]
    · have hidle : RangeMachine.pending machine = none ↔ machine.pending = none :=
        Option.map_eq_none_iff
      rw [hidle]
      refine Iff.trans ?_ hrange
      cases requested with
      | error error =>
        exact ⟨fun h => congrArg Except.error (Except.error.inj h),
          fun h => congrArg Except.error (Except.error.inj h)⟩
      | ok operation => exact iff_of_false nofun nofun
  acceptResponse := by
    intro machine chunks h machine' response reserved result hresult
    obtain ⟨hexpected, hpending, hcases⟩ := acceptResponse_spec h hresult
    refine ⟨?_, ?_, hcases⟩
    · simp only [RangeMachine.pending, hpending, Option.map_none]
    · simp only [RangeMachine.Verified, hexpected]
  abandonPending := fun _ => ⟨rfl, rfl, rfl⟩

/-- A fresh machine has accepted nothing. -/
theorem coherent_new {capabilityDigest expectedAssetDigest : Digest} {maximumAssetBytes : UInt32}
    (h : new capabilityDigest expectedAssetDigest maximumAssetBytes = .ok machine) :
    Coherent machine [] := by
  simp only [new, Except.bind_eq_ok, Except.exists_unit, Except.pure_eq_ok] at h
  obtain ⟨-, rfl⟩ := h
  exact ⟨RangeBuffer.holds_empty, fun hsome => absurd rfl hsome⟩

end VisualAssetDownloadMachine

/-! ## Runs -/

namespace RangeDownload

/-- Every run of either machine assembles the pinned object; a request fails for its range exactly
when the pinned object has no bytes. -/
theorem assembles [CapabilityWire] [LawfulCapabilityWire] [Sha256] :
    (∀ limits machine history w, CapabilityDownloadMachine.new limits = .ok machine →
      Run (Run.Calls CapabilityDownloadMachine.perform) ⟨machine, []⟩ history w → w.Lawful) ∧
    ∀ capabilityDigest expectedAssetDigest maximumAssetBytes machine history
      (w : Download VisualAssetDownloadMachine),
      VisualAssetDownloadMachine.new capabilityDigest expectedAssetDigest maximumAssetBytes =
        .ok machine →
      Run (Run.Calls Download.perform) ⟨machine, []⟩ history w → w.Lawful := by
  constructor
  · intro limits machine history w hnew h
    have hstep : ∀ s (e : CapabilityDownloadMachine.Call × CapabilityDownloadMachine.Outcome) t,
        Run.Calls CapabilityDownloadMachine.perform s e t →
        Coherent s.machine s.chunks → Coherent t.machine t.chunks :=
      fun _ _ _ hcall hs => CapabilityDownloadMachine.perform_coherent hs hcall
    have hw : Coherent w.machine w.chunks :=
      h.invariant (p := fun w => Coherent w.machine w.chunks) hstep
        (CapabilityDownloadMachine.coherent_new hnew)
    exact Download.lawful hw
  · intro capabilityDigest expectedAssetDigest maximumAssetBytes machine history w hnew h
    have hstep : ∀ s (e : RangeCall × RangeOutcome VisualAssetDownloadMachine) t,
        Run.Calls Download.perform s e t →
        Coherent s.machine s.chunks → Coherent t.machine t.chunks :=
      fun _ _ _ hcall hs => (Download.perform_coherent hs hcall).1
    have hw : Coherent w.machine w.chunks :=
      h.invariant (p := fun w => Coherent w.machine w.chunks) hstep
        (VisualAssetDownloadMachine.coherent_new hnew)
    exact Download.lawful hw

section Sample

open Alumina.Client.HostLibrary Alumina.Graph.HostLibrary

def sampleMachine : CapabilityDownloadMachine := ⟨.empty, (1024 : UInt32), none⟩

def sampleIdentity : CapabilityIdentity := ⟨6, Sha256.sha256 [1, 2, 3, 4, 5, 6]⟩

def capabilityResponse (identity : CapabilityIdentity) (offset : UInt32) (chunk : List UInt8)
    (complete : Bool) : Response where
  status := .ok
  body := encodeCapabilityResponse ⟨identity, offset, .ofNat chunk.length, complete⟩ ++ chunk

/-- Two ranges, the second answered only after a foreign one. -/
def sampleCalls : List CapabilityDownloadMachine.Call := [
    .range .nextRequest,
    .range (.acceptResponse (capabilityResponse sampleIdentity 0 [1, 2, 3, 4] false) true),
    .range .nextRequest,
    .range (.acceptResponse (capabilityResponse ⟨6, .replicate 32 9⟩ 4 [7, 7] true) true),
    .range .nextRequest,
    .range (.acceptResponse (capabilityResponse sampleIdentity 4 [5, 6] true) true)]

def sampleAsset : VisualAssetDownloadMachine :=
  ⟨.empty, .replicate 32 3, Sha256.sha256 [7, 8, 9], 16, none⟩

def assetResponse (offset : UInt32) (chunk : List UInt8) (complete : Bool) : Response where
  status := .ok
  body := encodeVisualResponse ⟨.replicate 32 3, ⟨3, Sha256.sha256 [7, 8, 9]⟩, offset,
    .ofNat chunk.length, complete⟩ ++ chunk

def assetCalls : List RangeCall := [
    .nextRequest, .acceptResponse (assetResponse 0 [7, 8] false) true, .nextRequest,
    .abandonPending, .nextRequest, .acceptResponse (assetResponse 2 [9] true) true]

/-- Both objects are exposed as they were assembled. -/
theorem assembles_sample :
    (Run.execute CapabilityDownloadMachine.perform ⟨sampleMachine, []⟩ sampleCalls).1.Lawful ∧
      (Run.execute CapabilityDownloadMachine.perform ⟨sampleMachine, []⟩
        sampleCalls).1.machine.document = some [1, 2, 3, 4, 5, 6] ∧
      (Run.execute Download.perform ⟨sampleAsset, []⟩ assetCalls).1.Lawful ∧
      (Run.execute Download.perform ⟨sampleAsset, []⟩ assetCalls).1.machine.asset =
        some [7, 8, 9] := by
  have hlawful := @assembles _ lawfulCapabilityWire _
  have hcapability : CapabilityDownloadMachine.new (1024 : UInt32) = .ok sampleMachine := rfl
  have hasset : VisualAssetDownloadMachine.new (.replicate 32 3) (Sha256.sha256 [7, 8, 9]) 16 =
      .ok sampleAsset := by
    have hdigest : (Sha256.sha256 [7, 8, 9]).isZero = false := by decide +kernel
    simp only [VisualAssetDownloadMachine.new, hdigest]
    rfl
  refine ⟨hlawful.1 _ _ _ _ hcapability (Run.run_execute _ _ _), by decide +kernel,
    hlawful.2 _ _ _ _ _ _ hasset (Run.run_execute _ _ _), by decide +kernel⟩

/-- A range of an object of no bytes is rejected, and no request follows it. -/
def emptyCalls : List CapabilityDownloadMachine.Call := [
    .range .nextRequest,
    .range (.acceptResponse (capabilityResponse ⟨0, .replicate 32 9⟩ 0 [] false) true)]

/-- Such a request does fail for its range. -/
theorem range_reachable : ¬ ∀ limits machine history w w',
    CapabilityDownloadMachine.new limits = .ok machine →
    Run (Run.Calls CapabilityDownloadMachine.perform) ⟨machine, []⟩ history w →
    w.perform .nextRequest ≠ (w', .requested (.error .range)) := by
  intro h
  have hcapability : CapabilityDownloadMachine.new (1024 : UInt32) = .ok sampleMachine := rfl
  apply h _ _ _ _ _ hcapability (Run.run_execute _ _ emptyCalls)
  rfl

end Sample

end RangeDownload

end Alumina.Client
