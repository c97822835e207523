import Alumina.Client.HostLibrary
import Alumina.Motion.Partition

/-!
# Concrete execution blocks

A block that shows its ticks and the totals of its records, and validators that replay a chain of
them. Concrete runs of the packaging model use them, with recurrences that stay at rest.
-/

namespace Alumina.Partition.HostLibrary

open Codec (leBytes ofLeBytes ofLeBytes_leBytes length_leBytes)
open Except (failIf)
open Alumina.Client.HostLibrary Alumina.Graph.HostLibrary
open Alumina.Graph (Digest Sha256)
open Alumina.Motion (Axes ExecutionSegment ServoFiniteDifferenceSegment)

/-! ## Blocks -/

inductive BlockProblem where
  | payloadLength | sequenceOverflow | missingStreamId | discontinuity
  | blockTooLong (duration maximum : UInt64)
  deriving DecidableEq, Repr

/-- Bytes, padded to a whole block. -/
def padded (bytes : List UInt8) : Vector UInt8 512 :=
  ⟨((bytes ++ List.replicate 512 0).take 512).toArray, by
    rw [List.size_toArray, List.length_take, List.length_append, List.length_replicate]
    omega⟩

theorem toList_padded (bytes : List UInt8) :
    (padded bytes).toList = (bytes ++ List.replicate 512 0).take 512 := rfl

/-- One of the numbers of a block. -/
def word (block : Vector UInt8 512) (place : Nat) : Nat :=
  ofLeBytes ((block.toList.drop (8 * place)).take 8)

theorem word_zero (first : Nat) (rest : List UInt8) (hfirst : first < 2 ^ 64) :
    word (padded (leBytes 8 first ++ rest)) 0 = first := by
  have hbytes : ((padded (leBytes 8 first ++ rest)).toList.drop (8 * 0)).take 8 =
      leBytes 8 first := by
    rw [toList_padded, Nat.mul_zero, List.drop_zero, List.take_take, List.append_assoc]
    exact List.take_left' (length_leBytes 8 first)
  rw [word, hbytes]
  exact ofLeBytes_leBytes 8 first hfirst

theorem word_one (first second : Nat) (rest : List UInt8) (hsecond : second < 2 ^ 64) :
    word (padded (leBytes 8 first ++ (leBytes 8 second ++ rest))) 1 = second := by
  have hbytes : ((padded (leBytes 8 first ++ (leBytes 8 second ++ rest))).toList.drop
      (8 * 1)).take 8 = leBytes 8 second := by
    rw [toList_padded, Nat.mul_one, List.drop_take, List.take_take, List.append_assoc,
      List.drop_left' (length_leBytes 8 first), List.append_assoc]
    exact List.take_left' (length_leBytes 8 second)
  rw [word, hbytes]
  exact ofLeBytes_leBytes 8 second hsecond

scoped instance machineBlocks : MachineBlocks where
  BlockError := BlockProblem
  payloadLength := .payloadLength
  sequenceOverflow := .sequenceOverflow
  blockTooLong := .blockTooLong
  finiteDifferenceOneStep := 2 ^ 32
  newStreamId streamId := do
    failIf (streamId = .replicate 16 0) .missingStreamId
    pure streamId
  ExecutionBlock := Vector UInt8 512
  header block := ⟨.ofNat (word block 0), .ofNat (word block 1), Sha256.sha256 block.toList⟩
  asBytes block := block
  decode bytes := .ok bytes

/-! ## Record families -/

/-- What a validator has seen. -/
structure Replay where
  maximumBlockTicks : UInt64
  endTick : UInt64
  totals : List Int64
  blockDigest : Digest

section Families

variable {Record Limits Progress : Type} [TimedRecord Record] [HorizonLimits Limits]

/-- The ticks of the records, their totals, and the digest before. -/
def encodeRecords (capacity : Nat) (totals : List Record → List Int64) (previous : Digest) :
    List Record → Except BlockProblem (Vector UInt8 512)
  | [] => .error .payloadLength
  | record :: rest => do
    let last := rest.getLastD record
    failIf (capacity < rest.length + 1 ∨ 2 ^ 64 ≤ startTick record ∨ 2 ^ 64 ≤ endTick last)
      .payloadLength
    pure (padded (leBytes 8 (startTick record) ++ (leBytes 8 (endTick last) ++
      ((totals (record :: rest)).flatMap fun total => leBytes 8 total.toUInt64.toNat) ++
        previous.val)))

theorem encodeRecords_eq_ok {capacity : Nat} {totals : List Record → List Int64}
    {previous : Digest} {record : Record} {rest : List Record} {block : Vector UInt8 512}
    (h : encodeRecords capacity totals previous (record :: rest) = .ok block) :
    (MachineBlocks.header block).startTick.toNat = startTick record ∧
      (MachineBlocks.header block).endTick.toNat = endTick (rest.getLastD record) := by
  simp only [encodeRecords, Except.bind_eq_ok, Except.failIf_eq_ok, Except.exists_unit,
    Except.pure_eq_ok, not_or, not_le] at h
  obtain ⟨⟨-, hstart, hend⟩, rfl⟩ := h
  simp only [MachineBlocks.header, List.append_assoc]
  rw [word_zero _ _ hstart, word_one _ _ _ hend]
  exact ⟨UInt64.toNat_ofNat_of_lt' hstart, UInt64.toNat_ofNat_of_lt' hend⟩

/-- A block follows the blocks before, within the horizon. -/
def acceptBlock (replay : Replay) (block : Vector UInt8 512) : Except BlockProblem Replay := do
  let header := MachineBlocks.header block
  failIf (header.startTick ≠ replay.endTick) .discontinuity
  let ticks := header.endTick.toNat - header.startTick.toNat
  failIf (replay.maximumBlockTicks.toNat < ticks)
    (.blockTooLong (.ofNat ticks) replay.maximumBlockTicks)
  let totals := replay.totals.zipIdx.map fun (total, place) =>
    total + .ofNat (word block (place + 2))
  pure ⟨replay.maximumBlockTicks, header.endTick, totals, header.blockDigest⟩

theorem acceptBlock_eq_ok {replay next : Replay} {block : Vector UInt8 512}
    (h : acceptBlock replay block = .ok next) :
    (MachineBlocks.header block).endTick.toNat - (MachineBlocks.header block).startTick.toNat ≤
        replay.maximumBlockTicks.toNat ∧ next.maximumBlockTicks = replay.maximumBlockTicks := by
  simp only [acceptBlock, Except.bind_eq_ok, Except.failIf_eq_ok, Except.exists_unit,
    Except.pure_eq_ok, not_lt] at h
  obtain ⟨-, hticks, rfl⟩ := h
  exact ⟨hticks, rfl⟩

/-- A validator keeps where its stream starts. -/
def acceptNext {Start : Type} (validator : Start × Replay) (block : Vector UInt8 512) :
    Except BlockProblem (Start × Replay) := do
  let replay ← acceptBlock validator.2 block
  pure (validator.1, replay)

theorem acceptNext_eq_ok {Start : Type} {validator next : Start × Replay}
    {block : Vector UInt8 512} (h : acceptNext validator block = .ok next) :
    (MachineBlocks.header block).endTick.toNat - (MachineBlocks.header block).startTick.toNat ≤
        validator.2.maximumBlockTicks.toNat ∧
      next.2.maximumBlockTicks = validator.2.maximumBlockTicks := by
  simp only [acceptNext, Except.bind_eq_ok, Except.pure_eq_ok] at h
  obtain ⟨replay, hreplay, rfl⟩ := h
  exact acceptBlock_eq_ok hreplay

/-- The record family of some totals. -/
abbrev recordFamily (Start : Type) (capacity : Nat) (totals : List Record → List Int64)
    (progress : Start → Replay → Progress) : RecordFamily Record Start Limits Progress where
  maximumPerBlock := .ok capacity
  encode _ _ previous records := encodeRecords capacity totals previous records
  Validator := Start × Replay
  newValidator _ expectation start limits := .ok (start,
    ⟨HorizonLimits.maximumBlockTicks limits, expectation.startTick, totals [],
      expectation.previousDigest⟩)
  accept := acceptNext
  finish validator := .ok (progress validator.1 validator.2)

/-- A family of this kind is what the packagers rely on. -/
abbrev lawfulRecords (Start : Type) (capacity : Nat) (totals : List Record → List Int64)
    (progress : Start → Replay → Progress) :
    @LawfulRecords _ Record _ Start Limits Progress _ (recordFamily Start capacity totals progress) :=
  letI : RecordFamily Record Start Limits Progress := recordFamily Start capacity totals progress
  { maximumBlockTicks := fun validator => validator.2.maximumBlockTicks
    header_ok := fun h => encodeRecords_eq_ok h
    decode_ok := fun _ => rfl
    newValidator_ok := fun h => by
      obtain rfl := Except.ok.inj h
      rfl
    accept_ok := fun h => acceptNext_eq_ok h }

end Families

def motionTotals (segments : List ExecutionSegment) : List Int64 :=
  [(segments.map (·.deltaSteps.x)).sum, (segments.map (·.deltaSteps.y)).sum]

def motionProgress (_ : Unit) (replay : Replay) : MotionStreamProgress :=
  ⟨replay.endTick, ⟨replay.totals.getD 0 0, replay.totals.getD 1 0⟩, replay.blockDigest⟩

scoped instance motionRecords : MotionRecords := recordFamily Unit 2 motionTotals motionProgress

scoped instance lawfulMotionRecords : LawfulRecords ExecutionSegment :=
  lawfulRecords Unit 2 motionTotals motionProgress

def finiteDifferenceTotals (segments : List FiniteDifferenceSegment) : List Int64 :=
  [(segments.map fun segment => Int64.ofNat segment.updateCount.toNat).sum]

def finiteDifferenceProgress (_ : Unit) (replay : Replay) : FiniteDifferenceStreamProgress :=
  ⟨replay.endTick, ⟨0, 0⟩, ⟨0, 0⟩, (replay.totals.getD 0 0).toUInt64, replay.blockDigest⟩

scoped instance finiteDifferenceRecords : FiniteDifferenceRecords :=
  recordFamily Unit 2 finiteDifferenceTotals finiteDifferenceProgress

scoped instance lawfulFiniteDifferenceRecords : LawfulRecords FiniteDifferenceSegment :=
  lawfulRecords Unit 2 finiteDifferenceTotals finiteDifferenceProgress

def servoTotals (records : List (ServoFiniteDifferenceSegment 1)) : List Int64 :=
  [(records.map fun record => Int64.ofNat record.updateCount.toNat).sum]

def servoProgress (start : Vector Int64 1) (replay : Replay) : ServoStreamProgress 1 :=
  ⟨replay.endTick, ⟨start, #v[0], #v[0]⟩, (replay.totals.getD 0 0).toUInt64, replay.blockDigest⟩

scoped instance servoRecords : ServoRecords 1 :=
  recordFamily (Vector Int64 1) 2 servoTotals servoProgress

scoped instance lawfulServoRecords : LawfulRecords (ServoFiniteDifferenceSegment 1) :=
  lawfulRecords (Vector Int64 1) 2 servoTotals servoProgress

/-- Manifests that hash the identities of their chunks in order. -/
scoped instance manifestHashing : ManifestHashing where
  Hasher := List UInt8
  new object _ _ _ := .ok object.content.digest.val
  push hashed _ content _ := .ok (hashed ++ content.digest.val)
  finalize hashed := .ok (Client.contentOf hashed)

end Alumina.Partition.HostLibrary
