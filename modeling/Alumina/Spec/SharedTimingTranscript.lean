import Alumina.Motion.Library
import Alumina.Spec.ParticipantIdentity
import Alumina.Spec.SharedTimerSearch

/-!
# What the retiming transcript determines

A reader of the transcript recovers the reports and the streams that were written, so two schedules
with one transcript have the same ones. The transcript does not depend on the order in which the
participants were listed.

## Key results

- `readBy_transcript`: the reader recovers the reports and the streams
- `buildSharedTimingEvidence_perm`: the order of the participants does not matter
- `sharedRetiming`: the checker agrees with the search
-/

namespace Alumina.Motion

open Codec (Encoder Reads)
open Codec.Encoder (ReadBy)
open Except (failIf)
open Alumina.Client (deviceKey deviceKey_injective)
open Alumina.Graph (DeviceId Digest FixedArray GraphWireError Sha256 WireDecoder decodeArray decodeI64
  decodeU8 decodeU16 decodeU32 decodeU64 reads_array reads_i64 reads_u8 reads_u16 reads_u32 reads_u64)
open Transcript

/-! ## Fields -/

theorem readBy_u8 (value : UInt8) : ReadBy (u8 value) decodeU8 value := .append (reads_u8 value)

theorem readBy_u16 (value : UInt16) : ReadBy (u16 value) decodeU16 value :=
  .append (reads_u16 value)

theorem readBy_u32 (value : UInt32) : ReadBy (u32 value) decodeU32 value :=
  .append (reads_u32 value)

theorem readBy_u64 (value : UInt64) : ReadBy (u64 value) decodeU64 value :=
  .append (reads_u64 value)

theorem readBy_i64 (value : Int64) : ReadBy (i64 value) decodeI64 value :=
  .append (reads_i64 value)

theorem readBy_array {n : Nat} (value : FixedArray UInt8 n) :
    ReadBy (raw value.val) (decodeArray n) value :=
  .append (reads_array value)

def readUsize : WireDecoder Nat := do
  let value ← decodeU32
  return value.toNat

theorem readBy_usize (value : Nat) : ReadBy (usize value) readUsize value := by
  apply ReadBy.lift_bind
  intro _ hsmall
  rw [Except.failIf_eq_ok, not_le] at hsmall
  have hread := (readBy_u32 (.ofNat value)).map UInt32.toNat
  rwa [UInt32.toNat_ofNat_of_lt' hsmall] at hread

def readBytes : WireDecoder (List UInt8) := do
  let length ← readUsize
  Codec.take .truncated length

theorem readBy_bytes (value : List UInt8) : ReadBy (bytes value) readBytes value :=
  (readBy_usize value.length).bind (.append (Reads.take _ value))

/-- What a rational and an exact real leave in a transcript. -/
def readRational : WireDecoder (UInt8 × List UInt8 × List UInt8) := do
  let sign ← decodeU8
  let numerator ← readBytes
  let denominator ← readBytes
  return (sign, numerator, denominator)

theorem readBy_rational (value : ℚ) : ∃ fields, ReadBy (rational value) readRational fields :=
  ⟨_, (readBy_u8 _).bind ((readBy_bytes _).bind ((readBy_bytes _).map _))⟩

section Model

variable [ExactReal]

/-- A serialized real is read as its bytes; an unserializable one is never written. -/
theorem readBy_real (value : ExactReal.Real) : ∃ fields, ReadBy (real value) readBytes fields := by
  cases hencoded : encodeReal value with
  | error error =>
    refine ⟨[], ReadBy.lift_bind fun encoded hok => ?_⟩
    rw [hencoded] at hok
    cases hok
  | ok encoded =>
    refine ⟨encoded, ReadBy.lift_bind fun encoded' hok => ?_⟩
    rw [hencoded] at hok
    cases hok
    exact readBy_bytes encoded

end Model

/-! ## Records -/

def readAxis (error : Nat → MotionError) : WireDecoder MotionError := do
  let axis ← readUsize
  return error axis

/-- The fields behind the tag of a rejection. -/
def readMotionErrorOf (tag : UInt8) : WireDecoder MotionError :=
  match tag with
  | 0 => return .axisCount
  | 1 => return .timing
  | 2 => return .state
  | 3 => return .segmentFlags
  | 4 => return .segmentOrder
  | 5 => return .emptySegment
  | 6 => readAxis .positionOverflow
  | 7 => return .epochOverflow
  | 8 => return .arithmetic
  | 9 => do
    let cycle ← decodeU64
    let quantumCycles ← decodeU32
    return .outputGrid cycle quantumCycles
  | 10 => readAxis .rate
  | 11 => readAxis .pulseBoundary
  | 12 => readAxis .pulseLow
  | 13 => readAxis .directionSetup
  | 14 => readAxis .directionHold
  | 15 => readAxis .enableSetup
  | 16 => readAxis .enableHold
  | 17 => do
    let configured ← decodeU8
    let expected ← readUsize
    return .configurationAxisCount configured expected
  | 18 => readAxis .configurationAxisLayout
  | 19 => do
    let scheduled ← decodeU64
    let observed ← decodeU64
    let maximumLatenessCycles ← decodeU32
    return .deadline scheduled observed maximumLatenessCycles
  | _ => return .outputInvariant

def readMotionError : WireDecoder MotionError := do
  let tag ← decodeU8
  readMotionErrorOf tag

/-- A rejection without fields is its tag. -/
theorem readBy_tag {tag : UInt8} {error : MotionError}
    (h : readMotionErrorOf tag = return error) : ReadBy (u8 tag) readMotionError error :=
  (readBy_u8 tag).bind_nil (h ▸ Reads.pure error)

/-- A rejection at an axis is its tag and the axis. -/
theorem readBy_axis {tag : UInt8} {error : Nat → MotionError} (axis : Nat)
    (h : readMotionErrorOf tag = readAxis error) :
    ReadBy (do u8 tag; usize axis) readMotionError (error axis) := by
  apply (readBy_u8 tag).bind
  rw [h]
  exact (readBy_usize axis).map error

theorem readBy_motionError (error : MotionError) :
    ReadBy (pushMotionError error) readMotionError error := by
  cases error with
  | outputGrid cycle quantumCycles =>
    exact (readBy_u8 9).bind ((readBy_u64 cycle).bind ((readBy_u32 quantumCycles).map _))
  | configurationAxisCount configured expected =>
    exact (readBy_u8 17).bind ((readBy_u8 configured).bind ((readBy_usize expected).map _))
  | deadline scheduled observed maximumLatenessCycles =>
    exact (readBy_u8 19).bind ((readBy_u64 scheduled).bind
      ((readBy_u64 observed).bind ((readBy_u32 maximumLatenessCycles).map _)))
  | positionOverflow axis => exact readBy_axis axis rfl
  | rate axis => exact readBy_axis axis rfl
  | pulseBoundary axis => exact readBy_axis axis rfl
  | pulseLow axis => exact readBy_axis axis rfl
  | directionSetup axis => exact readBy_axis axis rfl
  | directionHold axis => exact readBy_axis axis rfl
  | enableSetup axis => exact readBy_axis axis rfl
  | enableHold axis => exact readBy_axis axis rfl
  | configurationAxisLayout axis => exact readBy_axis axis rfl
  | _ => exact readBy_tag rfl

def readExecutionSegment : WireDecoder ExecutionSegment := do
  let startTick ← decodeU64
  let endTick ← decodeU64
  let x ← decodeI64
  let y ← decodeI64
  let flags ← decodeU32
  return ⟨startTick, endTick, ⟨x, y⟩, flags⟩

theorem readBy_executionSegment (segment : ExecutionSegment) :
    ReadBy (pushExecutionSegment segment) readExecutionSegment segment :=
  (readBy_u64 _).bind ((readBy_u64 _).bind ((readBy_i64 _).bind ((readBy_i64 _).bind
    ((readBy_u32 _).map _))))

def readPreflight : WireDecoder StepperPreflightSummary := do
  let endTick ← decodeU64
  let positionX ← decodeI64
  let positionY ← decodeI64
  let emittedX ← decodeU64
  let emittedY ← decodeU64
  let segmentCount ← decodeU32
  let earliestFinishCycle ← decodeU64
  return ⟨endTick, ⟨positionX, positionY⟩, ⟨emittedX, emittedY⟩, segmentCount, earliestFinishCycle⟩

theorem readBy_preflight (preflight : StepperPreflightSummary) :
    ReadBy (pushPreflight preflight) readPreflight preflight :=
  (readBy_u64 _).bind ((readBy_i64 _).bind ((readBy_i64 _).bind ((readBy_u64 _).bind
    ((readBy_u64 _).bind ((readBy_u32 _).bind ((readBy_u64 _).map _))))))

def readAccepted : WireDecoder SharedTimerCandidateOutcome2 := do
  let preflight ← readPreflight
  return .accepted preflight

def readRejected : WireDecoder SharedTimerCandidateOutcome2 := do
  let error ← readMotionError
  return .rejected error

def readCandidateOutcome : WireDecoder SharedTimerCandidateOutcome2 := do
  let accepted ← decodeU8
  if accepted = 1 then readAccepted else readRejected

theorem readBy_candidateOutcome (outcome : SharedTimerCandidateOutcome2) :
    ReadBy (pushCandidateOutcome outcome) readCandidateOutcome outcome := by
  cases outcome with
  | accepted preflight => exact (readBy_u8 1).bind ((readBy_preflight preflight).map _)
  | rejected error => exact (readBy_u8 0).bind ((readBy_motionError error).map _)

def readPresentOutcome : WireDecoder (Option SharedTimerCandidateOutcome2) := do
  let outcome ← readCandidateOutcome
  return some outcome

def readOptionalCandidateOutcome : WireDecoder (Option SharedTimerCandidateOutcome2) := do
  let present ← decodeU8
  if present = 1 then readPresentOutcome else return none

theorem readBy_optionalCandidateOutcome (outcome : Option SharedTimerCandidateOutcome2) :
    ReadBy (pushOptionalCandidateOutcome outcome) readOptionalCandidateOutcome outcome := by
  cases outcome with
  | some outcome => exact (readBy_u8 1).bind ((readBy_candidateOutcome outcome).map _)
  | none => exact (readBy_u8 0).bind_nil (Reads.pure none)

def readReport : WireDecoder SharedTimerCandidateRoundReport2 := do
  let factorNumerator ← decodeU32
  let count ← readUsize
  let outcomes ← Codec.replicate count readCandidateOutcome
  return ⟨factorNumerator, outcomes⟩

theorem readBy_report (report : SharedTimerCandidateRoundReport2) :
    ReadBy (pushReport report) readReport report := by
  have houtcomes : ReadBy (report.outcomes.forM pushCandidateOutcome)
      (Codec.replicate report.outcomes.length readCandidateOutcome) (report.outcomes.map id) :=
    .forM fun outcome _ => readBy_candidateOutcome outcome
  rw [List.map_id] at houtcomes
  exact (readBy_u32 _).bind ((readBy_usize _).bind (houtcomes.map _))

/-! ## Streams -/

/-- The final stream of one participant and its preflight. -/
structure RetimedStream where
  ticks : List UInt64
  segments : List ExecutionSegment
  preflight : StepperPreflightSummary

def skipDigest : WireDecoder Unit := do
  let _ ← decodeArray 32
  return ()

theorem readBy_digest (digest : Digest) : ReadBy (raw digest.val) skipDigest () :=
  (readBy_array digest).map _

def skipDerivation : WireDecoder Unit := do
  skipDigest
  skipDigest
  skipDigest
  skipDigest
  let _ ← decodeU64
  skipDigest
  let _ ← decodeU64
  return ()

theorem readBy_derivation (derivation : CanonicalDerivationDigests3) :
    ReadBy (pushDerivation derivation) skipDerivation () :=
  (readBy_digest _).bind ((readBy_digest _).bind ((readBy_digest _).bind ((readBy_digest _).bind
    ((readBy_u64 _).bind ((readBy_digest _).bind ((readBy_u64 _).map _))))))

def skipPartition : WireDecoder Unit := do
  let _ ← decodeArray 16
  skipDigest
  skipDigest
  let _ ← decodeU64
  let _ ← decodeU32
  let _ ← decodeU64
  let _ ← decodeI64
  let _ ← decodeI64
  let _ ← decodeI64
  let _ ← decodeI64
  skipDigest
  let _ ← decodeU64
  return ()

theorem readBy_partition (partition : CanonicalMachinePartition2) :
    ReadBy (pushPartition partition) skipPartition () :=
  (readBy_array partition.streamId).bind ((readBy_digest _).bind ((readBy_digest _).bind
    ((readBy_u64 _).bind ((readBy_u32 _).bind ((readBy_u64 _).bind ((readBy_i64 _).bind
      ((readBy_i64 _).bind ((readBy_i64 _).bind ((readBy_i64 _).bind ((readBy_digest _).bind
        ((readBy_u64 _).map _)))))))))))

def readRetimed : WireDecoder RetimedStream := do
  let _ ← readCandidateOutcome
  let _ ← readOptionalCandidateOutcome
  let _ ← readBytes
  let _ ← readBytes
  let _ ← readBytes
  let _ ← readBytes
  let _ ← readBytes
  let tickCount ← readUsize
  let ticks ← Codec.replicate tickCount decodeU64
  let segmentCount ← readUsize
  let segments ← Codec.replicate segmentCount readExecutionSegment
  let preflight ← readPreflight
  return ⟨ticks, segments, preflight⟩

section Evidence

variable [ExactReal]

def SharedRetimedParticipant2.stream (retimed : SharedRetimedParticipant2) : RetimedStream :=
  ⟨retimed.ticks, retimed.segments, retimed.executorPreflight⟩

theorem readBy_retimed (retimed : SharedRetimedParticipant2) :
    ReadBy (pushRetimed retimed) readRetimed retimed.stream := by
  obtain ⟨_, hideal⟩ := readBy_real retimed.idealTotalTimeSeconds
  obtain ⟨_, hscheduled⟩ := readBy_real retimed.scheduledTotalTimeSeconds
  obtain ⟨_, hdelay⟩ := readBy_real retimed.maximumCumulativeDelaySeconds
  obtain ⟨_, hextension⟩ := readBy_real retimed.maximumSegmentExtensionSeconds
  obtain ⟨_, hpadding⟩ := readBy_real retimed.maximumOutputGridPaddingSeconds
  have hticks : ReadBy (retimed.ticks.forM u64) (Codec.replicate retimed.ticks.length decodeU64)
      (retimed.ticks.map id) := .forM fun tick _ => readBy_u64 tick
  have hsegments : ReadBy (retimed.segments.forM pushExecutionSegment)
      (Codec.replicate retimed.segments.length readExecutionSegment) (retimed.segments.map id) :=
    .forM fun segment _ => readBy_executionSegment segment
  rw [List.map_id] at hticks hsegments
  exact (readBy_candidateOutcome _).bind ((readBy_optionalCandidateOutcome _).bind
    (hideal.bind (hscheduled.bind (hdelay.bind (hextension.bind (hpadding.bind
      ((readBy_usize _).bind (hticks.bind ((readBy_usize _).bind (hsegments.bind
        ((readBy_preflight _).map _)))))))))))

def readParticipant : WireDecoder RetimedStream := do
  let _ ← decodeArray 16
  skipDigest
  skipDigest
  skipDerivation
  skipPartition
  readRetimed

def skipHeader : WireDecoder Unit := do
  let _ ← decodeArray 8
  let _ ← decodeU16
  let _ ← decodeU16
  let _ ← decodeU16
  let _ ← decodeU16
  let _ ← decodeU32
  let _ ← decodeU32
  let _ ← decodeU32
  let _ ← decodeU32
  let _ ← readRational
  let _ ← decodeU32
  let _ ← decodeU64
  let _ ← decodeU64
  let _ ← decodeU32
  let _ ← decodeU64
  let _ ← readBytes
  let _ ← readBytes
  return ()

theorem readBy_header (shared : SharedTimerLatticeSchedule2) :
    ReadBy (pushTranscriptHeader shared) skipHeader () := by
  obtain ⟨_, hfactor⟩ := readBy_rational shared.selectedFactor
  obtain ⟨_, hideal⟩ := readBy_real shared.idealTotalTimeSeconds
  obtain ⟨_, hscheduled⟩ := readBy_real shared.scheduledTotalTimeSeconds
  have hmagic : ReadBy (raw transcriptMagic) (decodeArray 8) ⟨transcriptMagic, rfl⟩ :=
    readBy_array ⟨transcriptMagic, rfl⟩
  exact hmagic.bind ((readBy_u16 _).bind ((readBy_u16 _).bind ((readBy_u16 _).bind
    ((readBy_u16 _).bind ((readBy_u32 _).bind ((readBy_u32 _).bind ((readBy_u32 _).bind
      ((readBy_u32 _).bind (hfactor.bind ((readBy_u32 _).bind ((readBy_u64 _).bind
        ((readBy_u64 _).bind ((readBy_u32 _).bind ((readBy_u64 _).bind (hideal.bind
          (hscheduled.map _))))))))))))))))

variable [LoweringProvenance] [DerivationDigests]

theorem readBy_participant
    (pair : SharedTimingEvidenceParticipant2 × SharedRetimedParticipant2) :
    ReadBy (pushParticipant pair) readParticipant pair.2.stream :=
  .lift_bind fun _ _ => (readBy_array pair.1.deviceId).bind ((readBy_digest _).bind
    ((readBy_digest _).bind ((readBy_derivation _).bind ((readBy_partition _).bind
      (readBy_retimed pair.2)))))

/-- The reports and the streams of a transcript, in canonical order. -/
def readTranscript :
    WireDecoder (List SharedTimerCandidateRoundReport2 × List RetimedStream) := do
  skipHeader
  let participantCount ← readUsize
  let reportCount ← readUsize
  let reports ← Codec.replicate reportCount readReport
  let streams ← Codec.replicate participantCount readParticipant
  return (reports, streams)

/-- The reader recovers the reports and the streams that were written. -/
theorem readBy_transcript {shared : SharedTimerLatticeSchedule2}
    {participants : List SharedTimingEvidenceParticipant2}
    (hlength : participants.length = shared.participants.length) :
    ReadBy (pushTranscript shared participants) readTranscript
      (shared.candidateReports, shared.participants.map SharedRetimedParticipant2.stream) := by
  have hreports : ReadBy (shared.candidateReports.forM pushReport)
      (Codec.replicate shared.candidateReports.length readReport)
      (shared.candidateReports.map id) := .forM fun report _ => readBy_report report
  have hstreams : ReadBy ((participants.zip shared.participants).forM pushParticipant)
      (Codec.replicate (participants.zip shared.participants).length readParticipant)
      ((participants.zip shared.participants).map fun pair => pair.2.stream) :=
    .forM fun pair _ => readBy_participant pair
  have hcount : (participants.zip shared.participants).length = participants.length := by
    rw [List.length_zip, hlength, min_self]
  have hsecond : (participants.zip shared.participants).map (fun pair => pair.2.stream) =
      shared.participants.map SharedRetimedParticipant2.stream := by
    have hzip := congrArg (List.map SharedRetimedParticipant2.stream)
      (List.map_snd_zip (Nat.le_of_eq hlength.symm) :
        (participants.zip shared.participants).map Prod.snd = shared.participants)
    rwa [List.map_map] at hzip
  rw [List.map_id] at hreports
  rw [hcount, hsecond] at hstreams
  exact (readBy_header shared).bind ((readBy_usize _).bind ((readBy_usize _).bind
    (hreports.bind (hstreams.map _))))

end Evidence

/-! ## Evidence -/

section Agreement

variable [ExactReal] [StepperExecutor] [LoweringProvenance] [DerivationDigests]
  {shared : SharedTimerLatticeSchedule2}
  {participants participants' : List SharedTimingEvidenceParticipant2}

/-- The order in which participants are checked and written. -/
def canonicalOrder (participants : List SharedTimingEvidenceParticipant2) :
    List SharedTimingEvidenceParticipant2 :=
  Table.sortByKey (fun participant => deviceKey participant.deviceId) participants

omit [StepperExecutor] in
theorem distinctNeighbours_eq_ok : distinctNeighbours participants = .ok () ↔
    (participants.map fun participant => deviceKey participant.deviceId).IsChain (· ≠ ·) := by
  induction participants with
  | nil => simp [distinctNeighbours]
  | cons first rest ih =>
    cases rest with
    | nil => simp [distinctNeighbours]
    | cons second rest =>
      simp only [distinctNeighbours, Except.bind_eq_ok, Except.exists_unit, Except.failIf_eq_ok,
        ih, List.map_cons, List.isChain_cons_cons, ne_eq, deviceKey_injective.eq_iff]

omit [StepperExecutor] in
/-- Neighbours that coincide are rejected as a participant set. -/
theorem distinctNeighbours_eq_error {error : SharedTimingEvidenceError}
    (h : distinctNeighbours participants = .error error) : error = .participantSetMismatch := by
  induction participants with
  | nil => cases h
  | cons first rest ih =>
    cases rest with
    | nil => cases h
    | cons second rest =>
      rw [distinctNeighbours, Except.bind_eq_error, Except.failIf_eq_error] at h
      rcases h with ⟨-, rfl⟩ | ⟨-, -, hrest⟩
      · rfl
      · exact ih hrest

omit [StepperExecutor] in
/-- A repeated device is rejected, whatever the other participants are. -/
theorem validateParticipants_of_repeated
    (h : ¬ (participants.map fun participant => deviceKey participant.deviceId).Nodup) :
    validateParticipants shared (canonicalOrder participants) =
      .error .participantSetMismatch := by
  unfold validateParticipants
  by_cases hlength : canonicalOrder participants = [] ∨
      (canonicalOrder participants).length ≠ shared.participants.length
  · rw [Except.bind_eq_error, Except.failIf_eq_error]
    exact Or.inl ⟨hlength, rfl⟩
  · rw [Except.bind_of_ok (Except.failIf_of_not hlength)]
    cases hdistinct : distinctNeighbours (canonicalOrder participants) with
    | error error =>
      rw [distinctNeighbours_eq_error hdistinct]
      rfl
    | ok _ =>
      have hkeys := Table.nodup_of_sorted_of_isChain Table.sortByKey_sorted
        (distinctNeighbours_eq_ok.1 hdistinct)
      have hnodup : ((canonicalOrder participants).map fun participant =>
        deviceKey participant.deviceId).Nodup := hkeys.imp ne_of_lt
      exact absurd ((Table.sortByKey_perm.map _).nodup_iff.1 hnodup) h

/-- The transcript does not depend on the order of the participants. -/
theorem sharedTimingTranscript_perm (h : participants.Perm participants') :
    sharedTimingTranscript shared participants = sharedTimingTranscript shared participants' := by
  by_cases hnodup : (participants.map fun participant => deviceKey participant.deviceId).Nodup
  · unfold sharedTimingTranscript
    rw [Table.sortByKey_congr h hnodup]
  · have hnodup' : ¬ (participants'.map fun participant =>
        deviceKey participant.deviceId).Nodup := by
      rwa [(h.map fun participant => deviceKey participant.deviceId).nodup_iff] at hnodup
    have hreject : validateParticipants shared (canonicalOrder participants) =
        .error .participantSetMismatch := validateParticipants_of_repeated hnodup
    have hreject' : validateParticipants shared (canonicalOrder participants') =
        .error .participantSetMismatch := validateParticipants_of_repeated hnodup'
    unfold canonicalOrder at hreject hreject'
    unfold sharedTimingTranscript
    dsimp only
    rw [hreject, hreject']
    rfl

theorem buildSharedTimingEvidence_perm [Sha256] (h : participants.Perm participants') :
    buildSharedTimingEvidence shared participants =
      buildSharedTimingEvidence shared participants' := by
  unfold buildSharedTimingEvidence
  rw [sharedTimingTranscript_perm h, h.length_eq]

/-- A transcript determines the reports and the streams it was written for. -/
theorem content_of_transcript {shared' : SharedTimerLatticeSchedule2} {transcript : List UInt8}
    (h : sharedTimingTranscript shared participants = .ok transcript)
    (h' : sharedTimingTranscript shared' participants' = .ok transcript) :
    shared.candidateReports = shared'.candidateReports ∧
      shared.participants.map SharedRetimedParticipant2.stream =
        shared'.participants.map SharedRetimedParticipant2.stream := by
  have hread {shared : SharedTimerLatticeSchedule2}
      {participants : List SharedTimingEvidenceParticipant2}
      (h : sharedTimingTranscript shared participants = .ok transcript) :
      ReadBy (pushTranscript shared (canonicalOrder participants)) readTranscript
          (shared.candidateReports, shared.participants.map SharedRetimedParticipant2.stream) ∧
        pushTranscript shared (canonicalOrder participants) [] = .ok ((), transcript) := by
    simp only [sharedTimingTranscript, validateParticipants, Except.bind_eq_ok,
      Except.exists_unit, Except.failIf_eq_ok, not_or, not_not, Except.mapError_eq_ok,
      Except.pure_eq_ok, Prod.exists] at h
    obtain ⟨⟨⟨-, hlength⟩, -, -⟩, -, written, hwritten, rfl⟩ := h
    exact ⟨readBy_transcript hlength, hwritten⟩
  obtain ⟨hreads, hwritten⟩ := hread h
  obtain ⟨hreads', hwritten'⟩ := hread h'
  have hsame := hreads.unique hreads' hwritten hwritten'
  exact ⟨congrArg Prod.fst hsame, congrArg Prod.snd hsame⟩

/-- The evidence names its transcript by its digest. -/
theorem transcript_of_build [Sha256] {evidence : CanonicalSharedTimingEvidence1}
    (h : buildSharedTimingEvidence shared participants = .ok evidence) :
    ∃ transcript, sharedTimingTranscript shared participants = .ok transcript ∧
      evidence.transcriptDigest = Sha256.sha256 transcript := by
  simp only [buildSharedTimingEvidence, Except.bind_eq_ok, Except.exists_unit,
    Except.pure_eq_ok] at h
  obtain ⟨transcript, htranscript, -, -, rfl⟩ := h
  exact ⟨transcript, htranscript, rfl⟩

/-- A transcript always has its evidence. -/
theorem build_of_transcript [Sha256] {transcript : List UInt8}
    (h : sharedTimingTranscript shared participants = .ok transcript)
    (hcount : participants.length < 2 ^ 32) :
    ∃ evidence, buildSharedTimingEvidence shared participants = .ok evidence := by
  unfold buildSharedTimingEvidence
  rw [Except.bind_of_ok h]
  dsimp only
  rw [Except.bind_of_ok (Except.failIf_of_not (not_le.2 hcount)), Except.bind_of_ok]
  · exact ⟨_, rfl⟩
  · apply Except.failIf_of_not
    simp only [List.length_append, Codec.length_leBytes, (Sha256.sha256 transcript).property,
      evidenceMagic, List.length_cons, List.length_nil, evidenceWireBytes]
    decide

/-- The digest does not confuse the transcripts of two schedules. -/
def Distinguished [Sha256] (shared shared' : SharedTimerLatticeSchedule2)
    (participants participants' : List SharedTimingEvidenceParticipant2) : Prop :=
  ∀ transcript transcript', sharedTimingTranscript shared participants = .ok transcript →
    sharedTimingTranscript shared' participants' = .ok transcript' →
    Sha256.sha256 transcript = Sha256.sha256 transcript' → transcript = transcript'

/-- The checker accepts every selected schedule; over a monotone oracle an accepted schedule names
the least accepted factor, and its bisection stays on the lattice; evidence does not depend on the
order of the participants and determines the reports and the streams. -/
theorem sharedRetiming [Sha256] :
    (∀ participants policy shared,
      selectSharedTimerLatticeSchedule participants policy = .ok shared →
        validateSearchTrace shared = .ok ()) ∧
    (∀ (shared : SharedTimerLatticeSchedule2)
      (oracle : UInt32 → List SharedTimerCandidateOutcome2),
      validateSearchTrace shared = .ok () →
      (∀ report ∈ shared.candidateReports, report.outcomes = oracle report.factorNumerator) →
      (∀ m n, shared.selectedFactorDenominator ≤ m → m ≤ n →
        n ≤ shared.maximumFactorNumerator → allAccepted (oracle m) = true →
          allAccepted (oracle n) = true) →
      IsLeast {n | shared.selectedFactorDenominator ≤ n ∧ n ≤ shared.maximumFactorNumerator ∧
        allAccepted (oracle n) = true} shared.selectedFactorNumerator) ∧
    (∀ shared : SharedTimerLatticeSchedule2, validateSearchTrace shared = .ok () →
      ReplaysWithin shared) ∧
    (∀ shared participants participants', participants.Perm participants' →
      buildSharedTimingEvidence shared participants =
        buildSharedTimingEvidence shared participants') ∧
    ∀ shared shared' participants participants' evidence evidence',
      buildSharedTimingEvidence shared participants = .ok evidence →
      buildSharedTimingEvidence shared' participants' = .ok evidence' →
      Distinguished shared shared' participants participants' →
      evidence.transcriptDigest = evidence'.transcriptDigest →
        shared.candidateReports = shared'.candidateReports ∧
          shared.participants.map SharedRetimedParticipant2.stream =
            shared'.participants.map SharedRetimedParticipant2.stream := by
  refine ⟨fun _ _ _ h => validateSearchTrace_of_select h,
    fun _ _ h htrue hmono => selected_isLeast h htrue hmono,
    fun _ h => replaysWithin_of_validateSearchTrace h,
    fun _ _ _ h => buildSharedTimingEvidence_perm h, ?_⟩
  intro shared shared' participants participants' evidence evidence' h h' hdistinguished hdigest
  obtain ⟨transcript, htranscript, hevidence⟩ := transcript_of_build h
  obtain ⟨transcript', htranscript', hevidence'⟩ := transcript_of_build h'
  have hsame := hdistinguished transcript transcript' htranscript htranscript'
    (hevidence.symm.trans (hdigest.trans hevidence'))
  subst hsame
  exact content_of_transcript htranscript htranscript'

end Agreement

/-! ## A sample -/

section Sample

open HostLibrary Graph.HostLibrary

def samplePoint (milliseconds : ℚ) (x y : Int64) : ScheduledMachinePoint2 :=
  ⟨milliseconds / 1000, ⟨x, y⟩⟩

/-- A plan at one million ticks a second on an output grid of eight ticks. -/
def sampleProgram (plan : Digest) (points : List ScheduledMachinePoint2) :
    CanonicalScheduledProgram2 :=
  ⟨.replicate 32 1, .replicate 32 2, 1000000, 8, points, plan⟩

def sampleProfile : MachineDynamicsProfile2 :=
  ⟨.replicate 32 1, .replicate 32 2, 1000000, 8, ⟨15⟩⟩

def fastPoints : List ScheduledMachinePoint2 :=
  [samplePoint 0 0 0, samplePoint 1 100 0, samplePoint 2 200 50]

def slowPoints : List ScheduledMachinePoint2 :=
  [samplePoint 0 5 5, samplePoint 1 25 5, samplePoint 2 25 45]

/-- The first controller steps too fast at factor one. -/
def sampleParticipants : List SharedTimerParticipant2 := [
    ⟨.replicate 16 2, sampleProgram (.replicate 32 8) slowPoints, sampleProfile⟩,
    ⟨.replicate 16 1, sampleProgram (.replicate 32 7) fastPoints, sampleProfile⟩]

/-- Quarters, up to factor sixteen. -/
def samplePolicy : TimerDilationPolicy := ⟨4, 64, by decide, by decide⟩

def samplePartition (initial final : Axes Int64) (endTick : UInt64) : CanonicalMachinePartition2 where
  streamId := .replicate 16 3
  capabilityDigest := .replicate 32 2
  configDigest := .replicate 32 1
  publication := ⟨⟨.machineJobPartition, ⟨.sha256, .replicate 32 4⟩, 64⟩, ⟨.sha256, .replicate 32 5⟩⟩
  blockCount := 1
  localTimerHz := 1000000
  initialPosition := initial
  finalPosition := final
  terminalProgress := ⟨.replicate 32 6, endTick⟩

def slowEvidence (endTick : UInt64) : SharedTimingEvidenceParticipant2 :=
  ⟨.replicate 16 2, (.replicate 32 8 : Digest), sampleProgram (.replicate 32 8) slowPoints,
    samplePartition ⟨5, 5⟩ ⟨25, 45⟩ endTick⟩

def fastEvidence : SharedTimingEvidenceParticipant2 :=
  ⟨.replicate 16 1, (.replicate 32 7 : Digest), sampleProgram (.replicate 32 7) fastPoints,
    samplePartition ⟨0, 0⟩ ⟨200, 50⟩ 3008⟩

theorem sampleSelects :
    (selectSharedTimerLatticeSchedule sampleParticipants samplePolicy).toOption.isSome = true := by
  decide +kernel

def sampleSchedule : SharedTimerLatticeSchedule2 :=
  (selectSharedTimerLatticeSchedule sampleParticipants samplePolicy).toOption.get sampleSelects

/-- The slow controller alone needs no dilation. -/
theorem slowSelects : (selectSharedTimerLatticeSchedule (sampleParticipants.take 1)
    samplePolicy).toOption.isSome = true := by
  decide +kernel

def slowSchedule : SharedTimerLatticeSchedule2 :=
  (selectSharedTimerLatticeSchedule (sampleParticipants.take 1)
    samplePolicy).toOption.get slowSelects

/-- The recorded outcomes, and acceptance from the selected factor on elsewhere. -/
def sampleOracle (factor : UInt32) : List SharedTimerCandidateOutcome2 :=
  match sampleSchedule.candidateReports.find? (·.factorNumerator = factor) with
  | some report => report.outcomes
  | none => if factor < 6 then [.rejected .timing] else []

/-- The sample oracle accepts exactly from the selected factor on. -/
theorem sampleOracle_accepts (factor : UInt32) :
    allAccepted (sampleOracle factor) = true ↔ ¬ factor < 6 := by
  have hreports : ∀ report ∈ sampleSchedule.candidateReports,
      (allAccepted report.outcomes = true ↔ ¬ report.factorNumerator < 6) := by decide +kernel
  unfold sampleOracle
  split
  · next report hfind =>
    have hfactor : report.factorNumerator = factor := by simpa using List.find?_some hfind
    rw [← hfactor]
    exact hreports report (List.mem_of_find?_eq_some hfind)
  · split
    · next hlow => exact iff_of_false nofun (not_not.2 hlow)
    · next hhigh => exact iff_of_true rfl hhigh

theorem sampleOracle_mono {m n : UInt32} (hle : m ≤ n) (hm : allAccepted (sampleOracle m) = true) :
    allAccepted (sampleOracle n) = true := by
  rw [sampleOracle_accepts] at hm ⊢
  exact fun hlow => hm (UInt32.lt_of_le_of_lt hle hlow)

theorem sampleOracle_true : ∀ report ∈ sampleSchedule.candidateReports,
    report.outcomes = sampleOracle report.factorNumerator := by decide +kernel

theorem sampleFactor : sampleSchedule.selectedFactorNumerator = 6 := by decide +kernel

theorem sampleSelected : selectSharedTimerLatticeSchedule sampleParticipants samplePolicy =
    .ok sampleSchedule := Except.eq_ok_get sampleSelects

theorem slowTranscript : (sharedTimingTranscript slowSchedule [slowEvidence 2000]).isOk = true := by
  decide +kernel

attribute [irreducible] sampleSchedule slowSchedule

/-- Two controllers are retimed by three halves, their evidence is the same in either order, and
the evidence of one of them is read back. -/
theorem sharedRetiming_sample :
    sampleSchedule.selectedFactorNumerator = 6 ∧
      validateSearchTrace sampleSchedule = .ok () ∧
      IsLeast {n | sampleSchedule.selectedFactorDenominator ≤ n ∧
        n ≤ sampleSchedule.maximumFactorNumerator ∧ allAccepted (sampleOracle n) = true} 6 ∧
      ReplaysWithin sampleSchedule ∧
      buildSharedTimingEvidence sampleSchedule [slowEvidence 3008, fastEvidence] =
        buildSharedTimingEvidence sampleSchedule [fastEvidence, slowEvidence 3008] ∧
      slowSchedule.candidateReports = slowSchedule.candidateReports := by
  obtain ⟨haccepts, hleast, hwithin, horder, hdetermines⟩ := sharedRetiming
  have hvalid := haccepts _ _ _ sampleSelected
  have hlattice := hleast sampleSchedule sampleOracle hvalid sampleOracle_true
    (fun m n _ hle _ hm => sampleOracle_mono hle hm)
  rw [sampleFactor] at hlattice
  have hsame := horder sampleSchedule [slowEvidence 3008, fastEvidence] [fastEvidence, slowEvidence 3008]
    (.swap _ _ _)
  obtain ⟨transcript, htranscript⟩ := Except.isOk_iff_exists.1 slowTranscript
  obtain ⟨evidence, hevidence⟩ := build_of_transcript htranscript (by decide)
  have hdistinguished : Distinguished slowSchedule slowSchedule [slowEvidence 2000] [slowEvidence 2000] :=
    fun written written' h h' _ => Except.ok.inj (h.symm.trans h')
  exact ⟨sampleFactor, hvalid, hlattice, hwithin _ hvalid, hsame,
    (hdetermines _ _ _ _ _ _ hevidence hevidence hdistinguished rfl).1⟩

end Sample

end Alumina.Motion
