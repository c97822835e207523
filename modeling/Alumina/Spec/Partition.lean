import Alumina.ForStd.GreedySplit
import Alumina.ForStd.List
import Alumina.Motion.PartitionLibrary

/-!
# Partitioning is greedy, and greedy is optimal

A block is what one pass of a packaging loop takes: at most as many records as fit a block, within
the tick horizon, or one record alone. `recordsInBlock_eq_ok` says that a pass takes the longest
block, so that the loop is a greedy split of the stream, which depends on its ticks only. That no
other cut has fewer blocks is a general fact about greedy splits.

The servo loop differs in one place: it refuses a record that is longer than the horizon, which the
other loops put alone into a block that the stream validator refuses later.

## Key results

- `recordsInBlock_eq_ok`, `largest_of_filled`: one pass takes the longest block
- `exists_greedy`: the split, from the ticks alone
- `packageLoop_eq_foldlM`: the loop encodes the groups of the greedy split
- `replayBlocks_within`: what is replayed is within the horizon
- `partition_optimal`: the cuts of the three packagers
-/

namespace Alumina.Partition

open Except (failIf)
open Alumina.Client (StorageWire)
open Alumina.Graph (Digest Sha256)
open Alumina.Motion (Axes ExecutionSegment ServoFiniteDifferenceSegment)

/-! ## Streams -/

section Streams

variable {Record : Type} [TimedRecord Record] {records group : List Record} {record : Record}

/-- The ticks of a record. -/
def tickRange (record : Record) : Nat × Nat := (startTick record, endTick record)

instance : TimedRecord (Nat × Nat) := ⟨Prod.fst, Prod.snd⟩

def duration (record : Record) : Nat := endTick record - startTick record

/-- Every record starts at the tick at which the one before ends, and none ends before it starts. -/
def Contiguous : Nat → List Record → Prop
  | _, [] => True
  | start, record :: rest =>
    startTick record = start ∧ start ≤ endTick record ∧ Contiguous (endTick record) rest

/-- The ticks from the start of the first record to the end of the last. -/
def horizon : List Record → Nat
  | [] => 0
  | record :: rest => endTick (rest.getLastD record) - startTick record

/-- No record starts before an earlier one ends. -/
structure Ordered (records : List Record) : Prop where
  forward : ∀ record ∈ records, startTick record ≤ endTick record
  chain : records.Pairwise fun earlier later => endTick earlier ≤ startTick later

theorem Ordered.tail (h : Ordered (record :: records)) : Ordered records where
  forward later hlater := h.forward later (List.mem_cons_of_mem _ hlater)
  chain := (List.pairwise_cons.mp h.chain).2

theorem Ordered.sublist (h : Ordered records) (hsublist : group.Sublist records) :
    Ordered group where
  forward record hrecord := h.forward record (hsublist.subset hrecord)
  chain := h.chain.sublist hsublist

theorem Ordered.head_le (h : Ordered (record :: records)) {later : Record}
    (hlater : later ∈ record :: records) :
    startTick record ≤ startTick later ∧ endTick record ≤ endTick later := by
  obtain rfl | hlater := List.mem_cons.mp hlater
  · exact ⟨le_refl _, le_refl _⟩
  · have hchain := (List.pairwise_cons.mp h.chain).1 later hlater
    have hfirst := h.forward record List.mem_cons_self
    have hlast := h.forward later (List.mem_cons_of_mem _ hlater)
    omega

theorem Contiguous.le_startTick {start : Nat} (h : Contiguous start records) :
    ∀ record ∈ records, start ≤ startTick record := by
  induction records generalizing start with
  | nil =>
    intro record hrecord
    cases hrecord
  | cons first rest ih =>
    obtain ⟨hstart, hle, hrest⟩ := h
    intro record hrecord
    obtain rfl | hrecord := List.mem_cons.mp hrecord
    · exact hstart.ge
    · exact hle.trans (ih hrest record hrecord)

theorem Contiguous.ordered {start : Nat} (h : Contiguous start records) : Ordered records := by
  induction records generalizing start with
  | nil => exact ⟨by simp, .nil⟩
  | cons first rest ih =>
    obtain ⟨hstart, hle, hrest⟩ := h
    obtain ⟨hforward, hchain⟩ := ih hrest
    refine ⟨?_, List.pairwise_cons.mpr ⟨hrest.le_startTick, hchain⟩⟩
    intro record hrecord
    obtain rfl | hrecord := List.mem_cons.mp hrecord
    · omega
    · exact hforward record hrecord

/-- The last record of an ordered stream ends last. -/
theorem Ordered.endTick_le (h : Ordered (record :: records)) {later : Record}
    (hlater : later ∈ record :: records) : endTick later ≤ endTick (records.getLastD record) := by
  induction records generalizing record later with
  | nil =>
    obtain rfl := List.mem_singleton.mp hlater
    exact le_refl _
  | cons second rest ih =>
    rw [List.getLastD_cons]
    obtain rfl | hlater := List.mem_cons.mp hlater
    · exact (h.head_le (List.mem_cons_of_mem _ List.mem_cons_self)).2.trans
        (ih h.tail List.mem_cons_self)
    · exact ih h.tail hlater

/-- Every record of a block ends within its horizon. -/
theorem Ordered.le_horizon (h : Ordered (record :: records)) {later : Record}
    (hlater : later ∈ record :: records) :
    endTick later - startTick record ≤ horizon (record :: records) :=
  Nat.sub_le_sub_right (h.endTick_le hlater) _

theorem Ordered.duration_le_horizon (h : Ordered records) (hrecord : record ∈ records) :
    duration record ≤ horizon records := by
  cases records with
  | nil => cases hrecord
  | cons first rest =>
    have hend := h.le_horizon hrecord
    have hstart := (h.head_le hrecord).1
    simp only [duration]
    omega

/-- What every record of a block keeps, its horizon keeps. -/
theorem horizon_le {maximum : Nat}
    (h : ∀ later ∈ record :: records, endTick later - startTick record ≤ maximum) :
    horizon (record :: records) ≤ maximum :=
  h _ (List.getLastD_mem_cons ..)

theorem Ordered.horizon_drop_le (h : Ordered records) (n : Nat) :
    horizon (records.drop n) ≤ horizon records := by
  induction n generalizing records with
  | zero => exact le_refl _
  | succ n ih =>
    cases records with
    | nil => exact le_refl _
    | cons first rest =>
      refine (ih h.tail).trans ?_
      cases rest with
      | nil => exact Nat.zero_le _
      | cons second rest =>
        have hstart := (h.head_le (List.mem_cons_of_mem _ List.mem_cons_self)).1
        simp only [horizon, List.getLastD_cons]
        omega

theorem horizon_map_tickRange (group : List Record) : horizon (group.map tickRange) = horizon group := by
  cases group with
  | nil => rfl
  | cons first rest =>
    have hlast : (rest.map tickRange).getLastD (tickRange first) =
        tickRange (rest.getLastD first) := by
      induction rest generalizing first with
      | nil => rfl
      | cons second rest ih => simp only [List.map_cons, List.getLastD_cons, ih]
    simp only [List.map_cons, horizon, hlast]
    rfl

end Streams

/-! ## Blocks -/

section Blocks

variable {Record : Type} [TimedRecord Record] {capacity maximum : Nat}
  {records group : List Record} {record : Record}

/-- What one pass may take: a block within both bounds, or one record alone. -/
def IsBlock (capacity maximum : Nat) (group : List Record) : Prop :=
  group.length ≤ capacity ∧ (horizon group ≤ maximum ∨ group.length ≤ 1)

/-- The pieces of a stream. -/
def BlockOf (capacity maximum : Nat) (records : List Record) (start next : Nat) : Prop :=
  IsBlock capacity maximum (records.extract start next)

theorem IsBlock.drop (h : IsBlock capacity maximum group) (hordered : Ordered group) (n : Nat) :
    IsBlock capacity maximum (group.drop n) := by
  obtain ⟨hlength, hhorizon | hsingle⟩ := h
  · refine ⟨?_, .inl ((hordered.horizon_drop_le n).trans hhorizon)⟩
    rw [List.length_drop]
    omega
  · refine ⟨?_, .inr ?_⟩ <;>
    · rw [List.length_drop]
      omega

theorem BlockOf.suffix (hordered : Ordered records) {a b c : Nat}
    (h : BlockOf capacity maximum records a c) (hab : a ≤ b) (hbc : b < c) :
    BlockOf capacity maximum records b c := by
  have hextract : records.extract b c = (records.extract a c).drop (b - a) := by
    simp only [List.extract_eq_take_drop]
    rw [List.drop_take, List.drop_drop]
    congr 1
    · omega
    · congr 1
      omega
  rw [BlockOf, hextract]
  refine IsBlock.drop h (hordered.sublist ?_) _
  rw [List.extract_eq_take_drop]
  exact (List.take_sublist ..).trans (List.drop_sublist ..)

theorem blockOf_map_tickRange (records : List Record) :
    BlockOf capacity maximum (records.map tickRange) = BlockOf capacity maximum records := by
  funext start next
  simp only [BlockOf, IsBlock, List.extract_eq_take_drop, ← List.map_drop, ← List.map_take,
    horizon_map_tickRange, List.length_map]

/-! ## One pass -/

/-- What the inner loop has taken when it ends, after some records before. -/
structure Filled (capacity maximum start taken : Nat) (rest : List Record) (more : Nat) :
    Prop where
  inside : more ≤ rest.length
  room : taken + more ≤ capacity
  fits : (∀ record ∈ rest.take more, endTick record - start ≤ maximum) ∨ (taken = 0 ∧ more = 1)
  full : taken + more = capacity ∨ rest.drop more = [] ∨
    ∀ record ∈ rest.drop more, maximum < endTick record - start
  advances : capacity = 0 ∨ rest = [] ∨ 0 < taken + more

theorem Filled.nothing {start taken : Nat} {rest : List Record} (htaken : taken ≤ capacity)
    (hfull : taken = capacity ∨ rest = [] ∨
      (0 < taken ∧ ∀ record ∈ rest, maximum < endTick record - start)) :
    Filled capacity maximum start taken rest 0 where
  inside := Nat.zero_le _
  room := htaken
  fits := .inl (by simp)
  full := hfull.imp id (Or.imp id And.right)
  advances := by
    obtain hfull | hfull | ⟨hfirst, -⟩ := hfull
    · omega
    · exact .inr (.inl hfull)
    · omega

theorem Filled.more {start taken more : Nat} (hrecord : endTick record - start ≤ maximum)
    (h : Filled capacity maximum start (taken + 1) records more) :
    Filled capacity maximum start taken (record :: records) (more + 1) where
  inside := Nat.succ_le_succ h.inside
  room := by
    have hroom := h.room
    omega
  fits := by
    obtain hfits | ⟨htaken, -⟩ := h.fits
    · rw [List.take_succ_cons, List.forall_mem_cons]
      exact .inl ⟨hrecord, hfits⟩
    · omega
  full := by
    rw [List.drop_succ_cons]
    obtain hfull | hrest := h.full
    · left
      omega
    · exact .inr hrest
  advances := by omega

variable [MachineBlocks] [StorageWire]

theorem candidateTicks_eq_ok {start : Nat} (segment : Nat) (h : start ≤ endTick record) :
    candidateTicks start segment record = .ok (endTick record - start) := by
  rw [candidateTicks, failIf, if_neg (by omega)]
  rfl

theorem candidateTicks_ok {start segment ticks : Nat}
    (h : candidateTicks start segment record = .ok ticks) : ticks = endTick record - start := by
  simp only [candidateTicks, Except.bind_eq_ok, Except.failIf_eq_ok, Except.exists_unit,
    Except.pure_eq_ok] at h
  exact h.2.symm

/-- The inner loop of the motion and the direct packager takes what fits. -/
theorem recordsInBlock_eq_ok (maximum cursor : Nat) {start taken : Nat} (hordered : Ordered records)
    (hstart : ∀ record ∈ records, start ≤ endTick record) (htaken : taken ≤ capacity) :
    ∃ more, recordsInBlock capacity maximum start cursor taken records = .ok (taken + more) ∧
      Filled capacity maximum start taken records more := by
  induction records generalizing taken with
  | nil => exact ⟨0, rfl, .nothing htaken (.inr (.inl rfl))⟩
  | cons record rest ih =>
    have hcandidate := candidateTicks_eq_ok (cursor + taken)
      (hstart record List.mem_cons_self)
    have hlater : maximum < endTick record - start →
        ∀ later ∈ record :: rest, maximum < endTick later - start := by
      intro hlong later hmember
      have hle := (hordered.head_le hmember).2
      omega
    by_cases hroom : taken < capacity
    · simp only [recordsInBlock, if_pos hroom, Except.bind_of_ok hcandidate]
      by_cases hlong : maximum < endTick record - start
      · by_cases hfirst : taken > 0
        · rw [if_pos ⟨hfirst, hlong⟩]
          exact ⟨0, rfl, .nothing htaken (.inr (.inr ⟨hfirst, hlater hlong⟩))⟩
        · rw [if_neg (by omega), if_pos hlong]
          refine ⟨1, by rw [show taken = 0 by omega], ⟨by simp, by omega, .inr ⟨by omega, rfl⟩,
            .inr (.inr ?_), by omega⟩⟩
          intro later hmember
          exact hlater hlong later (List.mem_cons_of_mem _ hmember)
      · rw [if_neg (by omega), if_neg hlong]
        have hnext : taken + 1 ≤ capacity := hroom
        obtain ⟨more, hmore, hfilled⟩ := ih hordered.tail
          (fun later hmember => hstart later (List.mem_cons_of_mem _ hmember)) hnext
        refine ⟨more + 1, ?_, hfilled.more (by omega)⟩
        rw [hmore, Nat.add_assoc, Nat.add_comm 1]
    · simp only [recordsInBlock, if_neg hroom]
      exact ⟨0, rfl, .nothing htaken (.inl (by omega))⟩

/-- After its first record, the servo loop does what the others do. -/
theorem servoRecordsInBlock_eq {start cursor taken : Nat} {limit : UInt64}
    (h : 0 < taken ∨ ∀ record ∈ records.head?, endTick record - start ≤ limit.toNat) :
    servoRecordsInBlock capacity limit start cursor taken records =
      recordsInBlock capacity limit.toNat start cursor taken records := by
  induction records generalizing taken with
  | nil => rfl
  | cons record rest ih =>
    by_cases hroom : taken < capacity
    · simp only [servoRecordsInBlock, recordsInBlock, if_pos hroom]
      cases hticks : candidateTicks start (cursor + taken) record with
      | error error => rfl
      | ok ticks =>
      obtain rfl := candidateTicks_ok hticks
      show (if _ then _ else _) = (if _ then _ else _)
      by_cases hlong : limit.toNat < endTick record - start
      · have htaken : taken > 0 := by
          refine h.resolve_right fun hhead => ?_
          have hfits := hhead record rfl
          omega
        rw [if_pos ⟨htaken, hlong⟩, if_pos ⟨htaken, hlong⟩]
      · rw [if_neg (by omega), if_neg hlong, if_neg (by omega), if_neg hlong]
        exact ih (.inl (by omega))
    · simp only [servoRecordsInBlock, recordsInBlock, if_neg hroom]

/-- The servo loop takes no record alone that is too long. -/
theorem le_of_servoRecordsInBlock {start cursor more : Nat} {limit : UInt64}
    (hroom : 0 < capacity)
    (h : servoRecordsInBlock capacity limit start cursor 0 (record :: records) = .ok more) :
    endTick record - start ≤ limit.toNat := by
  simp only [servoRecordsInBlock, if_pos hroom, Except.bind_eq_ok] at h
  obtain ⟨ticks, hticks, h⟩ := h
  obtain rfl := candidateTicks_ok hticks
  by_contra hlong
  rw [if_neg (by omega), if_pos (by omega)] at h
  cases h

/-- The longest block from some place on. -/
structure IsLargest (capacity maximum : Nat) (records : List Record) (start next : Nat) : Prop where
  forward : start < next
  inside : next ≤ records.length
  block : BlockOf capacity maximum records start next
  largest : ∀ other, other ≤ records.length → BlockOf capacity maximum records start other →
    other ≤ next

omit [MachineBlocks] [StorageWire] in
/-- What fits is the longest block. -/
theorem largest_of_filled {start more : Nat} {rest : List Record} (hcapacity : 0 < capacity)
    (hordered : Ordered records) (hrest : records.drop start = record :: rest)
    (h : Filled capacity maximum (startTick record) 0 (record :: rest) more) :
    IsLargest capacity maximum records start (start + more) := by
  have htail : Ordered (record :: rest) := hrest ▸ hordered.sublist (List.drop_sublist ..)
  have hlength : rest.length + 1 = records.length - start := by
    rw [← List.length_drop, hrest, List.length_cons]
  have hinside : more ≤ rest.length + 1 := h.inside
  have hroom : 0 + more ≤ capacity := h.room
  have hpos : 0 < more := by
    obtain hnone | hnone | hsome := h.advances
    · omega
    · cases hnone
    · omega
  refine ⟨by omega, by omega, ?_, ?_⟩
  · rw [BlockOf, List.extract_eq_take_drop, hrest, Nat.add_sub_cancel_left]
    refine ⟨by rw [List.length_take]; omega, ?_⟩
    obtain hfits | ⟨-, rfl⟩ := h.fits
    · left
      obtain ⟨more, rfl⟩ := Nat.exists_eq_succ_of_ne_zero hpos.ne'
      rw [List.take_succ_cons] at hfits ⊢
      exact horizon_le hfits
    · right
      rw [List.length_take]
      omega
  · intro other hother hblock
    by_contra hbeyond
    obtain ⟨taken, rfl⟩ : ∃ taken, other = start + taken := Nat.exists_eq_add_of_le (by omega)
    rw [BlockOf, List.extract_eq_take_drop, hrest, Nat.add_sub_cancel_left] at hblock
    obtain ⟨hlengthBlock, hhorizon⟩ := hblock
    rw [List.length_take, List.length_cons] at hlengthBlock
    obtain hfull | hfull | hfull := h.full
    · omega
    · rw [List.drop_eq_nil_iff, List.length_cons] at hfull
      omega
    · -- the first record left over is in the longer block, and too late for it
      have hplace : more < (record :: rest).length := by
        rw [List.length_cons]
        omega
      have hlate := hfull (record :: rest)[more] (by
        rw [List.drop_eq_getElem_cons hplace]
        exact List.mem_cons_self)
      obtain ⟨taken, rfl⟩ := Nat.exists_eq_succ_of_ne_zero (show taken ≠ 0 by omega)
      rw [List.take_succ_cons, List.length_cons, List.length_take] at hhorizon
      have hmember : (record :: rest)[more] ∈ record :: rest.take taken := by
        rw [← List.take_succ_cons]
        exact List.mem_take_iff_getElem.mpr ⟨more, by rw [List.length_cons]; omega, rfl⟩
      have hwithin := (htail.sublist (by
        rw [← List.take_succ_cons]
        exact List.take_sublist ..)).le_horizon hmember
      omega

/-- A pass of the motion and the direct packager takes the longest block. -/
theorem recordsInBlock_largest (maximum cursor : Nat) {start : Nat} {rest : List Record}
    (hcapacity : 0 < capacity)
    (hordered : Ordered records) (hrest : records.drop start = record :: rest) :
    ∃ taken, recordsInBlock capacity maximum (startTick record) cursor 0 (record :: rest) =
      .ok taken ∧ IsLargest capacity maximum records start (start + taken) := by
  have htail : Ordered (record :: rest) := hrest ▸ hordered.sublist (List.drop_sublist ..)
  obtain ⟨taken, htaken, hfilled⟩ := recordsInBlock_eq_ok maximum cursor htail
    (fun later hlater => (htail.head_le hlater).1.trans (htail.forward later hlater))
    (Nat.zero_le capacity)
  rw [Nat.zero_add] at htaken
  exact ⟨taken, htaken, largest_of_filled hcapacity hordered hrest hfilled⟩

/-! ## The whole loop -/

/-- There is a greedy split of every ordered stream. -/
theorem exists_greedy (maximum : Nat) (hcapacity : 0 < capacity) (hordered : Ordered records) {start : Nat}
    (hstart : start ≤ records.length) :
    ∃ ends, Greedy (BlockOf capacity maximum records) records.length start ends := by
  generalize hleft : records.length - start = left
  induction left using Nat.strong_induction_on generalizing start with
  | _ left ih =>
    cases hrest : records.drop start with
    | nil =>
      obtain rfl : start = records.length := by
        rw [List.drop_eq_nil_iff] at hrest
        omega
      exact ⟨[], .nil⟩
    | cons record rest =>
      obtain ⟨taken, -, hlargest⟩ := recordsInBlock_largest maximum 0
        hcapacity hordered hrest
      have hinside := hlargest.inside
      have hforward := hlargest.forward
      obtain ⟨ends, hends⟩ := ih _ (by omega) hinside rfl
      exact ⟨_, .cons hforward hlargest.block hlargest.largest hends⟩

variable {Start Limits Progress : Type} [family : RecordFamily Record Start Limits Progress]
  {identity : StreamIdentity}

/-- A loop whose passes take the longest block encodes the groups of the greedy split, and needs no
more passes than there are records. -/
theorem packageLoop_eq_foldlM
    {inBlock : Nat → Nat → Nat → List Record → MachinePartitionResult Nat}
    (hinBlock : ∀ (cursor : Nat) {start : Nat} {record : Record} {rest : List Record},
      records.drop start = record :: rest → ∃ taken,
        inBlock (startTick record) cursor 0 (record :: rest) = .ok taken ∧
          IsLargest capacity maximum records start (start + taken))
    {start passes : Nat} {ends : List Nat}
    (h : Greedy (BlockOf capacity maximum records) records.length start ends)
    (hpasses : records.length - start ≤ passes) (state : PackagedBlocks) :
    packageLoop inBlock identity passes state (records.drop start) =
      (groupsAt records start ends).foldlM (encodeBlock identity) state := by
  generalize hstop : records.length = stop at h
  induction h generalizing passes state with
  | nil =>
    rw [← hstop, List.drop_length]
    cases passes <;> rfl
  | @cons start next ends forward head largest tail ih =>
    have hnext := tail.split.le
    cases hrest : records.drop start with
    | nil =>
      rw [List.drop_eq_nil_iff] at hrest
      omega
    | cons record rest =>
      obtain ⟨passes, rfl⟩ := Nat.exists_eq_succ_of_ne_zero (show passes ≠ 0 by omega)
      obtain ⟨taken, htaken, hlargest⟩ := hinBlock state.cursor hrest
      -- the longest block is the same for the loop and for the split
      obtain rfl : start + taken = next :=
        le_antisymm (largest _ (hstop ▸ hlargest.inside) hlargest.block)
          (hlargest.largest next (hstop ▸ hnext) head)
      have hgroup : (record :: rest).take taken = records.extract start (start + taken) := by
        rw [List.extract_eq_take_drop, hrest, Nat.add_sub_cancel_left]
      have hremaining : (record :: rest).drop taken = records.drop (start + taken) := by
        rw [← hrest, List.drop_drop]
      rw [packageLoop, Except.bind_of_ok htaken, groupsAt, List.foldlM_cons, hgroup, hremaining]
      have hfewer : records.length - (start + taken) ≤ passes := by omega
      exact congrArg _ (funext fun next => ih hfewer next)

/-! ## The servo loop -/

/-- Where every record fits alone, a pass of the servo loop is one of the others. -/
theorem servoRecordsInBlock_largest (cursor : Nat) {limit : UInt64} {start : Nat}
    {rest : List Record}
    (hcapacity : 0 < capacity) (hordered : Ordered records)
    (hfits : ∀ record ∈ records, duration record ≤ limit.toNat)
    (hrest : records.drop start = record :: rest) :
    ∃ taken, servoRecordsInBlock capacity limit (startTick record) cursor 0 (record :: rest) =
      .ok taken ∧ IsLargest capacity limit.toNat records start (start + taken) := by
  have hmember : record ∈ records := List.mem_of_mem_drop (hrest ▸ List.mem_cons_self)
  rw [servoRecordsInBlock_eq (.inr fun first hfirst => by
    cases hfirst
    exact hfits record hmember)]
  exact recordsInBlock_largest _ _ hcapacity hordered hrest

/-- The servo loop ends only if every record fits alone. -/
theorem duration_le_of_servoLoop {limit : UInt64} {passes : Nat} {state packaged : PackagedBlocks}
    (hcapacity : 0 < capacity) (hordered : Ordered records)
    (h : packageLoop (servoRecordsInBlock capacity limit) identity passes state records =
      .ok packaged) : ∀ record ∈ records, duration record ≤ limit.toNat := by
  induction passes generalizing records state with
  | zero =>
    cases records with
    | nil =>
      intro record hrecord
      cases hrecord
    | cons first rest => cases h
  | succ passes ih =>
    cases records with
    | nil =>
      intro record hrecord
      cases hrecord
    | cons first rest =>
      simp only [packageLoop, Except.bind_eq_ok] at h
      obtain ⟨taken, htaken, next, -, hloop⟩ := h
      have hfirst := le_of_servoRecordsInBlock hcapacity htaken
      rw [servoRecordsInBlock_eq (.inr fun record hrecord => by
        cases hrecord
        exact hfirst)] at htaken
      obtain ⟨more, hmore, hfilled⟩ := recordsInBlock_eq_ok limit.toNat state.cursor hordered (fun later hlater =>
          (hordered.head_le hlater).1.trans (hordered.forward later hlater)) (Nat.zero_le capacity)
      obtain rfl : taken = more := by
        have hequal := Except.ok.inj (htaken.symm.trans hmore)
        omega
      have hrest := ih (hordered.sublist (List.drop_sublist ..)) hloop
      intro record hrecord
      rw [← List.take_append_drop taken (first :: rest), List.mem_append] at hrecord
      obtain hrecord | hrecord := hrecord
      · have hstart := (hordered.head_le (List.mem_of_mem_take hrecord)).1
        obtain hfits | ⟨-, rfl⟩ := hfilled.fits
        · have hend := hfits record hrecord
          simp only [duration]
          omega
        · obtain rfl := List.mem_singleton.mp hrecord
          exact hfirst
      · exact hrest record hrecord

/-! ## Ending -/

omit [TimedRecord Record] in
theorem encodeBlock_ne_unfinished (state : PackagedBlocks) (group : List Record) :
    encodeBlock identity state group ≠ .error .unfinished := by
  intro h
  simp only [encodeBlock, Except.bind_eq_error, Except.mapError_eq_error, Except.failIf_eq_error,
    Except.exists_unit] at h
  obtain ⟨_, -, h⟩ | ⟨_, -, ⟨-, h⟩ | ⟨-, ⟨-, h⟩ | ⟨-, h⟩⟩⟩ := h <;> cases h

omit family in
theorem servoRecordsInBlock_ne_unfinished {limit : UInt64} {start cursor taken : Nat} :
    servoRecordsInBlock capacity limit start cursor taken records ≠ .error .unfinished := by
  induction records generalizing taken with
  | nil =>
    intro h
    cases h
  | cons record rest ih =>
    intro h
    unfold servoRecordsInBlock at h
    split at h
    · simp only [candidateTicks, Except.bind_eq_error, Except.bind_eq_ok, Except.failIf_eq_error,
        Except.failIf_eq_ok, Except.exists_unit, Except.pure_eq_ok] at h
      obtain (⟨-, h⟩ | ⟨-, h⟩) | ⟨ticks, -, h⟩ := h
      · cases h
      · cases h
      · split at h
        · cases h
        · split at h
          · cases h
          · exact ih h
    · cases h

/-- A servo loop of as many passes as records comes to an end. -/
theorem servoLoop_ne_unfinished {limit : UInt64} {passes : Nat} {state : PackagedBlocks}
    (hcapacity : 0 < capacity) (hordered : Ordered records) (hpasses : records.length ≤ passes) :
    packageLoop (servoRecordsInBlock capacity limit) identity passes state records ≠
      .error .unfinished := by
  induction passes generalizing records state with
  | zero =>
    obtain rfl : records = [] := List.length_eq_zero_iff.mp (by omega)
    intro h
    cases h
  | succ passes ih =>
    cases records with
    | nil =>
      intro h
      cases h
    | cons first rest =>
      intro h
      simp only [packageLoop, Except.bind_eq_error] at h
      obtain h | ⟨taken, htaken, h | ⟨next, -, h⟩⟩ := h
      · exact servoRecordsInBlock_ne_unfinished h
      · exact encodeBlock_ne_unfinished _ _ h
      · have hfirst := le_of_servoRecordsInBlock hcapacity htaken
        rw [servoRecordsInBlock_eq (.inr fun record hrecord => by
          cases hrecord
          exact hfirst)] at htaken
        obtain ⟨more, hmore, hlargest⟩ := recordsInBlock_largest limit.toNat state.cursor hcapacity
          hordered (List.drop_zero (l := first :: rest))
        obtain rfl := Except.ok.inj (htaken.symm.trans hmore)
        have hforward := hlargest.forward
        refine ih (hordered.sublist (List.drop_sublist ..)) ?_ h
        rw [List.length_drop]
        omega

end Blocks

/-! ## Encoding -/

section Encoding

variable [MachineBlocks] [StorageWire] {Record : Type} [TimedRecord Record]
  {Start Limits Progress : Type} [HorizonLimits Limits]
  [family : RecordFamily Record Start Limits Progress] [LawfulRecords Record]
  {identity : StreamIdentity} {state next packaged : PackagedBlocks} {records group : List Record}
  {groups : List (List Record)}

/-- Every short enough part of a stream can be encoded. -/
def Encodes (identity : StreamIdentity) (capacity : Nat) (records : List Record) : Prop :=
  ∀ (sequence : UInt32) (previous : Digest) (group : List Record), group ≠ [] →
    group.length ≤ capacity → group.Sublist records →
    ∃ block, family.encode identity sequence previous group = .ok block

omit [TimedRecord Record] [HorizonLimits Limits] [LawfulRecords Record] in
/-- What is left of encoding one block. -/
theorem encodeBlock_eq_ok (h : encodeBlock identity state group = .ok next) :
    ∃ block, family.encode identity state.sequence state.previousDigest group = .ok block ∧
      next.bytes = state.bytes ++ [MachineBlocks.asBytes block] ∧
      next.sequence.toNat = state.sequence.toNat + 1 := by
  simp only [encodeBlock, Except.bind_eq_ok, Except.exists_unit, Except.failIf_eq_ok,
    Except.mapError_eq_ok, Except.pure_eq_ok] at h
  obtain ⟨block, hblock, -, hsequence, rfl⟩ := h
  refine ⟨block, hblock, rfl, ?_⟩
  have hlt := state.sequence.toNat_lt
  rw [UInt32.toNat_add, show (1 : UInt32).toNat = 1 from rfl, Nat.mod_eq_of_lt (by omega)]

/-- A block that can be encoded is only refused for its sequence number. -/
theorem encodeBlock_cases (state : PackagedBlocks) (hordered : Ordered group) (hgroup : group ≠ [])
    (hencodes : ∃ block, family.encode identity state.sequence state.previousDigest group =
      .ok block) :
    (state.sequence.toNat + 1 < 2 ^ 32 ∧ ∃ next, encodeBlock identity state group = .ok next) ∨
      (state.sequence.toNat + 1 = 2 ^ 32 ∧
        encodeBlock identity state group = .error (.machine MachineBlocks.sequenceOverflow)) := by
  obtain ⟨block, hblock⟩ := hencodes
  have hheader : ¬ (MachineBlocks.header block).endTick < (MachineBlocks.header block).startTick := by
    cases group with
    | nil => exact absurd rfl hgroup
    | cons record rest =>
      obtain ⟨hstart, hend⟩ := LawfulRecords.header_ok hblock
      have hforward := hordered.forward record List.mem_cons_self
      have hlast := hordered.endTick_le List.mem_cons_self
      rw [UInt64.lt_iff_toNat_lt, hstart, hend]
      omega
  have hlt := state.sequence.toNat_lt
  simp only [encodeBlock, Except.bind_of_ok (Except.mapError_eq_ok.mpr hblock),
    Except.bind_of_ok (Except.failIf_eq_ok.mpr hheader)]
  by_cases hlast : state.sequence.toNat + 1 = 2 ^ 32
  · rw [failIf, if_pos hlast]
    exact .inr ⟨hlast, rfl⟩
  · rw [failIf, if_neg hlast]
    exact .inl ⟨by omega, _, rfl⟩

/-- Blocks that can be encoded are all encoded, up to the last sequence number. -/
theorem encodeGroups_cases (state : PackagedBlocks) (hordered : ∀ group ∈ groups, Ordered group)
    (hgroups : ∀ group ∈ groups, group ≠ [])
    (hencodes : ∀ group ∈ groups, ∀ sequence previous, ∃ block,
      family.encode identity sequence previous group = .ok block) :
    (state.sequence.toNat + groups.length < 2 ^ 32 → ∃ packaged,
      groups.foldlM (encodeBlock identity) state = .ok packaged ∧
        packaged.bytes.length = state.bytes.length + groups.length) ∧
    (2 ^ 32 ≤ state.sequence.toNat + groups.length →
      groups.foldlM (encodeBlock identity) state =
        .error (.machine MachineBlocks.sequenceOverflow)) := by
  induction groups generalizing state with
  | nil =>
    have hlt := state.sequence.toNat_lt
    refine ⟨fun _ => ⟨state, rfl, rfl⟩, fun hover => ?_⟩
    rw [List.length_nil] at hover
    omega
  | cons group groups ih =>
    rw [List.forall_mem_cons] at hordered hgroups hencodes
    rw [List.length_cons, List.foldlM_cons]
    obtain ⟨hroom, next, hnext⟩ | ⟨hlast, herror⟩ :=
      encodeBlock_cases state hordered.1 hgroups.1 (hencodes.1 _ _)
    · obtain ⟨block, -, hbytes, hsequence⟩ := encodeBlock_eq_ok hnext
      obtain ⟨hcompletes, hoverflows⟩ := ih next hordered.2 hgroups.2 hencodes.2
      rw [Except.bind_of_ok hnext]
      constructor
      · intro hfits
        obtain ⟨packaged, hpackaged, hlength⟩ := hcompletes (by omega)
        refine ⟨packaged, hpackaged, ?_⟩
        rw [hlength, hbytes, List.length_append, List.length_singleton]
        omega
      · intro hover
        exact hoverflows (by omega)
    · rw [herror]
      exact ⟨fun hfits => by omega, fun _ => rfl⟩

omit [TimedRecord Record] [HorizonLimits Limits] [LawfulRecords Record] in
/-- The blocks before stay, and every group has its block. -/
theorem encodeGroups_bytes (h : groups.foldlM (encodeBlock identity) state = .ok packaged) :
    (∀ bytes ∈ state.bytes, bytes ∈ packaged.bytes) ∧
      ∀ group ∈ groups, ∃ sequence previous block,
        family.encode identity sequence previous group = .ok block ∧
          MachineBlocks.asBytes block ∈ packaged.bytes := by
  induction groups generalizing state with
  | nil =>
    obtain rfl := Except.ok.inj h
    exact ⟨fun _ hbytes => hbytes, by simp⟩
  | cons group groups ih =>
    rw [List.foldlM_cons, Except.bind_eq_ok] at h
    obtain ⟨next, hnext, hrest⟩ := h
    obtain ⟨block, hblock, hbytes, -⟩ := encodeBlock_eq_ok hnext
    obtain ⟨hkept, hgroups⟩ := ih hrest
    constructor
    · intro bytes hmember
      exact hkept bytes (by simp [hbytes, hmember])
    · rw [List.forall_mem_cons]
      exact ⟨⟨_, _, block, hblock, hkept _ (by simp [hbytes])⟩, hgroups⟩

/-! ## Replay -/

omit [TimedRecord Record] [LawfulRecords Record] [HorizonLimits Limits] in
theorem replayBlock_eq_ok {validator after : family.Validator} {encoded : Vector UInt8 512}
    (h : replayBlock validator encoded = .ok after) :
    ∃ block, MachineBlocks.decode encoded = .ok block ∧ family.accept validator block = .ok after := by
  simpa only [replayBlock, Except.bind_eq_ok, Except.mapError_eq_ok] using h

theorem replay_within {bytes : List (Vector UInt8 512)} {validator after : family.Validator}
    (h : bytes.foldlM replayBlock validator = .ok after) :
    ∀ encoded ∈ bytes, ∃ block, MachineBlocks.decode encoded = .ok block ∧
      (MachineBlocks.header block).endTick.toNat - (MachineBlocks.header block).startTick.toNat ≤
        (LawfulRecords.maximumBlockTicks validator).toNat := by
  induction bytes generalizing validator with
  | nil =>
    intro encoded hencoded
    cases hencoded
  | cons first rest ih =>
    rw [List.foldlM_cons, Except.bind_eq_ok] at h
    obtain ⟨next, hnext, hrest⟩ := h
    obtain ⟨block, hblock, haccept⟩ := replayBlock_eq_ok hnext
    obtain ⟨hwithin, hkept⟩ := LawfulRecords.accept_ok haccept
    have hlater := ih hrest
    rw [hkept] at hlater
    rw [List.forall_mem_cons]
    exact ⟨⟨block, hblock, hwithin⟩, hlater⟩

/-- A stream that replays has no block beyond the horizon. -/
theorem replayBlocks_within {policy : MachinePartitionPolicy2} {start : Start} {limits : Limits}
    {progress : Progress}
    (hpackaged : groups.foldlM (encodeBlock identity) state = .ok packaged)
    (h : replayBlocks Record policy start limits packaged = .ok progress) :
    ∀ group ∈ groups, horizon group ≤ (HorizonLimits.maximumBlockTicks limits).toNat := by
  simp only [replayBlocks, Except.bind_eq_ok, Except.mapError_eq_ok] at h
  obtain ⟨validator, hvalidator, after, hreplay, -⟩ := h
  intro group hgroup
  obtain ⟨_, _, block, hblock, hbytes⟩ := (encodeGroups_bytes hpackaged).2 group hgroup
  obtain ⟨decoded, hdecoded, hwithin⟩ := replay_within hreplay _ hbytes
  obtain rfl := Except.ok.inj ((LawfulRecords.decode_ok hblock).symm.trans hdecoded)
  rw [LawfulRecords.newValidator_ok hvalidator] at hwithin
  cases group with
  | nil => exact Nat.zero_le _
  | cons record rest =>
    obtain ⟨hstart, hend⟩ := LawfulRecords.header_ok hblock
    rw [hstart, hend] at hwithin
    exact hwithin

end Encoding

/-! ## Optimal cuts -/

section Cuts

variable {Record : Type} [TimedRecord Record] {capacity maximum : Nat} {records : List Record}
  {ends : List Nat}

/-- A cut of a stream: nothing is lost, and every block has room for its records. -/
structure IsCut (capacity : Nat) (records : List Record) (groups : List (List Record)) : Prop where
  whole : groups.flatten = records
  nonempty : ∀ group ∈ groups, group ≠ []
  room : ∀ group ∈ groups, group.length ≤ capacity

/-- A cut that keeps the horizon wherever it can be kept, with the fewest blocks. -/
structure OptimalCut (capacity maximum : Nat) (records : List Record)
    (groups : List (List Record)) : Prop extends IsCut capacity records groups where
  within : (∀ record ∈ records, duration record ≤ maximum) →
    ∀ group ∈ groups, horizon group ≤ maximum
  fewest : (∀ record ∈ records, duration record ≤ maximum) → ∀ others,
    IsCut capacity records others → (∀ group ∈ others, horizon group ≤ maximum) →
    groups.length ≤ others.length
  beyond : (∃ record ∈ records, maximum < duration record) →
    ∃ group ∈ groups, maximum < horizon group

/-- The greedy cut is optimal. -/
theorem optimalCut_of_greedy (hordered : Ordered records)
    (h : Greedy (BlockOf capacity maximum records) records.length 0 ends) :
    OptimalCut capacity maximum records (groupsAt records 0 ends) := by
  have hwhole : (groupsAt records 0 ends).flatten = records := h.split.flatten_groupsAt
  have hblocks : ∀ group ∈ groupsAt records 0 ends, IsBlock capacity maximum group :=
    Split.forall_groupsAt h.split
  have hnonempty := h.split.forall_groupsAt_ne_nil
  refine ⟨⟨hwhole, hnonempty, fun group hgroup => (hblocks group hgroup).1⟩, ?_, ?_, ?_⟩
  · intro hfits group hgroup
    obtain hhorizon | hsingle := (hblocks group hgroup).2
    · exact hhorizon
    · cases group with
      | nil => exact absurd rfl (hnonempty [] hgroup)
      | cons record rest =>
        obtain rfl : rest = [] := List.length_eq_zero_iff.mp (by
          rw [List.length_cons] at hsingle
          omega)
        refine hfits record ?_
        rw [← hwhole]
        exact List.mem_flatten.mpr ⟨_, hgroup, List.mem_cons_self⟩
  · intro hfits others hcut hothers
    rw [length_groupsAt]
    exact h.length_le_groups (fun hblock hle hlt => BlockOf.suffix hordered hblock hle hlt)
      hcut.whole fun group hgroup =>
        ⟨hcut.nonempty group hgroup, hcut.room group hgroup, .inl (hothers group hgroup)⟩
  · rintro ⟨record, hrecord, hlong⟩
    rw [← hwhole, List.mem_flatten] at hrecord
    obtain ⟨group, hgroup, hmember⟩ := hrecord
    have hsublist : group.Sublist records := by
      have hsub := List.sublist_flatten_of_mem hgroup
      rwa [hwhole] at hsub
    exact ⟨group, hgroup, hlong.trans_le ((hordered.sublist hsublist).duration_le_horizon hmember)⟩

theorem contiguous_map_tickRange {start : Nat} (records : List Record) :
    Contiguous start (records.map tickRange) ↔ Contiguous start records := by
  induction records generalizing start with
  | nil => exact Iff.rfl
  | cons record rest ih => exact and_congr Iff.rfl (and_congr Iff.rfl ih)

variable [MachineBlocks] [StorageWire] {Start Limits Progress : Type}
  [family : RecordFamily Record Start Limits Progress] {identity : StreamIdentity}

/-- What a packaging loop made of a stream that it cut at some places. -/
structure PackagedAt (identity : StreamIdentity) (capacity maximum : Nat) (records : List Record)
    (ends : List Nat) (result : MachinePartitionResult PackagedBlocks) : Prop where
  cut : OptimalCut capacity maximum records (groupsAt records 0 ends)
  encoded : result = (groupsAt records 0 ends).foldlM (encodeBlock identity) .empty
  finishes : result ≠ .error .unfinished
  completes : Encodes identity capacity records → ends.length < 2 ^ 32 → ∃ packaged,
    result = .ok packaged ∧ packaged.bytes.length = ends.length
  overflows : Encodes identity capacity records → 2 ^ 32 ≤ ends.length →
    result = .error (.machine MachineBlocks.sequenceOverflow)

omit [TimedRecord Record] in
theorem encodeGroups_ne_unfinished (groups : List (List Record)) (state : PackagedBlocks) :
    groups.foldlM (encodeBlock identity) state ≠ .error .unfinished := by
  induction groups generalizing state with
  | nil =>
    intro h
    cases h
  | cons group groups ih =>
    intro h
    rw [List.foldlM_cons, Except.bind_eq_error] at h
    obtain h | ⟨next, -, h⟩ := h
    · exact encodeBlock_ne_unfinished _ _ h
    · exact ih next h

variable [HorizonLimits Limits] [LawfulRecords Record]

/-- A loop that encodes the groups of the greedy split. -/
theorem packagedAt_of_greedy (hordered : Ordered records)
    (h : Greedy (BlockOf capacity maximum records) records.length 0 ends)
    {result : MachinePartitionResult PackagedBlocks}
    (hresult : result = (groupsAt records 0 ends).foldlM (encodeBlock identity) .empty) :
    PackagedAt identity capacity maximum records ends result := by
  have hcut := optimalCut_of_greedy hordered h
  have hsublist : ∀ group ∈ groupsAt records 0 ends, group.Sublist records := by
    intro group hgroup
    have hsub := List.sublist_flatten_of_mem hgroup
    rwa [hcut.whole] at hsub
  have hcases := fun hencodes : Encodes identity capacity records =>
    encodeGroups_cases .empty (fun group hgroup => hordered.sublist (hsublist group hgroup))
      hcut.nonempty fun group hgroup sequence previous =>
        hencodes sequence previous group (hcut.nonempty group hgroup) (hcut.room group hgroup)
          (hsublist group hgroup)
  rw [length_groupsAt, show PackagedBlocks.empty.sequence.toNat = 0 from rfl,
    show PackagedBlocks.empty.bytes.length = 0 from rfl, Nat.zero_add] at hcases
  rw [hresult]
  exact
    { cut := hcut
      encoded := rfl
      finishes := encodeGroups_ne_unfinished _ _
      completes := fun hencodes => (hcases hencodes).1
      overflows := fun hencodes => (hcases hencodes).2 }

/-- A program whose blocks all replay has no record beyond the horizon. -/
theorem not_beyond_of_replay {policy : MachinePartitionPolicy2} {start : Start} {limits : Limits}
    {progress : Progress} {packaged : PackagedBlocks}
    {result : MachinePartitionResult PackagedBlocks}
    (hpackagedAt : PackagedAt identity capacity maximum records ends result)
    (hlimits : (HorizonLimits.maximumBlockTicks limits).toNat = maximum)
    (hresult : result = .ok packaged)
    (hreplay : replayBlocks Record policy start limits packaged = .ok progress) :
    ¬ ∃ record ∈ records, maximum < duration record := by
  intro hbeyond
  obtain ⟨group, hgroup, hlong⟩ := hpackagedAt.cut.beyond hbeyond
  have hpackaged := hpackagedAt.encoded.symm.trans hresult
  have hwithin := replayBlocks_within hpackaged hreplay group hgroup
  omega

omit [LawfulRecords Record] [HorizonLimits Limits] in
/-- A result that is none is a rejection. -/
theorem exists_error_of_ne_ok {α : Type} {result : MachinePartitionResult α}
    (h : ∀ value, result ≠ .ok value) : ∃ error, result = .error error := by
  cases result with
  | error error => exact ⟨error, rfl⟩
  | ok value => exact absurd rfl (h value)

end Cuts

/-! ## The three packagers -/

section Packagers

variable [MachineBlocks] [StorageWire]

section Family

variable {Record Start Limits Progress : Type} [TimedRecord Record] [HorizonLimits Limits]
  [RecordFamily Record Start Limits Progress] [LawfulRecords Record] {records : List Record}
  {capacity : Nat} {identity : StreamIdentity} {maximum : UInt64}

/-- Both loops, on a stream whose greedy split is known from its ticks. -/
theorem packagedAt_of_ticks (hcontiguous : Contiguous 0 records) (hcapacity : 0 < capacity)
    {ends : List Nat}
    (hends : Greedy (BlockOf capacity maximum.toNat (records.map tickRange)) records.length 0 ends) :
    PackagedAt identity capacity maximum.toNat records ends
        (packageBlocks capacity maximum identity records) ∧
      ((∀ record ∈ records, duration record ≤ maximum.toNat) →
        PackagedAt identity capacity maximum.toNat records ends
          (packageServoBlocks capacity maximum identity records)) := by
  have hordered := hcontiguous.ordered
  rw [blockOf_map_tickRange] at hends
  constructor
  · exact packagedAt_of_greedy hordered hends (packageLoop_eq_foldlM
      (fun cursor _ _ _ hrest => recordsInBlock_largest _ cursor hcapacity hordered hrest) hends
      (Nat.sub_le ..) .empty)
  · intro hfits
    exact packagedAt_of_greedy hordered hends (packageLoop_eq_foldlM
      (fun cursor _ _ _ hrest => servoRecordsInBlock_largest cursor hcapacity hordered hfits hrest)
      hends (Nat.sub_le ..) .empty)

/-- A stream with a record beyond the horizon does not replay. -/
theorem not_beyond_of_packaged {policy : MachinePartitionPolicy2} {start : Start} {limits : Limits}
    {progress : Progress} {packaged : PackagedBlocks} (hcontiguous : Contiguous 0 records)
    (hcapacity : capacity ≠ 0) (hlimits : HorizonLimits.maximumBlockTicks limits = maximum)
    (hpackaged : packageBlocks capacity maximum identity records = .ok packaged)
    (hreplay : replayBlocks Record policy start limits packaged = .ok progress) :
    ¬ ∃ record ∈ records, maximum.toNat < duration record := by
  have hordered := ((contiguous_map_tickRange records).mpr hcontiguous).ordered
  obtain ⟨ends, hends⟩ := exists_greedy maximum.toNat
    (Nat.pos_of_ne_zero hcapacity) hordered (Nat.zero_le _)
  rw [List.length_map] at hends
  have hat : PackagedAt identity capacity maximum.toNat records ends
      (packageBlocks capacity maximum identity records) :=
    (packagedAt_of_ticks hcontiguous (Nat.pos_of_ne_zero hcapacity) hends).1
  exact not_beyond_of_replay hat (congrArg UInt64.toNat hlimits) hpackaged hreplay

end Family

variable {axes : Nat} [ManifestHashing] [Sha256]

theorem packageCanonicalSegments_beyond [MotionRecords] [LawfulRecords ExecutionSegment]
    {segments : List ExecutionSegment}
    (hcontiguous : Contiguous 0 segments) (initial final : Axes Int64) (timer : UInt64)
    {policy : MachinePartitionPolicy2}
    (hbeyond : ∃ segment ∈ segments,
      policy.blockLimits.maximumBlockTicks.toNat < duration segment) :
    ∃ error, packageCanonicalSegments segments initial final timer policy = .error error := by
  refine exists_error_of_ne_ok fun partition h => ?_
  simp only [packageCanonicalSegments, Except.bind_eq_ok, Except.exists_unit,
    Except.failIf_eq_ok] at h
  obtain ⟨_, -, -, capacity, -, hcapacity, packaged, hpackaged, progress, hreplay, -⟩ := h
  exact not_beyond_of_packaged hcontiguous hcapacity rfl hpackaged hreplay hbeyond

theorem packageCanonicalFiniteDifferenceSegments_beyond [FiniteDifferenceRecords]
    [LawfulRecords FiniteDifferenceSegment] {segments : List FiniteDifferenceSegment}
    (hcontiguous : Contiguous 0 segments) (initial final finite : Axes Int64)
    (updates timer : UInt64) {policy : MachinePartitionPolicy2}
    (hbeyond : ∃ segment ∈ segments,
      policy.blockLimits.maximumBlockTicks.toNat < duration segment) :
    ∃ error, packageCanonicalFiniteDifferenceSegments segments initial final finite updates timer
      policy = .error error := by
  refine exists_error_of_ne_ok fun partition h => ?_
  simp only [packageCanonicalFiniteDifferenceSegments, Except.bind_eq_ok, Except.exists_unit,
    Except.failIf_eq_ok] at h
  obtain ⟨_, -, -, capacity, -, hcapacity, _, -, packaged, hpackaged, progress, hreplay, -⟩ := h
  exact not_beyond_of_packaged hcontiguous hcapacity rfl hpackaged hreplay hbeyond

theorem packageCanonicalServoProgram_beyond [ServoRecords axes]
    {program : CanonicalServoFiniteDifferenceProgram axes}
    (hcontiguous : Contiguous 0 program.records) {policy : MachinePartitionPolicy2}
    (hbeyond : ∃ record ∈ program.records,
      policy.blockLimits.maximumBlockTicks.toNat < duration record) :
    ∃ error, packageCanonicalServoProgram program policy = .error error := by
  refine exists_error_of_ne_ok fun partition h => ?_
  simp only [packageCanonicalServoProgram, Except.bind_eq_ok, Except.exists_unit,
    Except.failIf_eq_ok, not_or, not_not] at h
  obtain ⟨-, delta, -, hlimits, _, -, -, capacity, -, hcapacity, packaged, hpackaged, -⟩ := h
  obtain ⟨record, hrecord, hlong⟩ := hbeyond
  have hfits := duration_le_of_servoLoop (Nat.pos_of_ne_zero hcapacity) hcontiguous.ordered
    hpackaged record hrecord
  rw [hlimits.1] at hfits
  omega

/-- For one tick sequence the packagers choose the same cuts, and these are optimal. A record beyond
the horizon ends up in a block beyond it, and is refused: by the replay, and by the servo loop
itself. -/
theorem partition_optimal [MotionRecords] [FiniteDifferenceRecords] [ServoRecords axes]
    [LawfulRecords ExecutionSegment] [LawfulRecords FiniteDifferenceSegment]
    [LawfulRecords (ServoFiniteDifferenceSegment axes)] :
    (∀ {ticks : List (Nat × Nat)} {capacity : Nat} (maximum : UInt64) (identity : StreamIdentity),
      Contiguous 0 ticks → 0 < capacity → ∃ ends,
        (∀ segments : List ExecutionSegment, segments.map tickRange = ticks →
          PackagedAt identity capacity maximum.toNat segments ends
            (packageBlocks capacity maximum identity segments)) ∧
        (∀ segments : List FiniteDifferenceSegment, segments.map tickRange = ticks →
          PackagedAt identity capacity maximum.toNat segments ends
            (packageBlocks capacity maximum identity segments)) ∧
        ∀ records : List (ServoFiniteDifferenceSegment axes), records.map tickRange = ticks →
          ((∀ record ∈ records, duration record ≤ maximum.toNat) →
            PackagedAt identity capacity maximum.toNat records ends
              (packageServoBlocks capacity maximum identity records)) ∧
          ((∃ record ∈ records, maximum.toNat < duration record) → ∃ error,
            packageServoBlocks capacity maximum identity records = .error error ∧
              packageServoBlocks capacity maximum identity records ≠ .error .unfinished)) ∧
    (∀ {segments : List ExecutionSegment} (initial final : Axes Int64) (timer : UInt64)
      (policy : MachinePartitionPolicy2), Contiguous 0 segments →
      (∃ segment ∈ segments, policy.blockLimits.maximumBlockTicks.toNat < duration segment) →
      ∃ error, packageCanonicalSegments segments initial final timer policy = .error error) ∧
    (∀ {segments : List FiniteDifferenceSegment} (initial final finite : Axes Int64)
      (updates timer : UInt64) (policy : MachinePartitionPolicy2), Contiguous 0 segments →
      (∃ segment ∈ segments, policy.blockLimits.maximumBlockTicks.toNat < duration segment) →
      ∃ error, packageCanonicalFiniteDifferenceSegments segments initial final finite updates timer
        policy = .error error) ∧
    ∀ (program : CanonicalServoFiniteDifferenceProgram axes) (policy : MachinePartitionPolicy2),
      Contiguous 0 program.records →
      (∃ record ∈ program.records,
        policy.blockLimits.maximumBlockTicks.toNat < duration record) →
      ∃ error, packageCanonicalServoProgram program policy = .error error := by
  refine ⟨?_, fun initial final timer policy hcontiguous hbeyond =>
      packageCanonicalSegments_beyond hcontiguous initial final timer hbeyond,
    fun initial final finite updates timer policy hcontiguous hbeyond =>
      packageCanonicalFiniteDifferenceSegments_beyond hcontiguous initial final finite updates timer
        hbeyond,
    fun program policy hcontiguous hbeyond =>
      packageCanonicalServoProgram_beyond hcontiguous hbeyond⟩
  intro ticks capacity maximum identity hcontiguous hcapacity
  obtain ⟨ends, hends⟩ := exists_greedy maximum.toNat hcapacity hcontiguous.ordered
    (Nat.zero_le _)
  refine ⟨ends, ?_, ?_, ?_⟩
  · rintro segments rfl
    rw [List.length_map] at hends
    exact (packagedAt_of_ticks ((contiguous_map_tickRange _).mp hcontiguous) hcapacity hends).1
  · rintro segments rfl
    rw [List.length_map] at hends
    exact (packagedAt_of_ticks ((contiguous_map_tickRange _).mp hcontiguous) hcapacity hends).1
  · rintro records rfl
    rw [List.length_map] at hends
    rw [contiguous_map_tickRange] at hcontiguous
    refine ⟨(packagedAt_of_ticks hcontiguous hcapacity hends).2, ?_⟩
    rintro ⟨record, hrecord, hlong⟩
    have hrefused : ∀ packaged,
        packageServoBlocks capacity maximum identity records ≠ .ok packaged := by
      intro packaged h
      have hfits := duration_le_of_servoLoop hcapacity hcontiguous.ordered h record hrecord
      omega
    obtain ⟨error, herror⟩ := exists_error_of_ne_ok hrefused
    exact ⟨error, herror, servoLoop_ne_unfinished hcapacity hcontiguous.ordered (le_refl _)⟩

end Packagers

/-! ## Three records -/

open HostLibrary Alumina.Client.HostLibrary Alumina.Graph.HostLibrary

def sampleIdentity : StreamIdentity := ⟨.replicate 16 1, .replicate 32 2, .replicate 32 3⟩

def sampleTicks : List (Nat × Nat) := [(0, 3), (3, 5), (5, 9)]

def sampleSegments : List ExecutionSegment :=
  [⟨0, 3, ⟨1, 0⟩, 0⟩, ⟨3, 5, ⟨0, 1⟩, 0⟩, ⟨5, 9, ⟨1, 1⟩, 0⟩]

def restAxis : Motion.ServoFiniteDifferenceAxis := ⟨⟨0, 0, 0, 0⟩, ⟨0, 0, 0, 0⟩, ⟨0, 0, 0, 0⟩⟩

def restRecord (startTick endTick : Nat) : ServoFiniteDifferenceSegment 1 :=
  ⟨startTick, endTick, 1, .ofNat (endTick - startTick), #v[restAxis], 0⟩

def sampleRecords : List (ServoFiniteDifferenceSegment 1) :=
  [restRecord 0 3, restRecord 3 5, restRecord 5 9]

/-- The motion and the servo packager cut the stream at the same places. -/
theorem partition_optimal_sample : ∃ ends,
    PackagedAt sampleIdentity 2 5 sampleSegments ends
        (packageBlocks 2 5 sampleIdentity sampleSegments) ∧
      PackagedAt sampleIdentity 2 5 sampleRecords ends
        (packageServoBlocks 2 5 sampleIdentity sampleRecords) := by
  have hticks : Contiguous 0 sampleTicks := by
    simp only [Contiguous, sampleTicks, startTick, endTick]
    decide
  obtain ⟨ends, hmotion, -, hservo⟩ :=
    (@partition_optimal _ _ 1 _ _ _ _ _ _ _ _).1 5 sampleIdentity hticks (show 0 < 2 by decide)
  exact ⟨ends, hmotion sampleSegments rfl, (hservo sampleRecords rfl).1 (by decide)⟩

def longSegment : ExecutionSegment := ⟨0, 10, ⟨1, 0⟩, 0⟩

/-- A single record beyond the horizon: the motion packager cuts it off, the servo packager makes no
cut. -/
theorem partition_differs_on_longRecord :
    [longSegment].map tickRange = [restRecord 0 10].map tickRange ∧
      (packageBlocks 1 5 sampleIdentity [longSegment]).isOk = true ∧
      packageServoBlocks 1 5 sampleIdentity [restRecord 0 10] =
        .error (.machine (.blockTooLong 10 5)) := by
  refine ⟨rfl, by decide +kernel, rfl⟩

end Alumina.Partition
