import Alumina.Client.OwnedUploadSource
import Alumina.ForStd.List
import Alumina.Spec.CacheUpload

/-!
# Chunks tile the object

The range of a chunk, its expected length and the length of a prefix are computed by three
functions. For an accepted source they agree: cutting the bytes every `chunkBytes` gives a list
of chunks from which each of them can be read off.

## Key results

- `chunkRange_eq`: where a chunk lies
- `OwnedUploadSource.tryNewShared_eq_ok`: what an accepted source keeps
- `OwnedUploadSource.uploadChunks`: the chunks of an accepted source tile its object
-/

namespace Alumina.Client

open Except (failIf)
open Alumina.Graph (Sha256)

/-! ## Plans -/

/-- A plan cuts its object into at least one chunk, and into no more than it needs. -/
structure UploadPlan.Cuts (plan : UploadPlan) : Prop where
  chunkBytes : plan.chunkBytes ≠ 0
  chunkCount : 1 ≤ plan.chunkCount.toNat
  ceil : plan.chunkCount.toNat =
    (plan.object.byteLen.toNat + plan.chunkBytes.toNat - 1) / plan.chunkBytes.toNat

/-- An accepted plan has chunks of positive length, as many as the object needs. -/
class LawfulUploadPlans [StorageWire] : Prop where
  cuts {plan : UploadPlan} {limits : CacheLimits} :
    StorageWire.validatePlan plan limits = .ok () → plan.Cuts

namespace UploadPlan

variable {plan : UploadPlan} {index : Nat}

theorem Cuts.pos (h : plan.Cuts) : 0 < plan.chunkBytes.toNat := by
  have hne := h.chunkBytes
  rw [Ne, ← UInt32.toNat_inj] at hne
  exact Nat.pos_of_ne_zero hne

/-- Every chunk starts inside the object. -/
theorem Cuts.starts (h : plan.Cuts) (hindex : index < plan.chunkCount.toNat) :
    index * plan.chunkBytes.toNat < plan.object.byteLen.toNat := by
  have hpos := h.pos
  rw [h.ceil, ← Nat.succ_le_iff, Nat.le_div_iff_mul_le hpos, Nat.succ_mul] at hindex
  omega

/-- The chunks reach to the end of the object. -/
theorem Cuts.covers (h : plan.Cuts) :
    plan.object.byteLen.toNat ≤ plan.chunkCount.toNat * plan.chunkBytes.toNat := by
  have hpos := h.pos
  have hdiv := Nat.div_add_mod (plan.object.byteLen.toNat + plan.chunkBytes.toNat - 1)
    plan.chunkBytes.toNat
  have hmod := Nat.mod_lt (plan.object.byteLen.toNat + plan.chunkBytes.toNat - 1) hpos
  rw [h.ceil, Nat.mul_comm]
  omega

/-- A chunk before the last one ends inside the object. -/
theorem Cuts.ends (h : plan.Cuts) (hindex : index + 1 < plan.chunkCount.toNat) :
    (index + 1) * plan.chunkBytes.toNat ≤ plan.object.byteLen.toNat :=
  Nat.le_of_lt (h.starts hindex)

end UploadPlan

/-! ## Ranges -/

theorem PointerWidth.usize_of_lt {width : PointerWidth} {value : Nat}
    (h : value < width.usizeValues) : width.usize value = some value := by
  rw [usize, if_pos h]

/-- Thirty-two bits fit every `usize`. -/
theorem PointerWidth.fits_u32 (width : PointerWidth) : 2 ^ 32 ≤ width.usizeValues := by
  cases width <;> decide

/-- A chunk lies where its index says, and the last one ends with the object. -/
theorem chunkRange_eq {width : PointerWidth} {plan : UploadPlan} {index : UInt32}
    (hcuts : plan.Cuts) (hfits : 2 * plan.object.byteLen.toNat < width.usizeValues)
    (hindex : index.toNat < plan.chunkCount.toNat) :
    chunkRange width plan plan.object.byteLen.toNat index =
      some (index.toNat * plan.chunkBytes.toNat,
        min (index.toNat * plan.chunkBytes.toNat + plan.chunkBytes.toNat)
          plan.object.byteLen.toNat) := by
  have hpos := hcuts.pos
  have hstart := hcuts.starts hindex
  have hlength := plan.object.byteLen.toNat_lt
  have hchunk := plan.chunkBytes.toNat_lt
  have hwide := width.fits_u32
  have hproduct : (index.toUInt64.checkedMul plan.chunkBytes.toUInt64) =
      some (.ofNat (index.toNat * plan.chunkBytes.toNat)) := by
    rw [UInt64.checkedMul_eq_some, UInt64.toNat_ofNat_of_lt' (by rw [UInt64.size]; omega)]
    rfl
  have htoNat : (UInt64.ofNat (index.toNat * plan.chunkBytes.toNat)).toNat =
      index.toNat * plan.chunkBytes.toNat :=
    UInt64.toNat_ofNat_of_lt' (by rw [UInt64.size]; omega)
  -- a chunk after the first one is no longer than what precedes it
  have hsum : index.toNat * plan.chunkBytes.toNat + plan.chunkBytes.toNat <
      width.usizeValues := by
    by_cases hfirst : index.toNat = 0
    · rw [hfirst]
      omega
    · have hmul := Nat.le_mul_of_pos_left plan.chunkBytes.toNat (Nat.pos_of_ne_zero hfirst)
      omega
  unfold chunkRange
  rw [if_neg (by rw [UInt32.not_le, UInt32.lt_iff_toNat_lt]; exact hindex), hproduct]
  simp only [Option.bind_eq_bind, Option.bind_some, htoNat]
  rw [PointerWidth.usize_of_lt (by omega), PointerWidth.usize_of_lt (by omega)]
  simp only [Option.bind_some]
  rw [PointerWidth.usize_of_lt hsum]
  simp only [Option.bind_some]
  rw [if_pos (by omega)]

theorem chunkRange_eq_none {width : PointerWidth} {plan : UploadPlan} {bytes : Nat}
    {index : UInt32} (h : plan.chunkCount.toNat ≤ index.toNat) :
    chunkRange width plan bytes index = none := by
  unfold chunkRange
  rw [if_pos (UInt32.le_iff_toNat_le.2 h)]

/-- Cutting the range of a chunk out of the bytes. -/
theorem slice_eq {bytes : List UInt8} {start length : Nat} :
    slice bytes start (min (start + length) bytes.length) = (bytes.drop start).take length := by
  unfold slice
  by_cases h : start + length ≤ bytes.length
  · rw [Nat.min_eq_left h, Nat.add_sub_cancel_left]
  · rw [Nat.min_eq_right (by omega), List.take_of_length_le (by rw [List.length_drop]),
      List.take_of_length_le (by rw [List.length_drop]; omega)]

/-! ## Sources -/

namespace OwnedUploadSource

/-- The bytes cut every `chunkBytes`. -/
def cut (source : OwnedUploadSource) : List (List UInt8) :=
  (List.range source.plan.chunkCount.toNat).map fun index =>
    (source.bytes.drop (index * source.plan.chunkBytes.toNat)).take
      source.plan.chunkBytes.toNat

/-- The chunks, read through the source and through the checks of the upload machine. -/
structure Tiles [StorageWire] [Sha256] (width : PointerWidth) (source : OwnedUploadSource)
    (chunks : List (List UInt8)) : Prop where
  flatten : chunks.flatten = source.bytes
  length : chunks.length = source.plan.chunkCount.toNat
  chunkBytes : ∀ index, source.chunkBytes width index = chunks[index.toNat]?
  expectedChunkBytes : ∀ index chunk, chunks[index.toNat]? = some chunk →
    ∃ byteLen, expectedChunkBytes source.plan index = .ok byteLen ∧
      byteLen.toNat = chunk.length
  expectedPrefixBytes : ∀ count, count.toNat ≤ source.plan.chunkCount.toNat →
    ∃ total, expectedPrefixBytes source.plan count = .ok total ∧
      total.toNat = ((chunks.take count.toNat).map List.length).sum
  validateChunk : ∀ machine : CacheUploadMachine, machine.plan = source.plan →
    ∀ index chunk, chunks[index.toNat]? = some chunk →
      ∃ header, source.chunkHeader width index = some header ∧
        machine.validateChunk index header chunk = .ok ()

section Cut

variable {source : OwnedUploadSource} {index : Nat} {chunk : List UInt8}

theorem length_cut : source.cut.length = source.plan.chunkCount.toNat := by
  rw [cut, List.length_map, List.length_range]

theorem cut_eq_some : source.cut[index]? = some chunk ↔
    index < source.plan.chunkCount.toNat ∧
      (source.bytes.drop (index * source.plan.chunkBytes.toNat)).take
        source.plan.chunkBytes.toNat = chunk := by
  rw [cut, List.getElem?_map, Option.map_eq_some_iff]
  constructor
  · rintro ⟨found, hfound, hchunk⟩
    rw [List.getElem?_eq_some_iff] at hfound
    obtain ⟨hindex, rfl⟩ := hfound
    rw [List.length_range] at hindex
    rw [List.getElem_range] at hchunk
    exact ⟨hindex, hchunk⟩
  · rintro ⟨hindex, hchunk⟩
    exact ⟨index, List.getElem?_range hindex, hchunk⟩

variable (hcuts : source.plan.Cuts)
  (hlength : source.bytes.length = source.plan.object.byteLen.toNat)

include hcuts hlength

theorem flatten_cut : source.cut.flatten = source.bytes := by
  rw [cut, List.flatten_map_take_drop]
  apply List.take_of_length_le
  rw [hlength]
  exact hcuts.covers

omit hcuts in
/-- The first chunks hold the bytes up to where the next one starts. -/
theorem sum_take_cut {count : Nat} (hcount : count ≤ source.plan.chunkCount.toNat) :
    ((source.cut.take count).map List.length).sum =
      min (count * source.plan.chunkBytes.toNat) source.plan.object.byteLen.toNat := by
  rw [← List.length_flatten, cut, ← List.map_take, List.take_range, Nat.min_eq_left hcount,
    List.flatten_map_take_drop, List.length_take, hlength]

variable {width : PointerWidth}

/-- A chunk is read at the range that is computed for it. -/
theorem chunkRange_cut {index : UInt32}
    (hfits : 2 * source.plan.object.byteLen.toNat < width.usizeValues)
    (hchunk : source.cut[index.toNat]? = some chunk) :
    ∃ start stop, chunkRange width source.plan source.bytes.length index = some (start, stop) ∧
      slice source.bytes start stop = chunk ∧ stop - start = chunk.length := by
  obtain ⟨hindex, hchunk⟩ := cut_eq_some.1 hchunk
  have hrange := chunkRange_eq hcuts hfits hindex
  rw [← hlength] at hrange
  refine ⟨_, _, hrange, ?_, ?_⟩
  · rw [slice_eq, hchunk]
  · rw [← hchunk, List.length_take, List.length_drop]
    omega

theorem chunkBytes_cut {index : UInt32}
    (hfits : 2 * source.plan.object.byteLen.toNat < width.usizeValues) :
    source.chunkBytes width index = source.cut[index.toNat]? := by
  unfold chunkBytes
  cases hchunk : source.cut[index.toNat]? with
  | none =>
    rw [List.getElem?_eq_none_iff, length_cut] at hchunk
    rw [chunkRange_eq_none hchunk]
    rfl
  | some chunk =>
    obtain ⟨start, stop, hrange, hslice, -⟩ := chunkRange_cut hcuts hlength hfits hchunk
    rw [hrange, ← hslice]
    rfl

variable [StorageWire]

/-- Every chunk but the last one is whole; the last one is the rest. -/
theorem expectedChunkBytes_cut {index : UInt32} (hchunk : source.cut[index.toNat]? = some chunk) :
    ∃ byteLen, expectedChunkBytes source.plan index = .ok byteLen ∧
      byteLen.toNat = chunk.length := by
  obtain ⟨hindex, hchunk⟩ := cut_eq_some.1 hchunk
  have hstart := hcuts.starts hindex
  have hcovers := hcuts.covers
  have hbound := source.plan.object.byteLen.toNat_lt
  have hwhole := source.plan.chunkBytes.toNat_lt
  have hsize : chunk.length = min source.plan.chunkBytes.toNat
      (source.plan.object.byteLen.toNat - index.toNat * source.plan.chunkBytes.toNat) := by
    rw [← hchunk, List.length_take, List.length_drop, hlength]
  unfold expectedChunkBytes
  rw [if_neg (by rw [UInt32.not_le, UInt32.lt_iff_toNat_lt]; exact hindex)]
  by_cases hlast : index.toNat + 1 < source.plan.chunkCount.toNat
  · have hends := hcuts.ends hlast
    rw [Nat.succ_mul] at hends
    rw [if_pos hlast]
    exact ⟨_, rfl, by omega⟩
  · have hcount : source.plan.chunkCount.toNat = index.toNat + 1 := by omega
    rw [hcount, Nat.succ_mul] at hcovers
    rw [if_neg hlast]
    have hproduct : (UInt64.ofNat (index.toNat * source.plan.chunkBytes.toNat)).toNat =
        index.toNat * source.plan.chunkBytes.toNat :=
      UInt64.toNat_ofNat_of_lt' (by rw [UInt64.size]; omega)
    have hpreceding : source.plan.chunkBytes.toUInt64.checkedMul index.toUInt64 =
        some (.ofNat (index.toNat * source.plan.chunkBytes.toNat)) := by
      rw [UInt64.checkedMul_eq_some, hproduct, Nat.mul_comm]
      rfl
    have hrest : (UInt64.ofNat chunk.length).toNat = chunk.length :=
      UInt64.toNat_ofNat_of_lt' (by rw [UInt64.size]; omega)
    have hdifference : source.plan.object.byteLen.checkedSub
        (.ofNat (index.toNat * source.plan.chunkBytes.toNat)) = some (.ofNat chunk.length) := by
      rw [UInt64.checkedSub_eq_some, hproduct, hrest]
      omega
    rw [hpreceding]
    refine ⟨(UInt64.ofNat chunk.length).toUInt32, ?_, ?_⟩
    · rw [Except.bind_of_ok Option.okOr_some, hdifference, Except.bind_of_ok Option.okOr_some,
        Except.bind_of_ok (Except.failIf_of_not (by rw [hrest]; omega))]
      rfl
    · rw [UInt64.toNat_toUInt32, hrest, Nat.mod_eq_of_lt (by omega)]

/-- The bytes of the first chunks. -/
theorem expectedPrefixBytes_cut {count : UInt32}
    (hcount : count.toNat ≤ source.plan.chunkCount.toNat) :
    ∃ total, expectedPrefixBytes source.plan count = .ok total ∧
      total.toNat = ((source.cut.take count.toNat).map List.length).sum := by
  rw [sum_take_cut hlength hcount]
  have hcovers := hcuts.covers
  have hbound := source.plan.object.byteLen.toNat_lt
  unfold expectedPrefixBytes
  rw [if_neg (by rw [UInt32.not_lt, UInt32.le_iff_toNat_le]; exact hcount)]
  by_cases hall : count = source.plan.chunkCount
  · rw [if_pos hall, hall]
    exact ⟨_, rfl, by omega⟩
  · rw [← UInt32.toNat_inj] at hall
    have hstart := hcuts.starts (Nat.lt_of_le_of_ne hcount hall)
    have hproduct : (UInt64.ofNat (count.toNat * source.plan.chunkBytes.toNat)).toNat =
        count.toNat * source.plan.chunkBytes.toNat :=
      UInt64.toNat_ofNat_of_lt' (by rw [UInt64.size]; omega)
    have hmul : source.plan.chunkBytes.toUInt64.checkedMul count.toUInt64 =
        some (.ofNat (count.toNat * source.plan.chunkBytes.toNat)) := by
      rw [UInt64.checkedMul_eq_some, hproduct, Nat.mul_comm]
      rfl
    rw [if_neg (by rw [← UInt32.toNat_inj]; exact hall), hmul]
    exact ⟨_, rfl, by rw [hproduct]; omega⟩

end Cut

section Accepted

variable [StorageWire] [ManifestHashing] [Sha256] {width : PointerWidth} {plan : UploadPlan}
  {limits : CacheLimits} {source : OwnedUploadSource}

/-- The name that is computed for one chunk. -/
def chunkName (width : PointerWidth) (plan : UploadPlan) (bytes : List UInt8) (index : Nat) :
    ContentId :=
  ((chunkRange width plan bytes.length (.ofNat index)).map fun range =>
    contentOf (slice bytes range.1 range.2)).getD (contentOf [])

theorem hashChunk_eq_ok {bytes : List UInt8} {index : Nat}
    {state state' : ManifestHashing.Hasher × List ContentId}
    (h : hashChunk width plan bytes state index = .ok state') :
    state'.2 = state.2 ++ [chunkName width plan bytes index] := by
  simp only [hashChunk, Except.bind_eq_ok, Option.okOr_eq_ok, Except.exists_unit,
    Except.failIf_eq_ok, Except.mapError_eq_ok, Except.pure_eq_ok, Prod.exists] at h
  obtain ⟨start, stop, hrange, -, hasher, -, rfl⟩ := h
  rw [chunkName, hrange]
  rfl

/-- The names are computed in the order of the chunks. -/
theorem hashChunks_eq_ok {bytes : List UInt8} {indices : List Nat}
    {state state' : ManifestHashing.Hasher × List ContentId}
    (h : indices.foldlM (hashChunk width plan bytes) state = .ok state') :
    state'.2 = state.2 ++ indices.map (chunkName width plan bytes) := by
  induction indices generalizing state with
  | nil =>
    rw [List.foldlM_nil, Except.pure_eq_ok] at h
    rw [h, List.map_nil, List.append_nil]
  | cons index indices ih =>
    rw [List.foldlM_cons, Except.bind_eq_ok] at h
    obtain ⟨next, hnext, hrest⟩ := h
    rw [ih hrest, hashChunk_eq_ok hnext, List.append_assoc, List.map_cons, List.singleton_append]

/-- What an accepted source keeps: its plan, the bytes, and the name of every chunk. -/
theorem tryNewShared_eq_ok {bytes : ByteSlice width}
    (h : tryNewShared width plan bytes limits = .ok source) :
    StorageWire.validatePlan plan limits = .ok () ∧ source.plan = plan ∧
      source.bytes = bytes.bytes ∧ bytes.bytes.length = plan.object.byteLen.toNat ∧
      source.chunks = (List.range plan.chunkCount.toNat).map
        (chunkName width plan bytes.bytes) := by
  simp only [tryNewShared, Except.bind_eq_ok, Except.mapError_eq_ok, Except.exists_unit,
    Except.failIf_eq_ok, not_not, Except.pure_eq_ok, Prod.exists] at h
  obtain ⟨hplan, hlength, -, hasher, -, hashed, chunks, hfold, -, -, -, rfl⟩ := h
  exact ⟨hplan, rfl, rfl, hlength, by simpa using hashChunks_eq_ok hfold⟩

/-- The chunks of an accepted source tile its object. -/
theorem uploadChunks [LawfulUploadPlans] {bytes : ByteSlice width}
    (h : tryNewShared width plan bytes limits = .ok source) :
    source.bytes = bytes.bytes ∧ Tiles width source source.cut := by
  obtain ⟨hplan, rfl, hbytes, hlength, hchunks⟩ := tryNewShared_eq_ok h
  have hcuts := LawfulUploadPlans.cuts hplan
  rw [← hbytes] at hlength hchunks
  have hfits : 2 * source.plan.object.byteLen.toNat < width.usizeValues := by
    rw [← hlength, hbytes]
    exact bytes.fits
  refine ⟨hbytes,
    { flatten := flatten_cut hcuts hlength
      length := length_cut
      chunkBytes := fun index => chunkBytes_cut hcuts hlength hfits
      expectedChunkBytes := fun index chunk => expectedChunkBytes_cut hcuts hlength
      expectedPrefixBytes := fun count => expectedPrefixBytes_cut hcuts hlength
      validateChunk := ?_ }⟩
  intro machine hmachine index chunk hchunk
  obtain ⟨start, stop, hrange, hslice, hsize⟩ := chunkRange_cut hcuts hlength hfits hchunk
  obtain ⟨byteLen, hexpected, hbyteLen⟩ := expectedChunkBytes_cut hcuts hlength hchunk
  have hshort := byteLen.toNat_lt
  -- the name kept for the chunk is the digest of the bytes that are cut
  have hname : source.chunks[index.toNat]? = some (contentOf chunk) := by
    rw [hchunks, List.getElem?_map, List.getElem?_range (cut_eq_some.1 hchunk).1, Option.map_some,
      chunkName, UInt32.ofNat_toNat, hrange, Option.map_some, Option.getD_some, hslice]
  have hcount : UInt32.ofNat chunk.length = byteLen := by
    rw [← hbyteLen, UInt32.ofNat_toNat]
  refine ⟨⟨source.plan.uploadId, index, byteLen, contentOf chunk⟩, ?_, ?_⟩
  · unfold chunkHeader
    rw [hrange]
    simp only [Option.bind_eq_bind, Option.bind_some]
    rw [if_pos (by omega), hsize, hcount, hname]
    rfl
  · unfold CacheUploadMachine.validateChunk
    rw [hmachine, hexpected]
    simp [failIf, hcount]
    omega

end Accepted

end OwnedUploadSource

/-! ## A concrete source -/

section ThreeChunks

open HostLibrary
open scoped Alumina.Graph.HostLibrary

scoped instance lawfulUploadPlans : LawfulUploadPlans where
  cuts {plan limits} h := by
    have hvalid : HostLibrary.validatePlan plan limits = .ok () := h
    simp only [HostLibrary.validatePlan, Except.bind_eq_ok, Except.exists_unit,
      Except.failIf_eq_ok, not_or, not_le, not_lt] at hvalid
    obtain ⟨-, hne, hlow, hhigh⟩ := hvalid
    have hpos : 0 < plan.chunkBytes.toNat := by
      apply Nat.pos_of_ne_zero
      intro hzero
      exact hne (UInt32.toNat_inj.1 hzero)
    have hcount : 1 ≤ plan.chunkCount.toNat := by
      by_contra hzero
      have hzero' : plan.chunkCount.toNat = 0 := by omega
      rw [hzero', Nat.mul_zero] at hhigh
      omega
    refine ⟨hne, hcount, ?_⟩
    obtain ⟨last, hlast⟩ := Nat.exists_eq_add_of_le' hcount
    rw [hlast, Nat.add_sub_cancel] at hlow
    rw [hlast, Nat.mul_succ] at hhigh
    have hquotient : (plan.object.byteLen.toNat + plan.chunkBytes.toNat - 1) /
        plan.chunkBytes.toNat = last + 1 := by
      rw [Nat.div_eq_iff hpos, Nat.add_mul, Nat.mul_comm last]
      omega
    rw [hquotient, hlast]

/-- The manifest digest is taken over the chunk digests in order. -/
scoped instance manifestHashing : ManifestHashing where
  Hasher := List UInt8
  new _ _ _ _ := .ok []
  push hasher _ content _ := .ok (hasher ++ content.digest.val)
  finalize hasher := .ok (contentOf hasher)

def threeChunkBytes : ByteSlice .bits32 := ⟨threeChunks.flatten, by decide⟩

theorem uploadChunks_threeChunks :
    ∃ source, OwnedUploadSource.tryNewShared .bits32 threeChunkPlan threeChunkBytes
        threeChunkLimits = .ok source ∧
      source.bytes = threeChunks.flatten ∧
        OwnedUploadSource.Tiles .bits32 source source.cut := by
  have hnew : (OwnedUploadSource.tryNewShared .bits32 threeChunkPlan threeChunkBytes
      threeChunkLimits).isOk = true := by decide +kernel
  obtain ⟨source, hsource⟩ := Except.isOk_iff_exists.1 hnew
  exact ⟨source, hsource, OwnedUploadSource.uploadChunks hsource⟩

end ThreeChunks

end Alumina.Client
