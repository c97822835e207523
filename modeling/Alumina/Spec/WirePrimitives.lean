import Mathlib
import Alumina.Graph.Wire

/-!
# Round trips of the wire primitives

Each primitive decoder reads exactly the bytes its encoder wrote, provided the bound the
decoder applies admits the value. The structural round trips are assembled from these.

Key results:
- `reads_text`: bounded UTF-8 text
- `reads_rational`: exact rationals, through the external parser's one law
-/

namespace Alumina.Graph

open Codec

variable {β : Type}

/-! ## Fixed-width fields -/

theorem reads_array {n : Nat} (bytes : FixedArray UInt8 n) :
    Reads (decodeArray n) bytes.val bytes := by
  obtain ⟨bytes, rfl⟩ := bytes
  refine (Reads.take GraphWireError.truncated bytes).bind_nil ?_
  rw [dif_pos rfl]
  exact Reads.pure _

theorem reads_u8 (b : UInt8) : Reads decodeU8 [b] b :=
  (reads_array (⟨[b], rfl⟩ : FixedArray UInt8 1)).bind_nil (Reads.pure b)

/-- A tag byte in front of the rest. -/
theorem reads_tag {f : UInt8 → WireDecoder β} {tag : UInt8} {bytes : List UInt8} {b : β}
    (h : Reads (f tag) bytes b) : Reads (decodeU8 >>= f) (tag :: bytes) b :=
  (reads_u8 tag).bind h

/-- A little-endian word reads back as the number it spells. -/
private theorem reads_word {f : Nat → β} {w n : Nat} (hn : n < 256 ^ w) :
    Reads (do return f (ofLeBytes (← decodeArray w).val) : WireDecoder β) (leBytes w n) (f n) := by
  refine (reads_array ⟨leBytes w n, length_leBytes w n⟩).bind_nil ?_
  rw [ofLeBytes_leBytes w n hn]
  exact Reads.pure (f n)

theorem reads_u16 (value : UInt16) : Reads decodeU16 (encodeU16 value) value :=
  (reads_word (f := UInt16.ofNat) (lt_of_lt_of_eq value.toNat_lt (by norm_num))).of_eq rfl
    (by simp)

theorem reads_u32 (value : UInt32) : Reads decodeU32 (encodeU32 value) value :=
  (reads_word (f := UInt32.ofNat) (lt_of_lt_of_eq value.toNat_lt (by norm_num))).of_eq rfl
    (by simp)

theorem reads_u64 (value : UInt64) : Reads decodeU64 (encodeU64 value) value :=
  (reads_word (f := UInt64.ofNat) (lt_of_lt_of_eq value.toNat_lt (by norm_num))).of_eq rfl
    (by simp)

theorem reads_i64 (value : Int64) : Reads decodeI64 (encodeI64 value) value :=
  ((reads_u64 value.toUInt64).map (f := UInt64.toInt64)).of_eq rfl (by simp)

theorem reads_id {κ : IdKind} (id : StableId κ) : Reads (decodeId κ) (encodeId id) id :=
  (reads_u32 id.get).map (f := StableId.mk)

/-! ## Counts and text -/

theorem encodeCount_eq_ok {value : Nat} {name : String} {bytes : List UInt8}
    (h : encodeCount value name = .ok bytes) : value < 2 ^ 32 ∧ bytes = leBytes 4 value := by
  simp only [encodeCount, Except.bind_eq_ok, Except.exists_unit, Except.failIf_eq_ok,
    Except.pure_eq_ok, not_le] at h
  exact ⟨h.1, h.2.symm⟩

theorem reads_count {value maximum : Nat} {name name' : String} {bytes : List UInt8}
    (h : encodeCount value name = .ok bytes) (hmaximum : value ≤ maximum) :
    Reads (decodeCount maximum name') bytes value := by
  obtain ⟨hlt, rfl⟩ := encodeCount_eq_ok h
  have hword : (UInt32.ofNat value).toNat = value := UInt32.toNat_ofNat_of_lt' hlt
  have hread : Reads decodeU32 (leBytes 4 value) (UInt32.ofNat value) := by
    have := reads_u32 (UInt32.ofNat value)
    rwa [encodeU32, hword] at this
  refine hread.bind_nil ?_
  rw [hword]
  exact Reads.lift_bind (Except.failIf_of_not (by omega)) (Reads.pure value)

theorem reads_boundedBytes {value : List UInt8} {maximum : Nat} {name name' : String}
    {count : List UInt8} (h : encodeCount value.length name = .ok count)
    (hmaximum : value.length ≤ maximum) :
    Reads (boundedBytes maximum name') (count ++ value) value :=
  (reads_count h hmaximum).bind (Reads.take _ value)

/-- Decoding the bytes of a string gives the string. -/
theorem fromUtf8_utf8Bytes (s : String) : fromUtf8 (utf8Bytes s) = some s := by
  have hvalid : (ByteArray.mk (utf8Bytes s).toArray).IsValidUTF8 := by
    simpa [utf8Bytes] using s.isValidUTF8
  unfold fromUtf8 String.fromUTF8?
  rw [dif_pos hvalid]
  refine congrArg some (String.toByteArray_inj.1 ?_)
  change ByteArray.mk (utf8Bytes s).toArray = s.toByteArray
  simp [utf8Bytes]

theorem encodeText_eq_ok {s : String} {bytes : List UInt8} (h : encodeText s = .ok bytes) :
    ∃ count, encodeCount s.utf8ByteSize "string byte length" = .ok count ∧
      bytes = count ++ utf8Bytes s := by
  simpa only [encodeText, Except.bind_eq_ok, Except.pure_eq_ok, @eq_comm _ bytes] using h

theorem reads_text {s : String} {maximum : Nat} {name : String} {bytes : List UInt8}
    (h : encodeText s = .ok bytes) (hmaximum : s.utf8ByteSize ≤ maximum) :
    Reads (decodeText maximum name) bytes s := by
  obtain ⟨count, hcount, rfl⟩ := encodeText_eq_ok h
  have hbytes : Reads (boundedBytes maximum name) (count ++ utf8Bytes s) (utf8Bytes s) :=
    reads_boundedBytes hcount hmaximum
  refine hbytes.bind_nil ?_
  exact Reads.lift (by rw [fromUtf8_utf8Bytes, Option.okOr_some])

/-! ## Rationals -/

theorem utf8Bytes_ofList (l : List Char) :
    utf8Bytes (String.ofList l) = l.flatMap String.utf8EncodeChar := by
  rw [utf8Bytes, String.toByteArray_ofList, List.utf8Encode]
  simp

/-- A decimal digit is one byte, and only the digit zero is the byte 48. -/
private theorem utf8EncodeChar_of_isDigit {c : Char} (h : c.isDigit = true) :
    ∃ b, String.utf8EncodeChar c = [b] ∧ isAsciiDigit b = true ∧ (b = 48 ↔ c = '0') := by
  have hc : 48 ≤ c.val.toNat ∧ c.val.toNat ≤ 57 := by
    simpa [Char.isDigit, UInt32.le_iff_toNat_le] using h
  have hsize : c.utf8Size = 1 := by
    rw [Char.utf8Size, if_pos]
    rw [UInt32.le_iff_toNat_le]
    exact hc.2.trans (by decide)
  have hbyte : c.toUInt8.toNat = c.val.toNat := by
    rw [Char.toUInt8, UInt32.toNat_toUInt8]
    omega
  refine ⟨c.toUInt8, String.utf8EncodeChar_eq_singleton hsize, ?_, ?_⟩
  · simp only [isAsciiDigit, UInt8.le_iff_toNat_le, hbyte, Bool.and_eq_true, decide_eq_true_eq]
    exact hc
  · rw [← UInt8.toNat_inj, hbyte, Char.ext_iff, ← UInt32.toNat_inj]
    rfl

/-- The decimal digits of a positive number do not start with zero. -/
private theorem head?_toDigits {n : Nat} (h : 0 < n) :
    (Nat.toDigits 10 n).head? ≠ some '0' := by
  induction n using Nat.strong_induction_on with
  | _ n ih =>
    rcases Nat.lt_or_ge n 10 with hlt | hge
    · rw [Nat.toDigits_of_lt_base hlt]
      simp only [List.head?_cons, ne_eq, Option.some.injEq, Nat.digitChar_eq_zero]
      omega
    · rw [Nat.toDigits_of_base_le (by decide) hge,
        List.head?_append_of_ne_nil _ Nat.toDigits_ne_nil]
      exact ih (n / 10) (by omega) (by omega)

theorem canonicalDigits_repr (n : Nat) : canonicalDigits (Nat.repr n) = true := by
  have hdigits : ∀ c ∈ Nat.toDigits 10 n, c.isDigit = true := fun c hc =>
    Nat.isDigit_of_mem_toDigits (by decide) (by decide) hc
  have hbytes : utf8Bytes (Nat.repr n) = (Nat.toDigits 10 n).flatMap String.utf8EncodeChar := by
    rw [Nat.repr_eq_ofList_toDigits, utf8Bytes_ofList]
  have hall : (utf8Bytes (Nat.repr n)).all isAsciiDigit = true := by
    rw [List.all_eq_true, hbytes]
    intro b hb
    obtain ⟨c, hc, hbc⟩ := List.mem_flatMap.1 hb
    obtain ⟨b', henc, hdigit, _⟩ := utf8EncodeChar_of_isDigit (hdigits c hc)
    rw [henc, List.mem_singleton] at hbc
    rwa [hbc]
  -- the leading byte is zero only for the number zero, which is a single digit
  cases hd : Nat.toDigits 10 n with
  | nil => exact absurd hd Nat.toDigits_ne_nil
  | cons c cs =>
    obtain ⟨b, henc, _, hb⟩ := utf8EncodeChar_of_isDigit (hdigits c (by simp [hd]))
    rw [hd, List.flatMap_cons, henc] at hbytes
    have hfirst : (utf8Bytes (Nat.repr n)).length = 1 ∨ b ≠ 48 := by
      rcases Nat.eq_zero_or_pos n with rfl | hpos
      · left
        decide
      · right
        intro hzero
        have hhead := head?_toDigits hpos
        rw [hd, hb.1 hzero] at hhead
        exact hhead rfl
    unfold canonicalDigits
    rw [hbytes] at hall hfirst ⊢
    simp only [List.singleton_append] at hall hfirst ⊢
    rcases hfirst with hone | hne
    · simp [hone, hall]
    · simp [hne, hall]

theorem repr_eq_zero_iff (n : Nat) : Nat.repr n = "0" ↔ n = 0 := by
  constructor
  · intro h
    by_contra hne
    have hdigits : Nat.toDigits 10 n = ['0'] := by
      rw [← Nat.toList_repr, h]
      rfl
    exact head?_toDigits (Nat.pos_of_ne_zero hne) (by rw [hdigits]; rfl)
  · rintro rfl
    rfl

/-- The decoder's checks accept the sign and magnitudes of any value. -/
theorem rationalOfParts_text [RationalParser] (q : ℚ) :
    rationalOfParts (rationalSign q) (numeratorText q) (denominatorText q) = .ok q := by
  have hnumerator : numeratorText q = "0" ↔ q = 0 := by
    rw [numeratorText, repr_eq_zero_iff, Int.natAbs_eq_zero, Rat.num_eq_zero]
  have hdenominator : denominatorText q ≠ "0" := by
    rw [denominatorText, Ne, repr_eq_zero_iff]
    exact q.den_nz
  have hzero : rationalSign q = 0 ↔ q = 0 := by
    unfold rationalSign
    split_ifs <;> simp_all
  have hneg : rationalSign q = 2 ↔ q < 0 := by
    unfold rationalSign
    split_ifs <;> simp_all
  have hsign : ¬ rationalSign q > 2 := by
    unfold rationalSign
    split_ifs <;> decide
  have hparse : RationalParser.parse ((if rationalSign q = 2 then "-" else "") ++
      numeratorText q ++ "/" ++ denominatorText q) = some q := by
    simp only [hneg]
    exact RationalParser.parse_rationalText q
  have hnum : canonicalDigits (numeratorText q) = true := canonicalDigits_repr _
  have hden : canonicalDigits (denominatorText q) = true := canonicalDigits_repr _
  have hne : rationalSign q = 2 → q ≠ 0 := fun h => (hneg.1 h).ne
  unfold rationalOfParts
  rw [Except.bind_of_ok (Except.failIf_of_not (by simp [hnum, hden, hdenominator]))]
  rw [Except.bind_of_ok (Except.failIf_of_not (by
    simp only [hzero, hnumerator]
    tauto))]
  simp only [hparse, Option.okOr_some]
  rw [Except.bind_of_ok rfl, Except.bind_of_ok (Except.failIf_of_not (by
    simp only [hzero, hneg]
    tauto))]
  rfl

theorem reads_rational [RationalParser] {q : ℚ} {maximumDigits : Nat} {bytes : List UInt8}
    (h : encodeRational q maximumDigits = .ok bytes) :
    Reads (decodeRational maximumDigits) bytes q := by
  simp only [encodeRational, Except.bind_eq_ok, Except.exists_unit, Except.failIf_eq_ok,
    Except.pure_eq_ok, not_or, not_lt] at h
  obtain ⟨⟨hnum, hden⟩, numerator, hnumerator, denominator, hdenominator, rfl⟩ := h
  refine reads_tag ((reads_text hnumerator hnum).bind ?_)
  refine (reads_text hdenominator hden).bind_nil ?_
  exact Reads.lift (rationalOfParts_text q)

end Alumina.Graph
