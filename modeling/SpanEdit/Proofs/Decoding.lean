import SpanEdit.File.Basic
import SpanEdit.Proofs.PrefixCode

/-!
Text that is written as UTF-8 reads back, with every line end as a line feed.
-/

namespace SpanEdit

namespace Text

namespace Utf8

theorem toNat_ofNat {byte : Nat} (small : byte < 256) : (UInt8.ofNat byte).toNat = byte :=
  Nat.mod_eq_of_lt small

theorem isContinuation_ofNat {byte : Nat} (small : byte < 256) :
    isContinuation (UInt8.ofNat byte) = true ↔ 0x80 ≤ byte ∧ byte < 0xC0 := by
  simp [isContinuation, UInt8.le_iff_toNat_le, UInt8.lt_iff_toNat_lt, Nat.mod_eq_of_lt small]

theorem sequenceLength_ofNat {first : Nat} (small : first < 256) :
    sequenceLength (UInt8.ofNat first) =
      if first < 0x80 then 1 else if first < 0xC2 then 0 else if first < 0xE0 then 2
      else if first < 0xF0 then 3 else if first < 0xF5 then 4 else 0 := by
  simp [sequenceLength, UInt8.lt_iff_toNat_lt, Nat.mod_eq_of_lt small]

theorem fitsSecond_ofNat {first second : Nat} (small : first < 256) (little : second < 256) :
    fitsSecond (UInt8.ofNat first) (UInt8.ofNat second) = true ↔
      (0x80 ≤ second ∧ second < 0xC0) ∧ (first ≠ 0xE0 ∨ 0xA0 ≤ second) ∧
        (first ≠ 0xED ∨ second < 0xA0) ∧ (first ≠ 0xF0 ∨ 0x90 ≤ second) ∧
        (first ≠ 0xF4 ∨ second < 0x90) := by
  simp [fitsSecond, isContinuation_ofNat little, UInt8.le_iff_toNat_le, UInt8.lt_iff_toNat_lt,
    ← UInt8.toNat_inj, Nat.mod_eq_of_lt small, Nat.mod_eq_of_lt little, and_assoc]

structure Writes (code : Nat) (first : UInt8) (others : List UInt8) : Prop where
  length : sequenceLength first = others.length + 1
  continues : ∀ rest, continued first others.length (others ++ rest) = others.length
  bits : others.foldl addBits (firstBits first (others.length + 1)) = code

theorem continued_fitting {first second : UInt8} {later : List UInt8}
    (fits : fitsSecond first second = true)
    (continuing : ∀ byte ∈ later, isContinuation byte = true) (rest : List UInt8) :
    continued first (later.length + 1) (second :: later ++ rest) = later.length + 1 := by
  have whole : later.takeWhile isContinuation = later := by
    rw [← List.append_nil later, List.takeWhile_append_of_pos continuing]
    rfl
  rw [List.cons_append, continued, if_pos fits, List.take_left, whole, Nat.add_comm]

section Code

variable {code : Nat}

theorem writes_one (small : code ≤ 127) : Writes code (UInt8.ofNat code) [] where
  length := by
    rw [sequenceLength_ofNat (by omega), if_pos (by omega)]
    rfl
  continues _ := rfl
  bits := toNat_ofNat (by omega)

theorem writes_two (large : 127 < code) (small : code ≤ 2047) :
    Writes code (UInt8.ofNat (code / 64 % 32 + 192)) [UInt8.ofNat (code % 64 + 128)] where
  length := by
    rw [sequenceLength_ofNat (by omega), if_neg (by omega), if_neg (by omega), if_pos (by omega)]
    rfl
  continues := by
    refine continued_fitting ?_ nofun
    rw [fitsSecond_ofNat (by omega) (by omega)]
    omega
  bits := by
    show UInt8.toNat _ % 32 * 64 + UInt8.toNat _ % 64 = code
    rw [toNat_ofNat (by omega), toNat_ofNat (by omega)]
    omega

theorem writes_three (large : 2047 < code) (small : code ≤ 65535)
    (noSurrogate : code < 0xD800 ∨ 0xDFFF < code) :
    Writes code (UInt8.ofNat (code / 4096 % 16 + 224))
      [UInt8.ofNat (code / 64 % 64 + 128), UInt8.ofNat (code % 64 + 128)] where
  length := by
    rw [sequenceLength_ofNat (by omega), if_neg (by omega), if_neg (by omega), if_neg (by omega),
      if_pos (by omega)]
    rfl
  continues := by
    refine continued_fitting ?_ ?_
    -- A surrogate would be written with a second byte that does not fit.
    · rw [fitsSecond_ofNat (by omega) (by omega)]
      omega
    · rw [List.forall_mem_singleton, isContinuation_ofNat (by omega)]
      omega
  bits := by
    show (UInt8.toNat _ % 16 * 64 + UInt8.toNat _ % 64) * 64 + UInt8.toNat _ % 64 = code
    rw [toNat_ofNat (by omega), toNat_ofNat (by omega), toNat_ofNat (by omega)]
    omega

theorem writes_four (large : 65535 < code) (small : code < 0x110000) :
    Writes code (UInt8.ofNat (code / 262144 % 8 + 240))
      [UInt8.ofNat (code / 4096 % 64 + 128), UInt8.ofNat (code / 64 % 64 + 128),
        UInt8.ofNat (code % 64 + 128)] where
  length := by
    rw [sequenceLength_ofNat (by omega), if_neg (by omega), if_neg (by omega), if_neg (by omega),
      if_neg (by omega), if_pos (by omega)]
    rfl
  continues := by
    refine continued_fitting ?_ ?_
    · rw [fitsSecond_ofNat (by omega) (by omega)]
      omega
    · rw [List.forall_mem_cons, List.forall_mem_singleton, isContinuation_ofNat (by omega),
        isContinuation_ofNat (by omega)]
      omega
  bits := by
    show ((UInt8.toNat _ % 8 * 64 + UInt8.toNat _ % 64) * 64 + UInt8.toNat _ % 64) * 64 +
      UInt8.toNat _ % 64 = code
    rw [toNat_ofNat (by omega), toNat_ofNat (by omega), toNat_ofNat (by omega),
      toNat_ofNat (by omega)]
    omega

end Code

theorem writes_utf8EncodeChar (char : Char) :
    ∃ first others, String.utf8EncodeChar char = first :: others ∧
      Writes char.toNat first others := by
  have valid : char.val.toNat < 0xD800 ∨ 0xDFFF < char.val.toNat ∧ char.val.toNat < 0x110000 :=
    char.valid
  rw [String.utf8EncodeChar, Char.toNat]
  generalize char.val.toNat = code at valid ⊢
  by_cases one : code ≤ 127
  · exact ⟨_, _, if_pos one, writes_one one⟩
  rw [if_neg one]
  by_cases two : code ≤ 2047
  · exact ⟨_, _, if_pos two, writes_two (by omega) two⟩
  rw [if_neg two]
  by_cases three : code ≤ 65535
  · exact ⟨_, _, if_pos three, writes_three (by omega) three (by omega)⟩
  · exact ⟨_, _, if_neg three, writes_four (by omega) (by omega)⟩

theorem decodeAt_written {code : Nat} {first : UInt8} {others : List UInt8}
    (writes : Writes code first others) (position : Nat) (rest : List UInt8) :
    decodeAt position (first :: others ++ rest) = do
      let text ← decodeAt (position + others.length + 1) rest
      return Char.ofNat code :: text := by
  rw [List.cons_append, decodeAt]
  simp only [writes.length, writes.continues, ↓reduceIte, List.take_left, List.drop_left,
    writes.bits]

theorem decodeAt_encode (text : List Char) (position : Nat) :
    decodeAt position (encode text) = .ok text := by
  induction text generalizing position with
  | nil => rw [encode, List.flatMap_nil, decodeAt]
  | cons char rest ih =>
      obtain ⟨first, others, bytes, writes⟩ := writes_utf8EncodeChar char
      rw [encode_cons, bytes, decodeAt_written writes, ih, Char.ofNat_toNat]
      rfl

theorem decode_encode (text : List Char) : decode (encode text) = .ok text :=
  decodeAt_encode text 0

end Utf8

theorem not_mem_unifyLineEnds (text : List Char) : '\r' ∉ unifyLineEnds text := by
  fun_induction unifyLineEnds text with
  | case1 => nofun
  | case2 rest ih => exact List.not_mem_cons_of_ne_of_not_mem (by decide) ih
  | case3 rest other ih => exact List.not_mem_cons_of_ne_of_not_mem (by decide) ih
  | case4 char rest paired single ih =>
      refine List.not_mem_cons_of_ne_of_not_mem ?_ ih
      rintro rfl
      exact single rfl

theorem unifyLineEnds_of_not_mem {text : List Char} (free : '\r' ∉ text) :
    unifyLineEnds text = text := by
  fun_induction unifyLineEnds text with
  | case1 => rfl
  | case2 rest ih => exact absurd List.mem_cons_self free
  | case3 rest other ih => exact absurd List.mem_cons_self free
  | case4 char rest paired single ih => rw [ih (List.not_mem_of_not_mem_cons free)]

theorem unifyLineEnds_eq_self_iff {text : List Char} : unifyLineEnds text = text ↔ '\r' ∉ text := by
  constructor
  · intro same
    rw [← same]
    exact not_mem_unifyLineEnds text
  · exact unifyLineEnds_of_not_mem

end Text

theorem File.decode_encode (text : List Char) :
    decode (Text.Utf8.encode text) = .ok (Text.unifyLineEnds text) := by
  rw [decode, Text.Utf8.decode_encode]

end SpanEdit
