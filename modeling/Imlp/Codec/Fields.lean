import Imlp.Codec

/-!
# Big-endian fields

`append_u16`/`append_u32` and `read_u16`/`read_u32` of `src/codec.cpp` shift and mask. Here
they are brought to one form: the bytes of a word are its `extractLsb'` slices, most
significant first, and a word read back is the concatenation of its bytes. The two
directions of the round trip then hold field by field, and a read inside a longer byte
string only depends on the bytes at its offset.
-/

namespace Imlp

/-- The source's `(value >> k) & 0xFF`, narrowed to a byte, is the slice at bit `k`. -/
theorem maskByte {w : Nat} (value : BitVec w) (k : Nat) :
    ((value >>> k) &&& BitVec.ofNat w 0xFF).setWidth 8 = value.extractLsb' k 8 := by
  apply BitVec.eq_of_getLsbD_eq
  intro i hi
  rw [BitVec.getLsbD_setWidth, BitVec.getLsbD_and, BitVec.getLsbD_ofNat,
    show (0xFF : Nat) = 2 ^ 8 - 1 by rfl, Nat.testBit_two_pow_sub_one,
    BitVec.getLsbD_ushiftRight, BitVec.getLsbD_extractLsb']
  by_cases hw : i < w
  · simp [hi, hw]
  · simp [hi, hw, BitVec.getLsbD_of_ge value (k + i) (by omega)]

theorem maskByte_zero {w : Nat} (value : BitVec w) :
    (value &&& BitVec.ofNat w 0xFF).setWidth 8 = value.extractLsb' 0 8 := by
  simpa using maskByte value 0

/-- The two bytes of a 16-bit field on the wire. -/
def u16Bytes (value : BitVec 16) : List Byte :=
  [value.extractLsb' 8 8, value.extractLsb' 0 8]

/-- The four bytes of a 32-bit field on the wire. -/
def u32Bytes (value : BitVec 32) : List Byte :=
  [value.extractLsb' 24 8, value.extractLsb' 16 8, value.extractLsb' 8 8, value.extractLsb' 0 8]

@[simp] theorem u16Bytes_length (value : BitVec 16) : (u16Bytes value).length = 2 := rfl

@[simp] theorem u32Bytes_length (value : BitVec 32) : (u32Bytes value).length = 4 := rfl

theorem appendU16_eq (output : List Byte) (value : BitVec 16) :
    appendU16 output value = output ++ u16Bytes value := by
  rw [appendU16, maskByte, maskByte_zero, u16Bytes]

theorem appendU32_eq (output : List Byte) (value : BitVec 32) :
    appendU32 output value = output ++ u32Bytes value := by
  rw [appendU32, maskByte, maskByte, maskByte, maskByte_zero, u32Bytes]

/-- The disjunction of shifted bytes in `read_u16` is a concatenation. -/
theorem joinU16 (high low : Byte) :
    (high.setWidth 16 <<< 8) ||| low.setWidth 16 = (high ++ low : BitVec 16) := by
  apply BitVec.eq_of_getLsbD_eq
  intro i hi
  simp only [BitVec.getLsbD_or, BitVec.getLsbD_shiftLeft, BitVec.getLsbD_setWidth,
    BitVec.getLsbD_append]
  grind

/-- The disjunction of shifted bytes in `read_u32` is a concatenation. -/
theorem joinU32 (b0 b1 b2 b3 : Byte) :
    (b0.setWidth 32 <<< 24) ||| (b1.setWidth 32 <<< 16) ||| (b2.setWidth 32 <<< 8) |||
      b3.setWidth 32 = (b0 ++ b1 ++ b2 ++ b3 : BitVec 32) := by
  apply BitVec.eq_of_getLsbD_eq
  intro i hi
  simp only [BitVec.getLsbD_or, BitVec.getLsbD_shiftLeft, BitVec.getLsbD_setWidth,
    BitVec.getLsbD_append]
  grind

theorem readU16_eq (bytes : List Byte) (offset : Nat) :
    readU16 bytes offset = (byteAt bytes offset ++ byteAt bytes (offset + 1) : BitVec 16) :=
  joinU16 _ _

theorem readU32_eq (bytes : List Byte) (offset : Nat) :
    readU32 bytes offset = (byteAt bytes offset ++ byteAt bytes (offset + 1) ++
      byteAt bytes (offset + 2) ++ byteAt bytes (offset + 3) : BitVec 32) :=
  joinU32 _ _ _ _

@[simp] theorem byteAt_cons_zero (byte : Byte) (bytes : List Byte) :
    byteAt (byte :: bytes) 0 = byte := rfl

@[simp] theorem byteAt_cons_succ (byte : Byte) (bytes : List Byte) (index : Nat) :
    byteAt (byte :: bytes) (index + 1) = byteAt bytes index := rfl

theorem byteAt_append_right (left right : List Byte) (index : Nat) :
    byteAt (left ++ right) (left.length + index) = byteAt right index := by
  simp [byteAt, List.getD_eq_getElem?_getD, List.getElem?_append_right]

theorem byteAt_eq_getElem {bytes : List Byte} {index : Nat} (inside : index < bytes.length) :
    byteAt bytes index = bytes[index] := by
  simp [byteAt, inside]

/-- Two byte strings of one length are equal when all their bytes are. -/
theorem ext_byteAt {left right : List Byte} (length : left.length = right.length)
    (same : ∀ index, index < left.length → byteAt left index = byteAt right index) :
    left = right := by
  apply List.ext_getElem length
  intro index hleft hright
  have := same index hleft
  rwa [byteAt_eq_getElem hleft, byteAt_eq_getElem hright] at this

theorem readU16_u16Bytes (left right : List Byte) (value : BitVec 16) :
    readU16 (left ++ (u16Bytes value ++ right)) left.length = value := by
  rw [readU16_eq, byteAt_append_right, show left.length = left.length + 0 by rfl,
    byteAt_append_right]
  simp only [u16Bytes, List.cons_append, byteAt_cons_zero, byteAt_cons_succ]
  apply BitVec.eq_of_getLsbD_eq
  intro i hi
  simp only [BitVec.getLsbD_append, BitVec.getLsbD_extractLsb']
  grind

theorem readU32_u32Bytes (left right : List Byte) (value : BitVec 32) :
    readU32 (left ++ (u32Bytes value ++ right)) left.length = value := by
  rw [readU32_eq, byteAt_append_right, byteAt_append_right, byteAt_append_right,
    show left.length = left.length + 0 by rfl, byteAt_append_right]
  simp only [u32Bytes, List.cons_append, byteAt_cons_zero, byteAt_cons_succ]
  apply BitVec.eq_of_getLsbD_eq
  intro i hi
  simp only [BitVec.getLsbD_append, BitVec.getLsbD_extractLsb']
  grind

theorem u16Bytes_append (high low : Byte) : u16Bytes (high ++ low : BitVec 16) = [high, low] := by
  simp only [u16Bytes, List.cons.injEq, and_true]
  constructor <;> apply BitVec.eq_of_getLsbD_eq <;> intro i hi <;>
    simp only [BitVec.getLsbD_append, BitVec.getLsbD_extractLsb'] <;> grind

theorem u32Bytes_append (b0 b1 b2 b3 : Byte) :
    u32Bytes (b0 ++ b1 ++ b2 ++ b3 : BitVec 32) = [b0, b1, b2, b3] := by
  simp only [u32Bytes, List.cons.injEq, and_true]
  refine ⟨?_, ?_, ?_, ?_⟩ <;> apply BitVec.eq_of_getLsbD_eq <;> intro i hi <;>
    simp only [BitVec.getLsbD_append, BitVec.getLsbD_extractLsb'] <;> grind

/-- A slice inside the string, spelled by its bytes. -/
theorem slice_two {bytes : List Byte} {offset : Nat} (inside : offset + 2 ≤ bytes.length) :
    (bytes.drop offset).take 2 = [byteAt bytes offset, byteAt bytes (offset + 1)] := by
  apply List.ext_getElem
  · simp; omega
  · intro index hleft hright
    simp only [List.length_cons, List.length_nil] at hright
    rcases (show index = 0 ∨ index = 1 by omega) with rfl | rfl <;>
      simp [byteAt_eq_getElem (show offset < bytes.length by omega),
        byteAt_eq_getElem (show offset + 1 < bytes.length by omega)]

theorem slice_four {bytes : List Byte} (offset : Nat) (inside : offset + 4 ≤ bytes.length) :
    (bytes.drop offset).take 4 = [byteAt bytes offset, byteAt bytes (offset + 1),
      byteAt bytes (offset + 2), byteAt bytes (offset + 3)] := by
  rw [show (4 : Nat) = 2 + 2 by rfl, List.take_add, List.drop_drop,
    slice_two (by omega), slice_two (by omega)]
  rfl

/-- Writing back what was read gives the bytes that were read. -/
theorem u16Bytes_readU16 {bytes : List Byte} (offset : Nat)
    (inside : offset + 2 ≤ bytes.length) :
    u16Bytes (readU16 bytes offset) = (bytes.drop offset).take 2 := by
  rw [readU16_eq, u16Bytes_append, slice_two inside]

theorem u32Bytes_readU32 {bytes : List Byte} (offset : Nat)
    (inside : offset + 4 ≤ bytes.length) :
    u32Bytes (readU32 bytes offset) = (bytes.drop offset).take 4 := by
  rw [readU32_eq, u32Bytes_append, slice_four offset inside]

end Imlp
