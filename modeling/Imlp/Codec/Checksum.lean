import Imlp.Misc.BitSerial
import Imlp.Codec.RoundTrip

/-!
# The checksum as a shift register

The two loops of `crc32` (`src/codec.cpp:96-106`) are the reflected shift register with
feedback word `0xEDB88320` absorbing one byte at a time. Messages that differ within 32
consecutive bits, at any offset, have different checksums. An accepted frame ends with the
checksum of everything before it (`ChecksumHolds`); `syndrome` is the exclusive or of the
two sides, so that the effect of a change anywhere in the frame, trailer included, is one
word. The trailer is written most significant byte first by `append_u32`, while the
register is reflected: trailer bits and register bits run in opposite byte order.
-/

namespace Imlp
open ShiftRegister

/-- The feedback word of `crc32`. -/
def crcPoly : BitVec 32 := 0xEDB88320#32

theorem crcPoly_top : crcPoly.getLsbD (32 - 1) = true := by decide

/-- The wrapping subtraction of `crc32` is a mask that selects on the lowest bit. -/
theorem crcMask (crc : BitVec 32) :
    crcPoly &&& (0#32 - (crc &&& 1#32)) = if crc.getLsbD 0 then crcPoly else 0#32 := by
  rw [BitVec.and_one_eq_setWidth_ofBool_getLsbD]
  cases crc.getLsbD 0 <;> decide

theorem crcBit_eq_shift : crcBit = shift crcPoly := by
  funext crc
  show (crc >>> 1) ^^^ (crcPoly &&& (0#32 - (crc &&& 1#32))) = _
  rw [crcMask, shift]

theorem crcByte_eq_absorb (crc : BitVec 32) (byte : Byte) :
    crcByte crc byte = absorb crcPoly crc byte := by
  rw [crcByte, crcBit_eq_shift, absorb]

/-- `crc32` is the complemented register after absorbing the bytes. -/
theorem crc32_eq (bytes : List Byte) :
    crc32 bytes = ~~~absorbs crcPoly 0xFFFFFFFF#32 bytes := by
  have step : crcByte = absorb (k := 8) crcPoly := by
    funext crc byte
    exact crcByte_eq_absorb crc byte
  rw [crc32, step, absorbs]

theorem not_xor_not (a b : BitVec 32) : ~~~a ^^^ ~~~b = a ^^^ b := by
  apply BitVec.eq_of_getLsbD_eq
  intro i hi
  simp [hi]

/-- Two checksums differ by the difference of the registers: start value and complement
cancel. -/
theorem crc32_xor (left right : List Byte) :
    crc32 left ^^^ crc32 right =
      absorbs crcPoly 0xFFFFFFFF#32 left ^^^ absorbs crcPoly 0xFFFFFFFF#32 right := by
  rw [crc32_eq, crc32_eq, not_xor_not]

/-- Equal checksums come from equal registers. -/
theorem absorbs_of_crc32_eq {left right : List Byte} (same : crc32 left = crc32 right) :
    absorbs crcPoly 0xFFFFFFFF#32 left = absorbs crcPoly 0xFFFFFFFF#32 right := by
  have registers := BitVec.xor_eq_zero_iff.mpr same
  rw [crc32_xor] at registers
  exact BitVec.xor_eq_zero_iff.mp registers

/-- Two different messages of one length that agree outside 32 consecutive bits have different
checksums. Bits are counted from the first byte on, least significant bit first within a byte,
and the window may begin at any of them. -/
theorem crc32_separates_windows (left right : List Byte) (length : left.length = right.length)
    (different : left ≠ right) (start : Nat)
    (window : ∀ i, i < 8 * left.length → i < start ∨ start + 32 ≤ i →
      (byteAt left (i / 8)).getLsbD (i % 8) = (byteAt right (i / 8)).getLsbD (i % 8)) :
    crc32 left ≠ crc32 right := by
  intro same
  have registers := absorbs_of_crc32_eq same
  exact different
    (eq_of_absorbs_eq crcPoly_top 0xFFFFFFFF#32 (by decide) length window registers)

/-- A window from the upper half of the first byte to the lower half of the fifth. -/
theorem crc32_separates_windows_unaligned :
    crc32 [0x12#8, 0x34#8, 0x56#8, 0x78#8, 0x9A#8, 0xBC#8] ≠
      crc32 [0xE2#8, 0x00#8, 0xFF#8, 0x01#8, 0x95#8, 0xBC#8] :=
  crc32_separates_windows _ _ rfl (by decide) 4 (by decide)

/-- The last four bytes are the checksum of the bytes before them. -/
def ChecksumHolds (bytes : List Byte) : Prop :=
  4 ≤ bytes.length ∧ crc32 (bytes.take (bytes.length - 4)) = readU32 bytes (bytes.length - 4)

theorem wireBytes_checksumHolds (frame : Frame) : ChecksumHolds (wireBytes frame) := by
  have size : (wireBytes frame).length - 4 = (bodyBytes frame).length := by
    simp only [wireBytes_length, bodyBytes_length]
    omega
  refine ⟨by rw [wireBytes_length]; omega, ?_⟩
  have read := readU32_u32Bytes (bodyBytes frame) [] (crc32 (bodyBytes frame))
  rw [List.append_nil] at read
  rw [size, wireBytes, List.take_left, read]

/-- A byte string that does not end with its checksum is rejected, whatever its header
says. -/
theorem decode_rejects {bytes : List Byte} (broken : ¬ ChecksumHolds bytes) :
    (decode bytes).frame = none ∧ (decode bytes).error ≠ .none := by
  rcases decode_cases bytes with rejected | ⟨frame, -, accepted⟩
  · exact rejected
  · exfalso
    apply broken
    rw [accepted.eq_wireBytes]
    exact wireBytes_checksumHolds frame

/-- The difference between the computed and the received checksum. -/
def syndrome (bytes : List Byte) : BitVec 32 :=
  crc32 (bytes.take (bytes.length - 4)) ^^^ readU32 bytes (bytes.length - 4)

theorem ChecksumHolds.syndrome {bytes : List Byte} (holds : ChecksumHolds bytes) :
    syndrome bytes = 0#32 :=
  BitVec.xor_eq_zero_iff.mpr holds.2

/-- Bit `i` of a word on the wire stands in byte `3 - i / 8`. -/
theorem readU32_getLsbD (bytes : List Byte) (offset : Nat) {i : Nat} (hi : i < 32) :
    (readU32 bytes offset).getLsbD i = (byteAt bytes (offset + (3 - i / 8))).getLsbD (i % 8) := by
  rw [readU32_eq]
  simp only [BitVec.getLsbD_append]
  rcases (by omega : i / 8 = 0 ∨ i / 8 = 1 ∨ i / 8 = 2 ∨ i / 8 = 3) with h | h | h | h
  · simp [h, show i < 8 by omega, show i % 8 = i by omega]
  · simp [h, show ¬ i < 8 by omega, show i - 8 < 8 by omega, show i % 8 = i - 8 by omega]
  · simp [h, show ¬ i < 8 by omega, show ¬ i - 8 < 8 by omega, show i - 8 - 8 < 8 by omega,
      show i % 8 = i - 8 - 8 by omega]
  · simp [h, show ¬ i < 8 by omega, show ¬ i - 8 < 8 by omega, show ¬ i - 8 - 8 < 8 by omega,
      show i % 8 = i - 8 - 8 - 8 by omega]

/-- A read of four bytes sees no others. -/
theorem readU32_congr {left right : List Byte} {offset : Nat}
    (same : ∀ i, offset ≤ i → i < offset + 4 → byteAt left i = byteAt right i) :
    readU32 left offset = readU32 right offset := by
  rw [readU32_eq, readU32_eq, same offset (by omega) (by omega),
    same (offset + 1) (by omega) (by omega), same (offset + 2) (by omega) (by omega),
    same (offset + 3) (by omega) (by omega)]

/-- Equal words were read from equal bytes. -/
theorem byteAt_of_readU32 {left right : List Byte} {offset : Nat}
    (same : readU32 left offset = readU32 right offset) :
    ∀ i, offset ≤ i → i < offset + 4 → byteAt left i = byteAt right i := by
  rw [readU32_eq, readU32_eq] at same
  have bytes := congrArg u32Bytes same
  rw [u32Bytes_append, u32Bytes_append] at bytes
  simp only [List.cons.injEq, and_true] at bytes
  obtain ⟨h0, h1, h2, h3⟩ := bytes
  intro i low high
  rcases (by omega : i = offset ∨ i = offset + 1 ∨ i = offset + 2 ∨ i = offset + 3) with
    rfl | rfl | rfl | rfl <;> assumption

end Imlp
