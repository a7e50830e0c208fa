import Mathlib.Data.List.Nodup
import Imlp.Misc.PackedLanes
import Imlp.Codec.Checksum

/-!
# Detection of single, double and triple bit errors

Flipping one bit of a frame adds one word, the `column` of that bit, to the syndrome. The
columns of all bits of a frame are successive states of one register orbit, message bits
and trailer bits alike, although the big-endian trailer visits its states in another order.
A set of flipped bits goes unnoticed exactly when the columns sum to zero, so it is enough
that among the first 2224 states of the orbit (eight for each byte of the largest frame) no
state is zero, no two are equal and no three sum to zero.

By linearity only sums with the first state have to be examined. This finite check is made
with a packed table.
-/

namespace Imlp
open ShiftRegister

/-- Flip one bit. Bits are counted from the first byte on, least significant bit first
within a byte. -/
def flipBit (bytes : List Byte) (position : Nat) : List Byte :=
  bytes.modify (position / 8) (· ^^^ BitVec.twoPow 8 (position % 8))

/-- Flip several bits. -/
def flipBits (bytes : List Byte) (positions : List Nat) : List Byte :=
  positions.foldl flipBit bytes

@[simp] theorem flipBit_length (bytes : List Byte) (position : Nat) :
    (flipBit bytes position).length = bytes.length := by
  simp [flipBit]

/-- The state of the register after `clocks` clocks from its top bit alone. -/
def column (clocks : Nat) : BitVec 32 := (shift crcPoly)^[clocks] (BitVec.twoPow 32 31)

/-- One clock on natural numbers, for evaluation. -/
def natShift (c : Nat) : Nat := bif c % 2 == 1 then (c / 2) ^^^ 0xEDB88320 else c / 2

theorem shift_toNat (c : BitVec 32) : (shift crcPoly c).toNat = natShift c.toNat := by
  have low : c.getLsbD 0 = (c.toNat % 2 == 1) := by
    rw [BitVec.getLsbD, Nat.testBit_zero]
    rfl
  rw [shift, natShift, low]
  cases c.toNat % 2 == 1
  · simp [Nat.shiftRight_eq_div_pow]
  · simp [Nat.shiftRight_eq_div_pow, crcPoly]

theorem column_toNat (clocks : Nat) : (column clocks).toNat = natShift^[clocks] 0x80000000 := by
  induction clocks with
  | zero => rfl
  | succ clocks ih =>
    rw [column, Function.iterate_succ_apply', shift_toNat, Function.iterate_succ_apply', ← ih,
      column]

/-- Zero and the states a frame of maximal size can reach. -/
def orbitTable : List Nat := 0 :: List.iterate natShift 0x80000000 2224

/-- No state after the first, summed with the first, is zero or a state. -/
theorem orbitTable_check :
    (List.iterate natShift (natShift 0x80000000) 2223).all (fun c =>
      PackedLanes.absent 32 (PackedLanes.pack 32 orbitTable) (PackedLanes.ones 32 2225)
        (c ^^^ 0x80000000)) = true := by
  decide +kernel

theorem orbitTable_length : orbitTable.length = 2225 := by
  rw [orbitTable, List.length_cons, List.length_iterate]

theorem column_mem_orbitTable {clocks : Nat} (bound : clocks < 2224) :
    (column clocks).toNat ∈ orbitTable := by
  rw [column_toNat, orbitTable]
  exact List.mem_cons_of_mem _ (List.mem_iterate.mpr ⟨clocks, bound, rfl⟩)

theorem orbitTable_bounded : ∀ value ∈ orbitTable, value < 2 ^ 32 := by
  intro value member
  rcases List.mem_cons.mp member with rfl | state
  · decide
  · obtain ⟨clocks, -, rfl⟩ := List.mem_iterate.mp state
    rw [← column_toNat]
    exact (column clocks).isLt

/-- The first state plus a later one is neither zero nor a state of the orbit. -/
theorem column_xor_first_not_mem (clocks : Nat) (later : 0 < clocks) (bound : clocks < 2224) :
    (column clocks ^^^ column 0).toNat ∉ orbitTable := by
  have state : natShift^[clocks] 0x80000000 ∈
      List.iterate natShift (natShift 0x80000000) 2223 := by
    refine List.mem_iterate.mpr ⟨clocks - 1, by omega, ?_⟩
    rw [← Function.iterate_succ_apply, show (clocks - 1).succ = clocks by omega]
  have absent := List.all_eq_true.mp orbitTable_check _ state
  have sum : (column clocks ^^^ column 0).toNat = natShift^[clocks] 0x80000000 ^^^ 0x80000000 := by
    rw [BitVec.toNat_xor, column_toNat, column_toNat]
    rfl
  apply PackedLanes.not_mem_of_absent (BitVec.isLt _) orbitTable orbitTable_bounded
  rw [sum, orbitTable_length]
  exact absent

theorem column_ne_zero (clocks : Nat) : column clocks ≠ 0#32 :=
  iterate_ne_zero crcPoly_top clocks (by decide)

/-- Clocking back by the smallest of the exponents. -/
theorem column_split {first clocks : Nat} (h : first ≤ clocks) :
    column clocks = (shift crcPoly)^[first] (column (clocks - first)) := by
  rw [column, column, ← Function.iterate_add_apply, Nat.add_sub_cancel' h]

theorem column_pair_ne {a b : Nat} (less : a < b) (bound : b < 2224) :
    column a ^^^ column b ≠ 0#32 := by
  intro zero
  have first : column a = (shift crcPoly)^[a] (column 0) := rfl
  rw [first, column_split (Nat.le_of_lt less), ← iterate_xor] at zero
  refine iterate_ne_zero crcPoly_top a ?_ zero
  intro sum
  rw [BitVec.xor_comm] at sum
  apply column_xor_first_not_mem (b - a) (by omega) (by omega)
  rw [sum, orbitTable]
  exact List.mem_cons_self

/-- Three states with the first one strictly earliest. -/
theorem column_triple_ne {a b c : Nat} (hab : a < b) (hac : a < c) (hb : b < 2224)
    (hc : c < 2224) : column a ^^^ column b ^^^ column c ≠ 0#32 := by
  intro zero
  have first : column a = (shift crcPoly)^[a] (column 0) := rfl
  rw [first, column_split (Nat.le_of_lt hab), column_split (Nat.le_of_lt hac), ← iterate_xor,
    ← iterate_xor] at zero
  refine iterate_ne_zero crcPoly_top a ?_ zero
  intro sum
  have equal : column (b - a) ^^^ column 0 = column (c - a) := by
    rw [BitVec.xor_comm]
    exact BitVec.xor_eq_zero_iff.mp sum
  apply column_xor_first_not_mem (b - a) (by omega) (by omega)
  rw [equal]
  exact column_mem_orbitTable (by omega)

/-- Up to three different states never sum to zero. -/
theorem columns_sum_ne_zero (clocks : List Nat) (distinct : clocks.Nodup) (some : clocks ≠ [])
    (few : clocks.length ≤ 3) (bound : ∀ c ∈ clocks, c < 2224) :
    clocks.foldl (fun sum c => sum ^^^ column c) 0#32 ≠ 0#32 := by
  match clocks, some, few with
  | [a], _, _ =>
    simpa using column_ne_zero a
  | [a, b], _, _ =>
    simp only [List.foldl_cons, List.foldl_nil, BitVec.zero_xor]
    have ha := bound a (by simp)
    have hb := bound b (by simp)
    have different : a ≠ b := by simpa using distinct
    rcases Nat.lt_or_gt_of_ne different with less | less
    · exact column_pair_ne less hb
    · rw [BitVec.xor_comm]
      exact column_pair_ne less ha
  | [a, b, c], _, _ =>
    simp only [List.foldl_cons, List.foldl_nil, BitVec.zero_xor]
    have ha := bound a (by simp)
    have hb := bound b (by simp)
    have hc := bound c (by simp)
    simp only [List.nodup_cons, List.mem_cons, List.not_mem_nil, or_false, not_or] at distinct
    obtain ⟨⟨hab, hac⟩, hbc, -⟩ := distinct
    -- the smallest exponent is moved to the front
    rcases (by omega : (a < b ∧ a < c) ∨ (b < a ∧ b < c) ∨ (c < a ∧ c < b)) with h | h | h
    · exact column_triple_ne h.1 h.2 hb hc
    · rw [BitVec.xor_comm (column a)]
      exact column_triple_ne h.1 h.2 ha hc
    · rw [BitVec.xor_comm, ← BitVec.xor_assoc]
      exact column_triple_ne h.1 h.2 ha hb

/-- How many clocks the orbit needs to the column of a bit, in a frame of `size` bytes. A
message bit is clocked through the rest of the message; a trailer bit is compared as it
stands, at the place the big-endian order gives it. -/
def clocksOf (size position : Nat) : Nat :=
  if position < 8 * (size - 4) then 8 * (size - 4) + 31 - position
  else 31 - (8 * (3 - (position - 8 * (size - 4)) / 8) + position % 8)

theorem clocksOf_lt {size : Nat} (position : Nat) (large : 4 ≤ size) :
    clocksOf size position < 8 * size := by
  unfold clocksOf
  split <;> omega

theorem clocksOf_injective {size p q : Nat} (large : 4 ≤ size) (hp : p < 8 * size)
    (hq : q < 8 * size) (same : clocksOf size p = clocksOf size q) : p = q := by
  obtain ⟨message, rfl⟩ := Nat.exists_eq_add_of_le' large
  rw [clocksOf, clocksOf, Nat.add_sub_cancel] at same
  split at same
  · split at same <;> omega
  · split at same
    · omega
    · -- two trailer bits: the same byte of the trailer, and the same bit of it
      have bytes : (p - 8 * message) / 8 = (q - 8 * message) / 8 := by omega
      omega

theorem byteAt_flipBit_ne {bytes : List Byte} {position index : Nat}
    (other : index ≠ position / 8) :
    byteAt (flipBit bytes position) index = byteAt bytes index := by
  rw [byteAt, byteAt, List.getD_eq_getElem?_getD, List.getD_eq_getElem?_getD, flipBit,
    List.getElem?_modify_ne _ _ (Ne.symm other)]

theorem byteAt_flipBit (bytes : List Byte) (position : Nat)
    (inside : position / 8 < bytes.length) :
    byteAt (flipBit bytes position) (position / 8) =
      byteAt bytes (position / 8) ^^^ BitVec.twoPow 8 (position % 8) := by
  rw [byteAt, byteAt, List.getD_eq_getElem?_getD, List.getD_eq_getElem?_getD, flipBit,
    List.getElem?_modify_eq, List.getElem?_eq_getElem inside]
  rfl

/-- The column of a trailer bit is the bit itself. -/
theorem column_trailer {bit : Nat} (hbit : bit < 32) :
    column (31 - bit) = BitVec.twoPow 32 bit := by
  have := iterate_twoPow crcPoly bit (31 - bit) (by omega)
  rwa [show bit + (31 - bit) = 31 by omega] at this

/-- The column of a message bit is its byte's change clocked through the bytes after it. -/
theorem column_message {bit rest : Nat} (hbit : bit < 8) :
    (shift crcPoly)^[8 * (rest + 1)] ((BitVec.twoPow 8 bit).setWidth 32) =
      column (8 * (rest + 1) + (31 - bit)) := by
  have wide : (BitVec.twoPow 8 bit).setWidth 32 = BitVec.twoPow 32 bit := by
    apply BitVec.eq_of_getLsbD_eq
    intro i hi
    rw [BitVec.getLsbD_setWidth, BitVec.getLsbD_twoPow, BitVec.getLsbD_twoPow]
    simp [hi, hbit, show bit < 32 by omega]
  rw [wide, ← column_trailer (by omega), column, column, ← Function.iterate_add_apply]

/-- Flipping a bit in one of four bytes flips one bit of the word they spell. -/
theorem readU32_flipBit {bytes : List Byte} {position offset place : Nat}
    (inside : position / 8 < bytes.length) (low : offset ≤ position / 8)
    (high : position / 8 < offset + 4)
    (spot : place = 8 * (3 - (position / 8 - offset)) + position % 8) :
    readU32 (flipBit bytes position) offset =
      readU32 bytes offset ^^^ BitVec.twoPow 32 place := by
  apply BitVec.eq_of_getLsbD_eq
  intro i hi
  rw [BitVec.getLsbD_xor, BitVec.getLsbD_twoPow, ← Bool.decide_and, readU32_getLsbD _ _ hi,
    readU32_getLsbD _ _ hi]
  by_cases hit : offset + (3 - i / 8) = position / 8
  · have same : (position % 8 < 8 ∧ position % 8 = i % 8) ↔ (place < 32 ∧ place = i) := by omega
    rw [hit, byteAt_flipBit bytes position inside, BitVec.getLsbD_xor, BitVec.getLsbD_twoPow,
      ← Bool.decide_and, decide_eq_decide.mpr same]
  · have miss : ¬ (place < 32 ∧ place = i) := by omega
    rw [byteAt_flipBit_ne hit, decide_eq_false miss, Bool.xor_false]

/-- A byte string cut at one of its bytes. -/
theorem exists_cut {bytes : List Byte} {index : Nat} (inside : index < bytes.length) :
    ∃ left byte right, bytes = left ++ byte :: right ∧ left.length = index := by
  refine ⟨bytes.take index, bytes[index], bytes.drop (index + 1), by simp, ?_⟩
  rw [List.length_take]
  omega

/-- The checksum of a message with one bit flipped. -/
theorem crc32_flipBit {message : List Byte} {position : Nat}
    (inside : position < 8 * message.length) :
    crc32 (flipBit message position) =
      crc32 message ^^^ column (8 * message.length + 31 - position) := by
  obtain ⟨left, byte, right, rfl, hleft⟩ := exists_cut (by omega : position / 8 < message.length)
  have changed : flipBit (left ++ byte :: right) position =
      left ++ (byte ^^^ BitVec.twoPow 8 (position % 8)) :: right := by
    rw [flipBit, ← hleft, List.modify_eq_take_drop, List.take_left, List.drop_left]
    rfl
  have clocks : 8 * (right.length + 1) + (31 - position % 8) =
      8 * (left ++ byte :: right).length + 31 - position := by
    rw [List.length_append, List.length_cons]
    omega
  rw [changed, crc32_eq, crc32_eq, absorbs_change, column_message (Nat.mod_lt _ (by omega)),
    clocks, BitVec.not_xor_left]

theorem syndrome_flip_message {bytes : List Byte} {position : Nat} (large : 4 ≤ bytes.length)
    (message : position < 8 * (bytes.length - 4)) :
    syndrome (flipBit bytes position) =
      syndrome bytes ^^^ column (clocksOf bytes.length position) := by
  have trailer : readU32 (flipBit bytes position) (bytes.length - 4) =
      readU32 bytes (bytes.length - 4) :=
    readU32_congr (fun i low _ => byteAt_flipBit_ne (by omega))
  have size : (bytes.take (bytes.length - 4)).length = bytes.length - 4 := by
    rw [List.length_take]
    omega
  have flipped : (flipBit bytes position).take (bytes.length - 4) =
      flipBit (bytes.take (bytes.length - 4)) position := by
    rw [flipBit, flipBit, List.take_modify]
  rw [syndrome, syndrome, flipBit_length, trailer, flipped,
    crc32_flipBit (by rw [size]; exact message), size, clocksOf, if_pos message]
  ac_rfl

theorem syndrome_flip_trailer {bytes : List Byte} {position : Nat} (large : 4 ≤ bytes.length)
    (trailer : 8 * (bytes.length - 4) ≤ position) (inside : position < 8 * bytes.length) :
    syndrome (flipBit bytes position) =
      syndrome bytes ^^^ column (clocksOf bytes.length position) := by
  have message : (flipBit bytes position).take (bytes.length - 4) =
      bytes.take (bytes.length - 4) := by
    apply List.ext_getElem?
    intro i
    rw [List.getElem?_take, List.getElem?_take, flipBit]
    split
    · rw [List.getElem?_modify_ne _ _ (by omega)]
    · rfl
  have read : readU32 (flipBit bytes position) (bytes.length - 4) =
      readU32 bytes (bytes.length - 4) ^^^ column (clocksOf bytes.length position) := by
    rw [clocksOf, if_neg (by omega), column_trailer (by omega)]
    exact readU32_flipBit (by omega) (by omega) (by omega) (by omega)
  rw [syndrome, syndrome, flipBit_length, message, read, BitVec.xor_assoc]

/-- One flipped bit adds its column to the syndrome. -/
theorem syndrome_flipBit {bytes : List Byte} {position : Nat} (large : 4 ≤ bytes.length)
    (inside : position < 8 * bytes.length) :
    syndrome (flipBit bytes position) =
      syndrome bytes ^^^ column (clocksOf bytes.length position) := by
  by_cases message : position < 8 * (bytes.length - 4)
  · exact syndrome_flip_message large message
  · exact syndrome_flip_trailer large (by omega) inside

theorem syndrome_flipBits (positions : List Nat) (bytes : List Byte) (large : 4 ≤ bytes.length)
    (inside : ∀ p ∈ positions, p < 8 * bytes.length) :
    syndrome (flipBits bytes positions) =
      (positions.map (clocksOf bytes.length)).foldl (fun sum c => sum ^^^ column c)
        (syndrome bytes) := by
  induction positions generalizing bytes with
  | nil => rfl
  | cons position positions ih =>
    have rest : ∀ p ∈ positions, p < 8 * (flipBit bytes position).length := by
      intro p member
      rw [flipBit_length]
      exact inside p (List.mem_cons_of_mem _ member)
    have tail := ih (flipBit bytes position) (by rw [flipBit_length]; exact large) rest
    rw [flipBit_length, syndrome_flipBit large (inside position List.mem_cons_self)] at tail
    exact tail

/-- One, two or three flipped bits anywhere in an encoded frame, at any distance and in any
field, are always detected. -/
theorem bit_flips_detected (frame : Frame) (encoded : (encode frame).error = .none)
    (positions : List Nat) (distinct : positions.Nodup)
    (few : 1 ≤ positions.length ∧ positions.length ≤ 3)
    (inside : ∀ p ∈ positions, p < 8 * (encode frame).bytes.length) :
    (decode (flipBits (encode frame).bytes positions)).frame = none ∧
      (decode (flipBits (encode frame).bytes positions)).error ≠ .none := by
  obtain ⟨valid, hbytes⟩ := (encode_ok_iff frame (encode frame).bytes).mp ⟨encoded, rfl⟩
  rw [hbytes] at inside ⊢
  have large : 4 ≤ (wireBytes frame).length := by rw [wireBytes_length]; omega
  have small : 8 * (wireBytes frame).length ≤ 2224 := by
    have := valid.payload
    rw [wireBytes_length]
    simp only [maximumPayloadSize] at this
    omega
  apply decode_rejects
  intro holds
  have zero := holds.syndrome
  rw [syndrome_flipBits positions _ large inside, (wireBytes_checksumHolds frame).syndrome] at zero
  refine columns_sum_ne_zero (positions.map (clocksOf (wireBytes frame).length)) ?_ ?_ ?_ ?_ zero
  · exact List.Nodup.map_on (fun p hp q hq same =>
      clocksOf_injective large (inside p hp) (inside q hq) same) distinct
  · intro empty
    have := few.1
    simp [List.map_eq_nil_iff.mp empty] at this
  · rw [List.length_map]
    exact few.2
  · intro clocks member
    obtain ⟨p, hp, rfl⟩ := List.mem_map.mp member
    have := clocksOf_lt p large
    omega

/-- Three bits of a read request, one in the length field, one in the payload and one in the
trailer. -/
theorem bit_flips_detected_read_request :
    (encode { requestId := 1, address := 0x100, payload := [0, 4] }).error = .none ∧
    (decode (flipBits (encode { requestId := 1, address := 0x100, payload := [0, 4] }).bytes
      [120, 151, 190])).frame = none :=
  ⟨by decide +kernel, (bit_flips_detected { requestId := 1, address := 0x100, payload := [0, 4] }
    (by decide +kernel) [120, 151, 190] (by decide) (by decide) (by decide +kernel)).1⟩

end Imlp
