import Imlp.Misc.RegisterPolynomial
import Imlp.Codec.Checksum

/-!
# `crc32` is the IEEE CRC-32

The reference definition of the checksum is a division of polynomials over the field with
two elements: the message, with its bits in the order in which they are sent, is moved up by
32, the complemented start value is added to its first 32 bits, and the remainder is read
backwards and complemented. `crc32` (`src/codec.cpp:96-106`) never forms these
polynomials; it is the register of `RegisterPolynomial` with the generator's coefficients in
reflected order.
-/

namespace Imlp
open Polynomial ShiftRegister

/-- The generator polynomial of the IEEE CRC-32. -/
noncomputable def ieeeGenerator : (ZMod 2)[X] :=
  X ^ 32 + X ^ 26 + X ^ 23 + X ^ 22 + X ^ 16 + X ^ 12 + X ^ 11 + X ^ 10 + X ^ 8 + X ^ 7 +
    X ^ 5 + X ^ 4 + X ^ 2 + X + 1

/-- The polynomial of a byte string: bit `i` of the string, bytes in order and the least
significant bit of each first, has degree `8 * n - 1 - i`. -/
noncomputable def messagePolynomial (bytes : List Byte) : (ZMod 2)[X] :=
  ∑ i ∈ Finset.range (8 * bytes.length),
    if (byteAt bytes (i / 8)).getLsbD (i % 8) then X ^ (8 * bytes.length - 1 - i) else 0

/-- The word whose bit `31 - j` is the coefficient of `X ^ j`. -/
noncomputable def reflectedWord (remainder : (ZMod 2)[X]) : BitVec 32 :=
  (List.range 32).foldl (fun word j =>
    if remainder.coeff j = 1 then word ||| BitVec.twoPow 32 (31 - j) else word) 0#32

/-- The IEEE CRC-32 of a byte string. -/
noncomputable def ieeeCrc32 (bytes : List Byte) : BitVec 32 :=
  ~~~ reflectedWord
    ((messagePolynomial bytes * X ^ 32 +
      (∑ j ∈ Finset.range 32, X ^ j) * X ^ (8 * bytes.length)) %ₘ ieeeGenerator)

theorem getLsbD_reflectedWord (remainder : (ZMod 2)[X]) {i : Nat} (inside : i < 32) :
    (reflectedWord remainder).getLsbD i = decide (remainder.coeff (31 - i) = 1) := by
  -- a loop over any of the degrees sets the bits of exactly these degrees
  have loop : ∀ (degrees : List Nat) (word : BitVec 32),
      (degrees.foldl (fun word j =>
        if remainder.coeff j = 1 then word ||| BitVec.twoPow 32 (31 - j) else word) word).getLsbD i =
      (word.getLsbD i || degrees.any (fun j => remainder.coeff j = 1 ∧ 31 - j = i)) := by
    intro degrees
    induction degrees with
    | nil => intro word; simp
    | cons j degrees ih =>
      intro word
      rw [List.foldl_cons, ih, List.any_cons, ← Bool.or_assoc]
      congr 1
      split
      · rename_i set
        rw [BitVec.getLsbD_or, BitVec.getLsbD_twoPow]
        simp [set, inside, show 31 - j < 32 by omega]
      · rename_i clear
        simp [clear]
  rw [reflectedWord, loop, BitVec.getLsbD_zero, Bool.false_or]
  by_cases set : remainder.coeff (31 - i) = 1
  · rw [decide_eq_true set, List.any_eq_true]
    refine ⟨31 - i, List.mem_range.mpr (by omega), ?_⟩
    rw [decide_eq_true_eq]
    exact ⟨set, by omega⟩
  · rw [decide_eq_false set, List.any_eq_false]
    intro j member
    rw [List.mem_range] at member
    rw [decide_eq_true_eq]
    rintro ⟨other, rfl⟩
    rw [show 31 - (31 - j) = j by omega] at set
    exact set other

/-- Reading the word back from its polynomial. -/
theorem reflectedWord_polynomial (c : BitVec 32) : reflectedWord (polynomial c) = c := by
  apply BitVec.eq_of_getLsbD_eq
  intro i inside
  rw [getLsbD_reflectedWord _ inside, coeff_polynomial, show 31 - i = 32 - 1 - i by omega,
    getMsbD_mirror c inside]
  cases c.getLsbD i <;> decide

/-- The feedback word of `crc32` holds the generator's lower coefficients, mirrored. -/
theorem generator_crcPoly : generator crcPoly = ieeeGenerator := by
  have lower : polynomial crcPoly = X ^ 26 + X ^ 23 + X ^ 22 + X ^ 16 + X ^ 12 + X ^ 11 +
      X ^ 10 + X ^ 8 + X ^ 7 + X ^ 5 + X ^ 4 + X ^ 2 + X + 1 := by
    rw [polynomial]
    simp only [Finset.sum_range_succ, Finset.sum_range_zero]
    simp [crcPoly]
    ring
  rw [generator, lower, ieeeGenerator]
  ring

theorem polynomial_start : polynomial 0xFFFFFFFF#32 = ∑ j ∈ Finset.range 32, X ^ j := by
  rw [polynomial]
  apply Finset.sum_congr rfl
  intro j member
  rw [Finset.mem_range] at member
  rw [show 0xFFFFFFFF#32 = BitVec.allOnes 32 from rfl, BitVec.getMsbD_allOnes,
    decide_eq_true member, if_pos rfl]

/-- The message polynomial of the library, bit by bit. -/
theorem message_eq (bytes : List Byte) : message bytes = messagePolynomial bytes := by
  induction bytes with
  | nil => simp [message, messagePolynomial]
  | cons byte bytes ih =>
    have size : 8 * (byte :: bytes).length = 8 + 8 * bytes.length := by
      rw [List.length_cons]
      omega
    have first : ∑ i ∈ Finset.range 8,
        (if (byteAt (byte :: bytes) (i / 8)).getLsbD (i % 8) then
          X ^ (8 + 8 * bytes.length - 1 - i) else 0 : (ZMod 2)[X]) =
        X ^ (8 * bytes.length) * polynomial byte := by
      rw [polynomial, Finset.mul_sum]
      refine Eq.trans ?_ (Finset.sum_range_reflect _ 8)
      apply Finset.sum_congr rfl
      intro i member
      rw [Finset.mem_range] at member
      rw [show i / 8 = 0 by omega, show i % 8 = i by omega, byteAt_cons_zero,
        getMsbD_mirror byte member, mul_ite, mul_zero, ← pow_add,
        show 8 * bytes.length + (8 - 1 - i) = 8 + 8 * bytes.length - 1 - i by omega]
    have others : ∑ i ∈ Finset.range (8 * bytes.length),
        (if (byteAt (byte :: bytes) ((8 + i) / 8)).getLsbD ((8 + i) % 8) then
          X ^ (8 + 8 * bytes.length - 1 - (8 + i)) else 0 : (ZMod 2)[X]) =
        messagePolynomial bytes := by
      rw [messagePolynomial]
      apply Finset.sum_congr rfl
      intro i member
      rw [show (8 + i) / 8 = i / 8 + 1 by omega, show (8 + i) % 8 = i % 8 by omega,
        show 8 + 8 * bytes.length - 1 - (8 + i) = 8 * bytes.length - 1 - i by omega]
      rfl
    rw [message, ih]
    conv_rhs => rw [messagePolynomial, size, Finset.sum_range_add, first, others]

theorem crc32_eq_ieeeCrc32 (bytes : List Byte) : crc32 bytes = ieeeCrc32 bytes := by
  have remainder := polynomial_absorbs crcPoly 0xFFFFFFFF#32 bytes (by omega)
  rw [message_eq, polynomial_start, generator_crcPoly] at remainder
  rw [ieeeCrc32, ← remainder, reflectedWord_polynomial, crc32_eq]

/-- `crc32` is the IEEE CRC-32, by its definition as a division of polynomials. -/
theorem crc32_is_ieee (bytes : List Byte) :
    crc32 bytes = ~~~ reflectedWord
      ((messagePolynomial bytes * X ^ 32 +
        (∑ j ∈ Finset.range 32, X ^ j) * X ^ (8 * bytes.length)) %ₘ ieeeGenerator) :=
  crc32_eq_ieeeCrc32 bytes

end Imlp
