import Mathlib.RingTheory.AdjoinRoot
import Mathlib.Algebra.CharP.Two
import Mathlib.Algebra.Field.ZMod
import Imlp.Misc.ShiftRegister

/-!
# Shift registers and polynomial division

The reflected register of `ShiftRegister` as arithmetic of polynomials over the field with
two elements. A word of width `w` stands for the polynomial whose coefficient of `X ^ j` is
bit `w - 1 - j`; the feedback word stands for a monic polynomial of degree `w` without its
leading term (`generator`). Modulo that polynomial a clock of the register is a
multiplication by `X`, and a whole input leaves the remainder of the message polynomial,
moved up by the width, plus the start value, moved up by the length of the message
(`polynomial_absorbs`).
-/

namespace ShiftRegister

open Polynomial

variable {w k : Nat}

/-- The polynomial of a word, highest bit at degree zero. -/
noncomputable def polynomial (c : BitVec w) : (ZMod 2)[X] :=
  ∑ j ∈ Finset.range w, if c.getMsbD j then X ^ j else 0

/-- The polynomial the register divides by. -/
noncomputable def generator (poly : BitVec w) : (ZMod 2)[X] := X ^ w + polynomial poly

/-- The polynomial of an input, first symbol at the highest degrees. -/
noncomputable def message : List (BitVec k) → (ZMod 2)[X]
  | [] => 0
  | symbol :: symbols => X ^ (k * symbols.length) * polynomial symbol + message symbols

/-- Bits counted from the two ends of a word. -/
theorem getMsbD_mirror (c : BitVec w) {i : Nat} (inside : i < w) :
    c.getMsbD (w - 1 - i) = c.getLsbD i := by
  have counted : w - 1 - i < w := by omega
  rw [BitVec.getMsbD_eq_getLsbD, decide_eq_true counted, Bool.true_and,
    show w - 1 - (w - 1 - i) = i by omega]

theorem coeff_polynomial (c : BitVec w) (j : Nat) :
    (polynomial c).coeff j = if c.getMsbD j then 1 else 0 := by
  have term : ∀ i, (if c.getMsbD i then X ^ i else 0 : (ZMod 2)[X]).coeff j =
      if j = i then (if c.getMsbD j then 1 else 0) else 0 := by
    intro i
    split_ifs <;> simp_all [coeff_X_pow]
  rw [polynomial, finsetSum_coeff]
  simp only [term, Finset.sum_ite_eq, Finset.mem_range]
  by_cases inside : j < w
  · rw [if_pos inside]
  · rw [if_neg inside, BitVec.getMsbD_of_ge c j (by omega), if_neg Bool.false_ne_true]

theorem degree_polynomial_lt (c : BitVec w) : (polynomial c).degree < w := by
  rw [degree_lt_iff_coeff_zero]
  intro j high
  rw [coeff_polynomial, BitVec.getMsbD_of_ge c j high, if_neg Bool.false_ne_true]

theorem generator_monic (poly : BitVec w) : (generator poly).Monic :=
  monic_X_pow_add (degree_polynomial_lt poly)

theorem degree_generator (poly : BitVec w) : (generator poly).degree = w := by
  rw [generator, degree_add_eq_left_of_degree_lt]
  · exact degree_X_pow w
  · rw [degree_X_pow]
    exact degree_polynomial_lt poly

/-- Exclusive or is addition. -/
theorem polynomial_xor (a b : BitVec w) :
    polynomial (a ^^^ b) = polynomial a + polynomial b := by
  ext j
  rw [coeff_add, coeff_polynomial, coeff_polynomial, coeff_polynomial, BitVec.getMsbD_xor]
  cases a.getMsbD j <;> cases b.getMsbD j <;> decide

/-- Moving a word down moves its polynomial up; the bit that falls out has degree `w`. -/
theorem X_mul_polynomial (c : BitVec w) :
    X * polynomial c = polynomial (c >>> 1) + if c.getLsbD 0 then X ^ w else 0 := by
  ext j
  have feedback : (if c.getLsbD 0 then X ^ w else 0 : (ZMod 2)[X]).coeff j =
      if c.getLsbD 0 ∧ j = w then 1 else 0 := by
    split_ifs <;> simp_all [coeff_X_pow]
  rw [coeff_add, coeff_polynomial, BitVec.getMsbD_ushiftRight, feedback]
  cases j with
  | zero =>
    by_cases empty : w = 0
    · subst empty
      simp
    · simp [Ne.symm empty]
  | succ j =>
    rw [coeff_X_mul, coeff_polynomial]
    by_cases inside : j + 1 < w
    · simp [inside, Nat.ne_of_lt inside]
    · by_cases last : j + 1 = w
      · have lowest : c.getMsbD j = c.getLsbD 0 := by
          rw [← getMsbD_mirror c (show 0 < w by omega), show w - 1 - 0 = j by omega]
        simp [last, lowest]
      · simp [inside, last, BitVec.getMsbD_of_ge c j (by omega)]

/-- A symbol in the low bits of a word has its polynomial at the high degrees. -/
theorem polynomial_setWidth (symbol : BitVec k) (fits : k ≤ w) :
    polynomial (symbol.setWidth w) = X ^ (w - k) * polynomial symbol := by
  ext j
  rw [coeff_X_pow_mul', coeff_polynomial, coeff_polynomial, BitVec.getMsbD_setWidth]
  by_cases high : w - k ≤ j
  · rw [if_pos high, decide_eq_true high, Bool.true_and, show j + k - w = j - (w - k) by omega]
  · rw [if_neg high, decide_eq_false high, Bool.false_and, if_neg Bool.false_ne_true]

/-- The residue class of a register. -/
noncomputable def residue (poly c : BitVec w) : AdjoinRoot (generator poly) :=
  AdjoinRoot.mk (generator poly) (polynomial c)

theorem residue_xor (poly a b : BitVec w) :
    residue poly (a ^^^ b) = residue poly a + residue poly b := by
  rw [residue, polynomial_xor, map_add, residue, residue]

/-- One clock multiplies the register by `X`. -/
theorem residue_shift (poly c : BitVec w) :
    residue poly (shift poly c) = AdjoinRoot.root (generator poly) * residue poly c := by
  have moved : polynomial (shift poly c) =
      polynomial (c >>> 1) + if c.getLsbD 0 then polynomial poly else 0 := by
    rw [shift, polynomial_xor]
    split
    · rfl
    · rw [show polynomial 0#w = 0 by ext j; simp [coeff_polynomial]]
  rw [residue, residue, ← AdjoinRoot.mk_X, ← map_mul, AdjoinRoot.mk_eq_mk, moved,
    X_mul_polynomial]
  split
  · -- the feedback word and `X ^ w` differ by the generator, as signs do not matter
    rw [add_sub_add_left_eq_sub, CharTwo.sub_eq_add, add_comm]
    exact dvd_rfl
  · rw [sub_self]
    exact dvd_zero _

theorem residue_iterate (poly c : BitVec w) (n : Nat) :
    residue poly ((shift poly)^[n] c) =
      AdjoinRoot.root (generator poly) ^ n * residue poly c := by
  induction n with
  | zero => rw [Function.iterate_zero_apply, pow_zero, one_mul]
  | succ n ih =>
    rw [Function.iterate_succ_apply', residue_shift, ih, pow_succ']
    exact (mul_assoc _ _ _).symm

theorem residue_absorb (poly c : BitVec w) (symbol : BitVec k) (fits : k ≤ w) :
    residue poly (absorb poly c symbol) =
      AdjoinRoot.root (generator poly) ^ k * residue poly c +
        AdjoinRoot.root (generator poly) ^ w *
          AdjoinRoot.mk (generator poly) (polynomial symbol) := by
  have symbolResidue : residue poly (symbol.setWidth w) =
      AdjoinRoot.root (generator poly) ^ (w - k) *
        AdjoinRoot.mk (generator poly) (polynomial symbol) := by
    rw [residue, polynomial_setWidth symbol fits, map_mul, map_pow, AdjoinRoot.mk_X]
  rw [absorb, residue_iterate, residue_xor, symbolResidue, mul_add, ← mul_assoc, ← pow_add,
    Nat.add_sub_cancel' fits]

/-- A whole input: start value and message at the degrees they have in the division. -/
theorem residue_absorbs (poly c : BitVec w) (symbols : List (BitVec k)) (fits : k ≤ w) :
    residue poly (absorbs poly c symbols) =
      AdjoinRoot.mk (generator poly)
        (message symbols * X ^ w + polynomial c * X ^ (k * symbols.length)) := by
  induction symbols generalizing c with
  | nil => simp [message, residue]
  | cons symbol symbols ih =>
    rw [absorbs_cons, ih, message]
    have step := residue_absorb poly c symbol fits
    rw [residue] at step
    simp only [map_add, map_mul, map_pow, AdjoinRoot.mk_X, step, residue, List.length_cons]
    ring

/-- A reflected register computes the remainder of a polynomial division. -/
theorem polynomial_absorbs (poly c : BitVec w) (symbols : List (BitVec k)) (fits : k ≤ w) :
    polynomial (absorbs poly c symbols) =
      (message symbols * X ^ w + polynomial c * X ^ (k * symbols.length)) %ₘ generator poly := by
  have congruent := residue_absorbs poly c symbols fits
  rw [residue, AdjoinRoot.mk_eq_mk] at congruent
  have small : (polynomial (absorbs poly c symbols)).degree < (generator poly).degree := by
    rw [degree_generator]
    exact degree_polynomial_lt _
  obtain ⟨quotient, difference⟩ := congruent
  have division : polynomial (absorbs poly c symbols) + generator poly * -quotient =
      message symbols * X ^ w + polynomial c * X ^ (k * symbols.length) := by
    rw [mul_neg, ← difference]
    ring
  exact (div_modByMonic_unique _ _ (generator_monic poly) ⟨division, small⟩).2.symm

end ShiftRegister
