import Imlp.Misc.ShiftRegister

/-!
# Registers fed bit by bit

A register that absorbs symbols of `k` bits ends in the same state when it absorbs their bits
one by one, the lowest bit of each symbol first (`absorbs_bits`). On single bits the symbol
boundaries are gone: two inputs that agree outside `w` consecutive bits, at any offset, are a
common front, two windows that fit the register and a common back, and the register tells
them apart (`eq_of_absorbs_eq`).
-/

namespace ShiftRegister

variable {w k : Nat}

/-- The bits of an input as an input of its own. -/
def bits (symbols : List (BitVec k)) : List (BitVec 1) :=
  (List.range (k * symbols.length)).map fun i => BitVec.ofBool (bitAt symbols i)

@[simp] theorem bits_length (symbols : List (BitVec k)) :
    (bits symbols).length = k * symbols.length := by
  rw [bits, List.length_map, List.length_range]

theorem bits_getElem? (symbols : List (BitVec k)) (i : Nat) :
    (bits symbols)[i]? =
      if i < k * symbols.length then some (BitVec.ofBool (bitAt symbols i)) else none := by
  rw [bits, List.getElem?_map]
  split
  · rename_i inside
    rw [List.getElem?_range inside, Option.map_some]
  · rename_i beyond
    rw [List.getElem?_eq_none (by rw [List.length_range]; omega), Option.map_none]

/-- Taking an input apart keeps every bit at its place. -/
theorem bitAt_bits (symbols : List (BitVec k)) (i : Nat) :
    bitAt (bits symbols) i = bitAt symbols i := by
  rw [bitAt, Nat.div_one, Nat.mod_one, List.getD_eq_getElem?_getD, bits_getElem?]
  split
  · rw [Option.getD_some, BitVec.getLsbD_ofBool, decide_eq_true rfl, Bool.true_and]
  · rename_i beyond
    rw [Option.getD_none, BitVec.getLsbD_zero, bitAt_of_beyond (by omega)]

theorem word_bits (symbols : List (BitVec k)) : word w (bits symbols) = word w symbols := by
  apply BitVec.eq_of_getLsbD_eq
  intro i inside
  rw [getLsbD_word _ inside, getLsbD_word _ inside, bitAt_bits]

theorem bits_cons (symbol : BitVec k) (symbols : List (BitVec k)) :
    bits (symbol :: symbols) = bits [symbol] ++ bits symbols := by
  have size : k * (symbol :: symbols).length = k * [symbol].length + k * symbols.length := by
    rw [List.length_cons, List.length_singleton, Nat.mul_succ, Nat.mul_one, Nat.add_comm]
  rw [bits, size, List.range_add, List.map_append, List.map_map, bits, bits]
  congr 1
  · apply List.map_congr_left
    intro i member
    rw [List.mem_range, List.length_singleton, Nat.mul_one] at member
    rw [bitAt_cons_low member, bitAt_cons_low member]
  · apply List.map_congr_left
    intro i _
    rw [Function.comp_apply, List.length_singleton, Nat.mul_one, bitAt_cons_add]

/-- The register does not see symbol boundaries. -/
theorem absorbs_bits (poly c : BitVec w) (fits : k ≤ w) (symbols : List (BitVec k)) :
    absorbs poly c (bits symbols) = absorbs poly c symbols := by
  induction symbols generalizing c with
  | nil => rfl
  | cons symbol symbols ih =>
    have size : k * [symbol].length ≤ w := by rwa [List.length_singleton, Nat.mul_one]
    have first : absorbs poly c (bits [symbol]) = absorbs poly c [symbol] := by
      rw [absorbs_eq_word poly c (bits [symbol]) (by rwa [bits_length, Nat.one_mul]),
        absorbs_eq_word poly c [symbol] size, bits_length, Nat.one_mul, word_bits]
    rw [bits_cons, absorbs_append, first, ih]
    rfl

section Window

variable {α : Type} {left right : List α}

theorem take_congr {count : Nat} (same : ∀ i, i < count → left[i]? = right[i]?) :
    left.take count = right.take count := by
  apply List.ext_getElem?
  intro i
  rw [List.getElem?_take, List.getElem?_take]
  split
  · rename_i low
    exact same i low
  · rfl

theorem drop_congr {start : Nat} (same : ∀ i, start ≤ i → left[i]? = right[i]?) :
    left.drop start = right.drop start := by
  apply List.ext_getElem?
  intro i
  rw [List.getElem?_drop, List.getElem?_drop]
  exact same (start + i) (by omega)

/-- Two lists of one length that agree outside a window differ only in what stands there. -/
theorem exists_windows (length : left.length = right.length) {start size : Nat}
    (outside : ∀ i, i < start ∨ start + size ≤ i → left[i]? = right[i]?) :
    ∃ front window window' back, left = front ++ window ++ back ∧
      right = front ++ window' ++ back ∧ window.length = window'.length ∧
      window.length ≤ size := by
  have before : left.take start = right.take start :=
    take_congr (fun i low => outside i (.inl low))
  have after : left.drop (start + size) = right.drop (start + size) :=
    drop_congr (fun i high => outside i (.inr high))
  have cut : ∀ elements : List α, elements = elements.take start ++
      (elements.drop start).take size ++ elements.drop (start + size) := by
    intro elements
    rw [← List.take_add, List.take_append_drop]
  refine ⟨left.take start, (left.drop start).take size, (right.drop start).take size,
    left.drop (start + size), cut left, ?_, ?_, List.length_take_le _ _⟩
  · rw [before, after]
    exact cut right
  · rw [List.length_take, List.length_take, List.length_drop, List.length_drop, length]

end Window

/-- Inputs that agree outside as many consecutive bits as the register has are told apart,
whatever the offset of these bits is. -/
theorem eq_of_absorbs_eq {poly : BitVec w} (top : poly.getLsbD (w - 1) = true) (c : BitVec w)
    (fits : k ≤ w) {left right : List (BitVec k)} (length : left.length = right.length)
    {start : Nat}
    (outside : ∀ i, i < k * left.length → i < start ∨ start + w ≤ i →
      bitAt left i = bitAt right i)
    (same : absorbs poly c left = absorbs poly c right) : left = right := by
  have sizes : (bits left).length = (bits right).length := by
    rw [bits_length, bits_length, length]
  have agree : ∀ i, i < start ∨ start + w ≤ i → (bits left)[i]? = (bits right)[i]? := by
    intro i window
    rw [bits_getElem?, bits_getElem?, ← length]
    split
    · rename_i inside
      rw [outside i inside window]
    · rfl
  obtain ⟨front, window, window', back, leftBits, rightBits, windows, short⟩ :=
    exists_windows sizes agree
  rw [← absorbs_bits poly c fits left, ← absorbs_bits poly c fits right, leftBits,
    rightBits] at same
  have equal : window = window' := by
    by_contra different
    exact absorbs_window_ne top c front back (by rwa [Nat.one_mul]) windows different same
  apply eq_of_bitAt_eq length
  intro i
  rw [← bitAt_bits left, ← bitAt_bits right, leftBits, rightBits, equal]

end ShiftRegister
