import Imlp.Misc.XorLinear

/-!
# Reflected feedback shift registers

The register of a reflected cyclic redundancy check, for an arbitrary width and feedback
word. One clock moves the register down by one bit and adds the feedback word when the
bit that falls out is set (`shift`). Input symbols of any width are added at the low end
and clocked through (`absorb`, `absorbs`).

The register is linear, it never forgets a difference when its feedback word has the top
bit set (`shift_injective`), and symbols that together fit the register are read as one
word (`absorbs_eq_word`). These three facts carry every statement about which changes of
the input the register can tell apart.
-/

namespace ShiftRegister

variable {w k : Nat}

/-- One clock of the register. -/
def shift (poly c : BitVec w) : BitVec w :=
  (c >>> 1) ^^^ (if c.getLsbD 0 then poly else 0#w)

theorem shift_linear (poly : BitVec w) : XorLinear (shift poly) := by
  have down : XorLinear (fun c : BitVec w => c >>> 1) :=
    fun a b => BitVec.ushiftRight_xor_distrib a b 1
  exact down.xor (XorLinear.select 0 poly)

theorem iterate_xor (poly a b : BitVec w) (n : Nat) :
    (shift poly)^[n] (a ^^^ b) = (shift poly)^[n] a ^^^ (shift poly)^[n] b :=
  (shift_linear poly).iterate n a b

theorem iterate_zero (poly : BitVec w) (n : Nat) : (shift poly)^[n] 0#w = 0#w :=
  ((shift_linear poly).iterate n).map_zero

/-- Only the zero register clocks to zero: a bit that falls out is replaced by the top bit
of the feedback word. -/
theorem eq_zero_of_shift_eq_zero {poly c : BitVec w} (top : poly.getLsbD (w - 1) = true)
    (h : shift poly c = 0#w) : c = 0#w := by
  have bits : ∀ i, (shift poly c).getLsbD i = false := by intro i; simp [h]
  have lowest : c.getLsbD 0 = false := by
    cases set : c.getLsbD 0 with
    | false => rfl
    | true =>
      have highest := bits (w - 1)
      have out : c.getLsbD (1 + (w - 1)) = false := BitVec.getLsbD_of_ge c _ (by omega)
      simp [shift, set, top, out] at highest
  apply BitVec.eq_of_getLsbD_eq
  intro i _
  cases i with
  | zero => simpa using lowest
  | succ i =>
    have := bits i
    simp only [shift, lowest, Bool.false_eq_true, if_false, BitVec.xor_zero,
      BitVec.getLsbD_ushiftRight] at this
    simpa [Nat.add_comm] using this

theorem shift_injective {poly : BitVec w} (top : poly.getLsbD (w - 1) = true) :
    Function.Injective (shift poly) := by
  intro a b h
  have zero : shift poly (a ^^^ b) = 0#w := by
    rw [shift_linear, h, BitVec.xor_self]
  exact BitVec.xor_eq_zero_iff.mp (eq_zero_of_shift_eq_zero top zero)

theorem iterate_injective {poly : BitVec w} (top : poly.getLsbD (w - 1) = true) (n : Nat) :
    Function.Injective (shift poly)^[n] :=
  (shift_injective top).iterate n

/-- A nonzero difference in the register stays nonzero. -/
theorem iterate_ne_zero {poly c : BitVec w} (top : poly.getLsbD (w - 1) = true) (n : Nat)
    (h : c ≠ 0#w) : (shift poly)^[n] c ≠ 0#w := by
  intro zero
  apply h
  apply iterate_injective top n
  rw [zero, iterate_zero]

/-- A word whose low bits are clear moves down by as many clocks. -/
theorem shift_shiftLeft (poly c : BitVec w) (clear : c.getLsbD (w - 1) = false) :
    shift poly (c <<< 1) = c := by
  apply BitVec.eq_of_getLsbD_eq
  intro i hi
  have lowest : (c <<< 1).getLsbD 0 = false := by simp
  simp only [shift, lowest, Bool.false_eq_true, if_false, BitVec.xor_zero,
    BitVec.getLsbD_ushiftRight, BitVec.getLsbD_shiftLeft]
  by_cases inside : 1 + i < w
  · simp [inside]
  · obtain rfl : i = w - 1 := by omega
    simp [inside, clear]

theorem iterate_shiftLeft (poly c : BitVec w) (n : Nat)
    (clear : ∀ i, w ≤ i + n → c.getLsbD i = false) : (shift poly)^[n] (c <<< n) = c := by
  induction n generalizing c with
  | zero => simp
  | succ n ih =>
    have top : (c <<< n).getLsbD (w - 1) = false := by
      rw [BitVec.getLsbD_shiftLeft]
      by_cases h : w - 1 < n
      · simp [h]
      · simp [h, clear (w - 1 - n) (by omega)]
    rw [Function.iterate_succ_apply, BitVec.shiftLeft_add, shift_shiftLeft poly _ top]
    exact ih c (fun i hi => clear i (by omega))

theorem iterate_twoPow (poly : BitVec w) (bit n : Nat) (h : bit + n < w) :
    (shift poly)^[n] (BitVec.twoPow w (bit + n)) = BitVec.twoPow w bit := by
  have move : BitVec.twoPow w (bit + n) = BitVec.twoPow w bit <<< n := by
    apply BitVec.eq_of_getLsbD_eq
    intro i hi
    simp only [BitVec.getLsbD_twoPow, BitVec.getLsbD_shiftLeft]
    grind
  rw [move]
  apply iterate_shiftLeft
  intro i hi
  rw [BitVec.getLsbD_twoPow]
  simp
  omega

/-- Add a symbol at the low end of the register and clock it through. -/
def absorb (poly c : BitVec w) (symbol : BitVec k) : BitVec w :=
  (shift poly)^[k] (c ^^^ symbol.setWidth w)

/-- Clock a whole input through the register. -/
def absorbs (poly c : BitVec w) (symbols : List (BitVec k)) : BitVec w :=
  symbols.foldl (absorb poly) c

@[simp] theorem absorbs_nil (poly c : BitVec w) :
    absorbs poly c ([] : List (BitVec k)) = c := rfl

@[simp] theorem absorbs_cons (poly c : BitVec w) (symbol : BitVec k)
    (symbols : List (BitVec k)) :
    absorbs poly c (symbol :: symbols) = absorbs poly (absorb poly c symbol) symbols := rfl

theorem absorbs_append (poly c : BitVec w) (left right : List (BitVec k)) :
    absorbs poly c (left ++ right) = absorbs poly (absorbs poly c left) right :=
  List.foldl_append

theorem absorb_xor_register (poly c d : BitVec w) (symbol : BitVec k) :
    absorb poly (c ^^^ d) symbol = absorb poly c symbol ^^^ (shift poly)^[k] d := by
  rw [absorb, absorb, ← iterate_xor]
  congr 1
  ac_rfl

theorem absorb_xor_symbol (poly c : BitVec w) (symbol change : BitVec k) :
    absorb poly c (symbol ^^^ change) =
      absorb poly c symbol ^^^ (shift poly)^[k] (change.setWidth w) := by
  rw [absorb, absorb, ← iterate_xor, BitVec.setWidth_xor]
  congr 1
  ac_rfl

/-- A difference in the register is clocked along by the input, whatever the input is. -/
theorem absorbs_xor_register (poly c d : BitVec w) (symbols : List (BitVec k)) :
    absorbs poly (c ^^^ d) symbols =
      absorbs poly c symbols ^^^ (shift poly)^[k * symbols.length] d := by
  induction symbols generalizing c d with
  | nil => rfl
  | cons symbol symbols ih =>
    rw [absorbs_cons, absorbs_cons, absorb_xor_register, ih, List.length_cons,
      Nat.mul_succ, Function.iterate_add_apply]

/-- The same input keeps two different registers apart. -/
theorem absorbs_injective {poly : BitVec w} (top : poly.getLsbD (w - 1) = true)
    (symbols : List (BitVec k)) : Function.Injective (fun c => absorbs poly c symbols) := by
  intro c d h
  have same : absorbs poly c symbols ^^^ absorbs poly d symbols = 0#w :=
    BitVec.xor_eq_zero_iff.mpr h
  have split : d = c ^^^ (c ^^^ d) := by rw [← BitVec.xor_assoc, BitVec.xor_self, BitVec.zero_xor]
  rw [split, absorbs_xor_register, ← BitVec.xor_assoc, BitVec.xor_self, BitVec.zero_xor] at same
  by_contra different
  exact iterate_ne_zero top _ (fun zero => different (BitVec.xor_eq_zero_iff.mp zero)) same

/-- A change of one symbol reaches the final register after the clocks that follow it. -/
theorem absorbs_change (poly c : BitVec w) (left right : List (BitVec k))
    (symbol change : BitVec k) :
    absorbs poly c (left ++ (symbol ^^^ change) :: right) =
      absorbs poly c (left ++ symbol :: right) ^^^
        (shift poly)^[k * (right.length + 1)] (change.setWidth w) := by
  rw [absorbs_append, absorbs_append, absorbs_cons, absorbs_cons, absorb_xor_symbol,
    absorbs_xor_register, Nat.mul_succ, Function.iterate_add_apply]

/-- Bit `i` of an input: symbols in order, the lowest bit of each first. Beyond the end every
bit is clear. -/
def bitAt (symbols : List (BitVec k)) (i : Nat) : Bool :=
  (symbols.getD (i / k) 0#k).getLsbD (i % k)

theorem bitAt_width_zero (symbols : List (BitVec 0)) (i : Nat) : bitAt symbols i = false :=
  BitVec.getLsbD_of_ge _ _ (Nat.zero_le _)

theorem bitAt_of_beyond {symbols : List (BitVec k)} {i : Nat} (beyond : k * symbols.length ≤ i) :
    bitAt symbols i = false := by
  rcases Nat.eq_zero_or_pos k with rfl | positive
  · exact bitAt_width_zero symbols i
  · have outside : symbols.length ≤ i / k := by
      rw [Nat.le_div_iff_mul_le positive, Nat.mul_comm]
      exact beyond
    rw [bitAt, List.getD_eq_getElem?_getD, List.getElem?_eq_none outside, Option.getD_none,
      BitVec.getLsbD_zero]

theorem bitAt_cons_low {symbol : BitVec k} {symbols : List (BitVec k)} {i : Nat} (low : i < k) :
    bitAt (symbol :: symbols) i = symbol.getLsbD i := by
  rw [bitAt, Nat.div_eq_of_lt low, Nat.mod_eq_of_lt low, List.getD_cons_zero]

theorem bitAt_cons_add {symbol : BitVec k} {symbols : List (BitVec k)} (i : Nat) :
    bitAt (symbol :: symbols) (k + i) = bitAt symbols i := by
  rcases Nat.eq_zero_or_pos k with rfl | positive
  · rw [bitAt_width_zero, bitAt_width_zero]
  · rw [bitAt, Nat.add_div_left i positive, Nat.add_mod_left, List.getD_cons_succ, bitAt]

/-- Inputs of the same length with the same bits are equal. -/
theorem eq_of_bitAt_eq {left right : List (BitVec k)} (length : left.length = right.length)
    (same : ∀ i, bitAt left i = bitAt right i) : left = right := by
  apply List.ext_getElem length
  intro n inside inside'
  apply BitVec.eq_of_getLsbD_eq
  intro i small
  have bit := same (k * n + i)
  have symbol : (k * n + i) / k = n := by
    rw [Nat.mul_add_div (by omega), Nat.div_eq_of_lt small, Nat.add_zero]
  have place : (k * n + i) % k = i := by rw [Nat.mul_add_mod, Nat.mod_eq_of_lt small]
  rwa [bitAt, bitAt, symbol, place, List.getD_eq_getElem?_getD, List.getD_eq_getElem?_getD,
    List.getElem?_eq_getElem inside, List.getElem?_eq_getElem inside', Option.getD_some,
    Option.getD_some] at bit

/-- The symbols of an input laid side by side, the first one lowest. -/
def word (w : Nat) : List (BitVec k) → BitVec w
  | [] => 0#w
  | symbol :: symbols => symbol.setWidth w ^^^ (word w symbols <<< k)

/-- The bits of a word are the bits of the input it is made of. -/
theorem getLsbD_word (symbols : List (BitVec k)) {i : Nat} (inside : i < w) :
    (word w symbols).getLsbD i = bitAt symbols i := by
  induction symbols generalizing i with
  | nil => simp [word, bitAt]
  | cons symbol symbols ih =>
    by_cases low : i < k
    · rw [bitAt_cons_low low]
      simp [word, inside, low]
    · obtain ⟨j, rfl⟩ := Nat.exists_eq_add_of_le (Nat.le_of_not_lt low)
      rw [bitAt_cons_add, ← ih (by omega)]
      simp only [word, BitVec.getLsbD_xor, BitVec.getLsbD_setWidth, BitVec.getLsbD_shiftLeft]
      simp [inside, low]

theorem word_high (symbols : List (BitVec k)) (i : Nat) (h : k * symbols.length ≤ i) :
    (word w symbols).getLsbD i = false := by
  by_cases inside : i < w
  · rw [getLsbD_word symbols inside, bitAt_of_beyond h]
  · exact BitVec.getLsbD_of_ge _ i (by omega)

/-- Symbols that fit the register together have the effect of one word. -/
theorem absorbs_eq_word (poly c : BitVec w) (symbols : List (BitVec k))
    (fits : k * symbols.length ≤ w) :
    absorbs poly c symbols = (shift poly)^[k * symbols.length] (c ^^^ word w symbols) := by
  induction symbols generalizing c with
  | nil => simp [word]
  | cons symbol symbols ih =>
    rw [List.length_cons, Nat.mul_succ] at fits
    -- the later symbols sit above the first one and move down while it is clocked through
    have later : (shift poly)^[k] (word w symbols <<< k) = word w symbols :=
      iterate_shiftLeft poly _ k (fun i hi => word_high symbols i (by omega))
    rw [absorbs_cons, ih _ (by omega), List.length_cons, Nat.mul_succ,
      Function.iterate_add_apply, word, ← BitVec.xor_assoc, iterate_xor poly _ (_ <<< _), later]
    rfl

theorem word_injective {symbols symbols' : List (BitVec k)}
    (fits : k * symbols.length ≤ w) (length : symbols.length = symbols'.length)
    (h : word w symbols = word w symbols') : symbols = symbols' := by
  apply eq_of_bitAt_eq length
  intro i
  by_cases inside : i < w
  · rw [← getLsbD_word symbols inside, ← getLsbD_word symbols' inside, h]
  · rw [bitAt_of_beyond (by omega), bitAt_of_beyond (by rw [← length]; omega)]

/-- A stretch of input no longer than the register is told apart from any other of the same
length, wherever it stands. -/
theorem absorbs_window_ne {poly : BitVec w} (top : poly.getLsbD (w - 1) = true) (c : BitVec w)
    (left right : List (BitVec k)) {window window' : List (BitVec k)}
    (fits : k * window.length ≤ w) (length : window.length = window'.length)
    (different : window ≠ window') :
    absorbs poly c (left ++ window ++ right) ≠ absorbs poly c (left ++ window' ++ right) := by
  intro same
  rw [absorbs_append, absorbs_append, absorbs_append _ _ _ right, absorbs_append] at same
  have windows := absorbs_injective top right same
  rw [absorbs_eq_word _ _ window fits, absorbs_eq_word _ _ window' (by rw [← length]; exact fits),
    length] at windows
  have words := iterate_injective top _ windows
  exact different (word_injective fits length (BitVec.xor_right_inj _ |>.mp words))

end ShiftRegister
