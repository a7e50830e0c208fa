import Mathlib.Logic.Function.Iterate

/-!
# Exclusive-or linear maps on words

Words of a fixed width form a vector space over the two-element field, with exclusive or
as addition and the powers of two as a basis. A map that respects exclusive or is
determined by its values on that basis (`XorLinear.eq_of_basis`). `combine` applies a
matrix given by its columns, so that a claimed inverse of a linear map is checked by
evaluating both on finitely many basis words.
-/

/-- The maps that respect exclusive or. -/
def XorLinear {n m : Nat} (f : BitVec n → BitVec m) : Prop :=
  ∀ a b, f (a ^^^ b) = f a ^^^ f b

namespace XorLinear

variable {n m k : Nat}

theorem map_zero {f : BitVec n → BitVec m} (hf : XorLinear f) : f 0#n = 0#m := by
  have h := hf 0#n 0#n
  rwa [BitVec.xor_self, BitVec.xor_self] at h

theorem comp {f : BitVec m → BitVec k} {g : BitVec n → BitVec m} (hf : XorLinear f)
    (hg : XorLinear g) : XorLinear (fun x => f (g x)) := by
  intro a b
  show f (g (a ^^^ b)) = f (g a) ^^^ f (g b)
  rw [hg, hf]

theorem iterate {f : BitVec n → BitVec n} (hf : XorLinear f) (count : Nat) :
    XorLinear f^[count] := by
  induction count with
  | zero => exact fun a b => rfl
  | succ count ih =>
    intro a b
    rw [Function.iterate_succ_apply, Function.iterate_succ_apply, Function.iterate_succ_apply,
      hf, ih]

theorem xor {f g : BitVec n → BitVec m} (hf : XorLinear f) (hg : XorLinear g) :
    XorLinear (fun x => f x ^^^ g x) := by
  intro a b
  show f (a ^^^ b) ^^^ g (a ^^^ b) = (f a ^^^ g a) ^^^ (f b ^^^ g b)
  rw [hf, hg]
  ac_rfl

theorem id : XorLinear (fun x : BitVec n => x) := fun _ _ => rfl

/-- Selecting a constant by one bit of the argument is linear. -/
theorem select (bit : Nat) (value : BitVec m) :
    XorLinear (fun x : BitVec n => if x.getLsbD bit then value else 0#m) := by
  intro a b
  simp only [BitVec.getLsbD_xor]
  cases a.getLsbD bit <;> cases b.getLsbD bit <;> simp

/-- Clearing the top one of the bits that may be set leaves a word with one bit less. -/
theorem clear_top {x : BitVec n} {bits : Nat} (high : ∀ i, bits + 1 ≤ i → x.getLsbD i = false)
    (top : x.getLsbD bits = true) :
    ∀ i, bits ≤ i → (x ^^^ BitVec.twoPow n bits).getLsbD i = false := by
  have inside : bits < n := by
    by_contra outside
    rw [BitVec.getLsbD_of_ge x bits (by omega)] at top
    cases top
  intro i hi
  rw [BitVec.getLsbD_xor, BitVec.getLsbD_twoPow]
  rcases Nat.eq_or_lt_of_le hi with rfl | above
  · simp [top, inside]
  · simp [high i above, Nat.ne_of_lt above]

/-- Two linear maps that agree on the first powers of two agree on every word that has no
higher bit set. -/
theorem eq_of_basis {f g : BitVec n → BitVec m} (hf : XorLinear f) (hg : XorLinear g)
    {bits : Nat} (basis : ∀ i, i < bits → f (BitVec.twoPow n i) = g (BitVec.twoPow n i))
    (x : BitVec n) (high : ∀ i, bits ≤ i → x.getLsbD i = false) : f x = g x := by
  induction bits generalizing x with
  | zero =>
    have zero : x = 0#n := by
      apply BitVec.eq_of_getLsbD_eq
      intro i _
      simpa using high i (Nat.zero_le i)
    rw [zero, hf.map_zero, hg.map_zero]
  | succ bits ih =>
    have below : ∀ i, i < bits → f (BitVec.twoPow n i) = g (BitVec.twoPow n i) :=
      fun i hi => basis i (by omega)
    cases top : x.getLsbD bits with
    | false =>
      apply ih below
      intro i hi
      rcases Nat.eq_or_lt_of_le hi with rfl | above
      · exact top
      · exact high i above
    | true =>
      have split : x = (x ^^^ BitVec.twoPow n bits) ^^^ BitVec.twoPow n bits := by
        rw [BitVec.xor_assoc, BitVec.xor_self, BitVec.xor_zero]
      rw [split, hf, hg, ih below _ (clear_top high top), basis bits (by omega)]

/-- The matrix with the given columns, applied to a word: column `i` takes part when bit
`i` is set. -/
def combine : List (BitVec m) → BitVec n → BitVec m
  | [], _ => 0#m
  | column :: columns, x =>
    (if x.getLsbD 0 then column else 0#m) ^^^ combine columns (x >>> 1)

theorem combine_linear (columns : List (BitVec m)) :
    XorLinear (fun x : BitVec n => combine columns x) := by
  induction columns with
  | nil => intro a b; simp [combine]
  | cons column columns ih =>
    have shifted : XorLinear (fun x : BitVec n => combine columns (x >>> 1)) := by
      intro a b
      show combine columns ((a ^^^ b) >>> 1) = _
      rw [BitVec.ushiftRight_xor_distrib]
      exact ih _ _
    exact (select 0 column).xor shifted

/-- A matrix does not see bits beyond its columns. -/
theorem combine_eq_zero (columns : List (BitVec m)) (x : BitVec n)
    (low : ∀ i, i < columns.length → x.getLsbD i = false) : combine columns x = 0#m := by
  induction columns generalizing x with
  | nil => rfl
  | cons column columns ih =>
    have first : x.getLsbD 0 = false := low 0 (by simp)
    have rest : combine columns (x >>> 1) = 0#m := by
      apply ih
      intro i hi
      rw [BitVec.getLsbD_ushiftRight, Nat.add_comm]
      exact low (i + 1) (by simpa using hi)
    simp [combine, first, rest]

end XorLinear
