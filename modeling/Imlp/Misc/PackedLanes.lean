import Mathlib.Data.Nat.Bitwise
import Mathlib.Data.List.Iterate

/-!
# Absence from a packed table

A table of `width`-bit values is packed into one natural number, each value in a lane that
is one bit wider than the value. One exclusive or, one addition and one conjunction on the
packed number then compare a query with all values at once: the spare bit of a lane ends
up set exactly when the value in that lane differs from the query. `absent` is this
comparison, and a query it reports absent is not a member of the table
(`not_mem_of_absent`). The arithmetic is on literals, so a large table is decided by
evaluation in the kernel.
-/

namespace PackedLanes

/-- The table as one number, the first value lowest. -/
def pack (width : Nat) : List Nat → Nat
  | [] => 0
  | value :: values => value + 2 ^ (width + 1) * pack width values

/-- A one in every lane of a table with `count` values. -/
def ones (width : Nat) : Nat → Nat
  | 0 => 0
  | count + 1 => 1 + 2 ^ (width + 1) * ones width count

/-- The spare bits of all lanes, set where the value differs from the query. -/
def spare (width table unit query : Nat) : Nat :=
  ((table ^^^ query * unit) + (2 ^ width - 1) * unit) &&& (2 ^ width * unit)

/-- Every value of the packed table differs from the query. -/
def absent (width table unit query : Nat) : Bool :=
  spare width table unit query == 2 ^ width * unit

/-- The spare bit of one lane. -/
def laneSpare (width value query : Nat) : Nat :=
  ((value ^^^ query) + (2 ^ width - 1)) &&& 2 ^ width

theorem lane_xor {lane a b c d : Nat} (ha : a < 2 ^ lane) (hc : c < 2 ^ lane) :
    (a + 2 ^ lane * b) ^^^ (c + 2 ^ lane * d) = (a ^^^ c) + 2 ^ lane * (b ^^^ d) := by
  apply Nat.eq_of_testBit_eq
  intro i
  rw [Nat.add_comm a, Nat.add_comm c, Nat.add_comm (a ^^^ c), Nat.testBit_xor,
    Nat.testBit_two_pow_mul_add _ ha, Nat.testBit_two_pow_mul_add _ hc,
    Nat.testBit_two_pow_mul_add _ (Nat.xor_lt_two_pow ha hc)]
  split <;> simp

theorem lane_and {lane a b c d : Nat} (ha : a < 2 ^ lane) (hc : c < 2 ^ lane) :
    (a + 2 ^ lane * b) &&& (c + 2 ^ lane * d) = (a &&& c) + 2 ^ lane * (b &&& d) := by
  apply Nat.eq_of_testBit_eq
  intro i
  rw [Nat.add_comm a, Nat.add_comm c, Nat.add_comm (a &&& c), Nat.testBit_and,
    Nat.testBit_two_pow_mul_add _ ha, Nat.testBit_two_pow_mul_add _ hc,
    Nat.testBit_two_pow_mul_add _ (Nat.and_lt_two_pow a hc)]
  split <;> simp

/-- The lanes do not interfere: the lowest one is computed on its own. -/
theorem spare_cons {width value query : Nat} (hvalue : value < 2 ^ width)
    (hquery : query < 2 ^ width) (table unit : Nat) :
    spare width (value + 2 ^ (width + 1) * table) (1 + 2 ^ (width + 1) * unit) query =
      laneSpare width value query + 2 ^ (width + 1) * spare width table unit query := by
  have double : 2 ^ (width + 1) = 2 * 2 ^ width := by rw [Nat.pow_succ, Nat.mul_comm]
  have positive : 0 < 2 ^ width := Nat.two_pow_pos width
  have differ : value ^^^ query < 2 ^ width := Nat.xor_lt_two_pow hvalue hquery
  have spread : ∀ n, n * (1 + 2 ^ (width + 1) * unit) = n + 2 ^ (width + 1) * (n * unit) := by
    intro n
    rw [Nat.mul_add, Nat.mul_one, Nat.mul_left_comm]
  have gather : ∀ a b c d : Nat, (a + 2 ^ (width + 1) * b) + (c + 2 ^ (width + 1) * d) =
      (a + c) + 2 ^ (width + 1) * (b + d) := by
    intro a b c d
    rw [Nat.mul_add]
    omega
  rw [spare, spare, laneSpare, spread, spread, spread, lane_xor (by omega) (by omega), gather,
    lane_and (by omega) (by omega)]

theorem laneSpare_self (width query : Nat) : laneSpare width query query = 0 := by
  have positive : 0 < 2 ^ width := Nat.two_pow_pos width
  rw [laneSpare, Nat.xor_self, Nat.zero_add, Nat.and_two_pow,
    Nat.testBit_eq_false_of_lt (by omega)]
  simp

theorem laneSpare_lt (width value query : Nat) : laneSpare width value query < 2 ^ (width + 1) :=
  Nat.and_lt_two_pow _ (Nat.pow_lt_pow_right (by omega) (by omega))

/-- Soundness of the packed comparison. -/
theorem not_mem_of_absent {width query : Nat} (hquery : query < 2 ^ width) (values : List Nat)
    (bounded : ∀ value ∈ values, value < 2 ^ width)
    (h : absent width (pack width values) (ones width values.length) query = true) :
    query ∉ values := by
  induction values with
  | nil => simp
  | cons value values ih =>
    have hvalue : value < 2 ^ width := bounded value (by simp)
    simp only [absent, pack, List.length_cons, ones, beq_iff_eq] at h
    rw [spare_cons hvalue hquery, Nat.mul_add, Nat.mul_one, Nat.mul_left_comm] at h
    have small : 2 ^ width < 2 ^ (width + 1) := Nat.pow_lt_pow_right (by omega) (by omega)
    have lanes := laneSpare_lt width value query
    -- equal numbers have equal lowest lanes and equal remaining lanes
    have lowest : laneSpare width value query = 2 ^ width := by
      have := congrArg (· % 2 ^ (width + 1)) h
      simpa [Nat.add_mul_mod_self_left, Nat.mod_eq_of_lt lanes, Nat.mod_eq_of_lt small] using this
    have remaining : spare width (pack width values) (ones width values.length) query =
        2 ^ width * ones width values.length := by
      rw [lowest] at h
      exact Nat.eq_of_mul_eq_mul_left (Nat.two_pow_pos (width + 1)) (Nat.add_left_cancel h)
    intro member
    rcases List.mem_cons.mp member with rfl | later
    · rw [laneSpare_self] at lowest
      have := Nat.two_pow_pos width
      omega
    · exact ih (fun value hvalue => bounded value (List.mem_cons_of_mem _ hvalue))
        (by simp [absent, remaining]) later

end PackedLanes
