import Mathlib.Data.Nat.Notation

/-!
# Checked arithmetic and access

Unsigned arithmetic that refuses to wrap and list access that refuses to leave the list. A
computation built from these has a result exactly when none of its steps would have wrapped
or read out of bounds, so a program is shown safe by running it this way and proving that it
still gives its own result.
-/

namespace Checked

universe u

variable {α : Type u}

/-- A value that has to fit a type with the given largest value. -/
def fit (limit value : Nat) : Option Nat :=
  if value ≤ limit then some value else none

/-- Unsigned addition; refused when it would wrap. -/
def add (limit a b : Nat) : Option Nat := fit limit (a + b)

/-- Unsigned subtraction; refused when it would wrap. -/
def sub (a b : Nat) : Option Nat :=
  if b ≤ a then some (a - b) else none

/-- The elements from `first` up to, but not including, `last`. -/
def slice (elements : List α) (first last : Nat) : Option (List α) :=
  if first ≤ last ∧ last ≤ elements.length then some ((elements.drop first).take (last - first))
  else none

theorem fit_of_le {limit value : Nat} (small : value ≤ limit) : fit limit value = some value :=
  if_pos small

theorem add_of_le {limit a b : Nat} (small : a + b ≤ limit) : add limit a b = some (a + b) :=
  if_pos small

theorem sub_of_le {a b : Nat} (ordered : b ≤ a) : sub a b = some (a - b) :=
  if_pos ordered

theorem slice_of_le {elements : List α} {first last : Nat} (ordered : first ≤ last)
    (inside : last ≤ elements.length) :
    slice elements first last = some ((elements.drop first).take (last - first)) :=
  if_pos ⟨ordered, inside⟩

theorem slice_zero {elements : List α} {last : Nat} (inside : last ≤ elements.length) :
    slice elements 0 last = some (elements.take last) := by
  rw [slice_of_le (Nat.zero_le last) inside, List.drop_zero, Nat.sub_zero]

/-- A step that succeeds hands its value on. -/
theorem bind_of_eq_some {β : Type u} {step : Option α} {value : α} (success : step = some value)
    (rest : α → Option β) : (step >>= rest) = rest value := by
  rw [success]
  rfl

/-- An early return, taken or not, is the one of the plain computation. -/
theorem ite_of_rest {test : Prop} [Decidable test] {early plain : α} {rest : Option α}
    (safe : ¬ test → rest = some plain) :
    (if test then some early else rest) = some (if test then early else plain) := by
  by_cases taken : test
  · rw [if_pos taken, if_pos taken]
  · rw [if_neg taken, if_neg taken, safe taken]

/-- A search whose every test succeeds gives the plain search. -/
theorem anyM_of_forall {elements : List α} {test : α → Option Bool} {plain : α → Bool}
    (safe : ∀ element ∈ elements, test element = some (plain element)) :
    elements.anyM test = some (elements.any plain) := by
  induction elements with
  | nil => rfl
  | cons element elements ih =>
    have first := safe element List.mem_cons_self
    have others := ih (fun other member => safe other (List.mem_cons_of_mem element member))
    rw [List.anyM, first, List.any_cons]
    cases plain element with
    | true => rfl
    | false => exact others

end Checked
