import Mathlib.Data.List.Basic

/-!
# Numerals and separated fields

The value of a sequence of digits over any alphabet, and the digits of a number in any base,
which have that number as their value. Fields that do not contain a separator can be told
apart again when they are put together with it.
-/

namespace TextFields

variable {α : Type*}

/-- The value of a sequence of digits, the most significant one first. -/
def value (base : Nat) (digit : α → Nat) (digits : List α) : Nat :=
  digits.foldl (fun value char => value * base + digit char) 0

theorem value_concat (base : Nat) (digit : α → Nat) (digits : List α) (char : α) :
    value base digit (digits ++ [char]) = value base digit digits * base + digit char := by
  rw [value, List.foldl_append, List.foldl_cons, List.foldl_nil, value]

theorem value_map {β : Type*} (base : Nat) (digit : β → Nat) (spell : α → β) (digits : List α) :
    value base digit (digits.map spell) = value base (digit ∘ spell) digits :=
  List.foldl_map

/-- Leading zeros do not count. -/
theorem value_zeros_append (base : Nat) {digit : α → Nat} {zero : α} (reads : digit zero = 0)
    (count : Nat) (digits : List α) :
    value base digit (List.replicate count zero ++ digits) = value base digit digits := by
  induction count with
  | zero => rfl
  | succ count ih =>
    rw [List.replicate_succ, List.cons_append, value, List.foldl_cons, reads, Nat.zero_mul]
    exact ih

/-- Every digit of a number is the digit of a value below the base. -/
theorem mem_toDigits {base : Nat} (large : 1 < base) {number : Nat} {char : Char}
    (member : char ∈ Nat.toDigits base number) : ∃ digit < base, char = digit.digitChar := by
  induction number using Nat.strongRecOn with
  | ind number ih =>
    rw [Nat.toDigits_eq_if large] at member
    split at member
    · rename_i small
      exact ⟨number, small, List.mem_singleton.mp member⟩
    · rw [List.mem_append, List.mem_singleton] at member
      rcases member with front | last
      · exact ih (number / base) (Nat.div_lt_self (by omega) large) front
      · exact ⟨number % base, Nat.mod_lt _ (by omega), last⟩

/-- The digits of a number have it as their value. -/
theorem value_toDigits {base : Nat} (large : 1 < base) {digit : Char → Nat}
    (reads : ∀ d < base, digit d.digitChar = d) (number : Nat) :
    value base digit (Nat.toDigits base number) = number := by
  induction number using Nat.strongRecOn with
  | ind number ih =>
    rw [Nat.toDigits_eq_if large]
    split
    · rename_i small
      rw [value, List.foldl_cons, List.foldl_nil, Nat.zero_mul, Nat.zero_add, reads number small]
    · rw [value_concat, ih (number / base) (Nat.div_lt_self (by omega) large),
        reads _ (Nat.mod_lt _ (by omega)), Nat.mul_comm]
      exact Nat.div_add_mod number base

/-- A field ends where its separator stands. -/
theorem split_at_separator {separator : α} {front front' back back' : List α}
    (absent : separator ∉ front) (absent' : separator ∉ front')
    (same : front ++ separator :: back = front' ++ separator :: back') :
    front = front' ∧ back = back' := by
  induction front generalizing front' with
  | nil =>
    cases front' with
    | nil => exact ⟨rfl, (List.cons.inj same).2⟩
    | cons first front' =>
      obtain ⟨rfl, -⟩ := List.cons.inj same
      exact absurd List.mem_cons_self absent'
  | cons first front ih =>
    cases front' with
    | nil =>
      obtain ⟨rfl, -⟩ := List.cons.inj same
      exact absurd List.mem_cons_self absent
    | cons first' front' =>
      obtain ⟨rfl, rest⟩ := List.cons.inj same
      obtain ⟨rfl, sameBack⟩ := ih (fun member => absent (List.mem_cons_of_mem _ member))
        (fun member => absent' (List.mem_cons_of_mem _ member)) rest
      exact ⟨rfl, sameBack⟩

/-- A field ends where the next key stands, if the key starts with the separator. -/
theorem split_at_key {separator : α} {key front front' back back' : List α}
    (starts : key.head? = some separator) (absent : separator ∉ front)
    (absent' : separator ∉ front') (same : front ++ (key ++ back) = front' ++ (key ++ back')) :
    front = front' ∧ back = back' := by
  obtain ⟨rest, rfl⟩ := List.head?_eq_some_iff.mp starts
  obtain ⟨sameFront, sameRest⟩ := split_at_separator absent absent' same
  exact ⟨sameFront, List.append_cancel_left sameRest⟩

/-- Lines are told apart by their ends: where the lines of the records at hand contain no end
and differ for different records, the records can be read back from all lines together. -/
theorem lines_injective {β : Type*} {ending : α} {line : β → List α} {known : β → Prop}
    (absent : ∀ record, known record → ending ∉ line record)
    (injective : ∀ left right, known left → known right → line left = line right → left = right)
    {records records' : List β} (all : ∀ record ∈ records, known record)
    (all' : ∀ record ∈ records', known record)
    (same : records.flatMap (fun record => line record ++ [ending]) =
      records'.flatMap (fun record => line record ++ [ending])) : records = records' := by
  induction records generalizing records' with
  | nil =>
    cases records' with
    | nil => rfl
    | cons record' records' => simp at same
  | cons record records ih =>
    cases records' with
    | nil => simp at same
    | cons record' records' =>
      have first := all record List.mem_cons_self
      have first' := all' record' List.mem_cons_self
      simp only [List.flatMap_cons, List.append_assoc, List.singleton_append] at same
      obtain ⟨sameLine, rest⟩ :=
        split_at_separator (absent record first) (absent record' first') same
      rw [injective record record' first first' sameLine,
        ih (fun r member => all r (List.mem_cons_of_mem _ member))
          (fun r member => all' r (List.mem_cons_of_mem _ member)) rest]

end TextFields
