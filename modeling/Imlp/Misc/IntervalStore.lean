import Mathlib.Data.List.Induction

/-!
# Stores written by intervals

A store gives a value to every index. A write replaces the values of one interval by a
list. After any sequence of writes the value at an index is the one of the latest write
that covers it, or the initial one when no write does (`replay_apply`).
-/

namespace IntervalStore

variable {β : Type*}

/-- What a write of `data` from `start` on puts at an index, if it covers the index. -/
def cell (start : Nat) (data : List β) (index : Nat) : Option β :=
  if start ≤ index then data[index - start]? else none

/-- The store after one write. -/
def overwrite (store : Nat → β) (start : Nat) (data : List β) : Nat → β :=
  fun index => (cell start data index).getD (store index)

/-- The store after a sequence of writes, the first one first. -/
def replay (store : Nat → β) (writes : List (Nat × List β)) : Nat → β :=
  writes.foldl (fun current write => overwrite current write.1 write.2) store

/-- The value the latest covering write put at an index. -/
def latest (writes : List (Nat × List β)) (index : Nat) : Option β :=
  writes.reverse.findSome? (fun write => cell write.1 write.2 index)

theorem cell_of_covered {start : Nat} {data : List β} {index : Nat} (low : start ≤ index)
    (high : index < start + data.length) : cell start data index = some (data[index - start]) := by
  rw [cell, if_pos low, List.getElem?_eq_getElem]

theorem cell_of_outside {start : Nat} {data : List β} {index : Nat}
    (outside : index < start ∨ start + data.length ≤ index) : cell start data index = none := by
  unfold cell
  split
  · rw [List.getElem?_eq_none]
    omega
  · rfl

theorem latest_concat (writes : List (Nat × List β)) (write : Nat × List β) (index : Nat) :
    latest (writes ++ [write]) index =
      (cell write.1 write.2 index).or (latest writes index) := by
  rw [latest, List.reverse_append, List.reverse_singleton, List.singleton_append,
    List.findSome?_cons, latest]
  cases cell write.1 write.2 index <;> rfl

theorem replay_concat (store : Nat → β) (writes : List (Nat × List β)) (write : Nat × List β) :
    replay store (writes ++ [write]) = overwrite (replay store writes) write.1 write.2 := by
  rw [replay, List.foldl_append, List.foldl_cons, List.foldl_nil, replay]

/-- The latest write wins. -/
theorem replay_apply (store : Nat → β) (writes : List (Nat × List β)) (index : Nat) :
    replay store writes index = (latest writes index).getD (store index) := by
  induction writes using List.reverseRecOn with
  | nil => rfl
  | append_singleton writes write ih =>
    rw [replay_concat, latest_concat, overwrite, ih]
    cases cell write.1 write.2 index <;> rfl

/-- An index that no write covers keeps its value. -/
theorem latest_eq_none {writes : List (Nat × List β)} {index : Nat}
    (outside : ∀ write ∈ writes, cell write.1 write.2 index = none) :
    latest writes index = none := by
  rw [latest, List.findSome?_eq_none_iff]
  intro write member
  exact outside write (List.mem_reverse.mp member)

/-- The latest value at an index comes from one of the writes. -/
theorem exists_of_latest {writes : List (Nat × List β)} {index : Nat} {value : β}
    (found : latest writes index = some value) :
    ∃ write ∈ writes, cell write.1 write.2 index = some value := by
  obtain ⟨write, member, wrote⟩ := List.exists_of_findSome?_eq_some found
  exact ⟨write, List.mem_reverse.mp member, wrote⟩

theorem replay_append (store : Nat → β) (front back : List (Nat × List β)) :
    replay store (front ++ back) = replay (replay store front) back :=
  List.foldl_append

theorem latest_append (front back : List (Nat × List β)) (index : Nat) :
    latest (front ++ back) index = (latest back index).or (latest front index) := by
  induction back using List.reverseRecOn with
  | nil => rw [List.append_nil]; rfl
  | append_singleton back write ih =>
    rw [← List.append_assoc, latest_concat, latest_concat, ih, Option.or_assoc]

/-- Repeating the last writes in their order changes nothing. -/
theorem replay_append_suffix (store : Nat → β) {writes last : List (Nat × List β)}
    (suffix : last <:+ writes) : replay store (writes ++ last) = replay store writes := by
  obtain ⟨front, rfl⟩ := suffix
  funext index
  rw [replay_apply, replay_apply, latest_append, latest_append]
  cases latest last index <;> rfl

/-- Two writes put the same value wherever both of them cover an index. -/
def Agree (left right : Nat × List β) : Prop :=
  ∀ index a b, cell left.1 left.2 index = some a → cell right.1 right.2 index = some b → a = b

theorem agree_refl (write : Nat × List β) : Agree write write := by
  intro index a b wrote other
  exact Option.some.inj (wrote.symm.trans other)

/-- Writes that do not overlap agree. -/
theorem agree_of_disjoint {left right : Nat × List β}
    (disjoint : left.1 + left.2.length ≤ right.1 ∨ right.1 + right.2.length ≤ left.1) :
    Agree left right := by
  intro index a b wrote other
  by_cases outside : index < left.1 ∨ left.1 + left.2.length ≤ index
  · cases (cell_of_outside outside).symm.trans wrote
  · have beyond : index < right.1 ∨ right.1 + right.2.length ≤ index := by omega
    cases (cell_of_outside beyond).symm.trans other

/-- Among writes that agree, every one of them is the latest where it covers an index. -/
theorem latest_of_agree {writes : List (Nat × List β)}
    (agree : ∀ left ∈ writes, ∀ right ∈ writes, Agree left right) (index : Nat) (value : β) :
    latest writes index = some value ↔
      ∃ write ∈ writes, cell write.1 write.2 index = some value := by
  constructor
  · exact exists_of_latest
  · rintro ⟨write, member, wrote⟩
    cases found : latest writes index with
    | none =>
      rw [latest, List.findSome?_eq_none_iff] at found
      cases (found write (List.mem_reverse.mpr member)).symm.trans wrote
    | some last =>
      obtain ⟨other, isIn, put⟩ := exists_of_latest found
      rw [agree other isIn write member index last value put wrote]

/-- The order and the number of writes that agree do not matter. -/
theorem replay_eq_of_agree (store : Nat → β) {first second : List (Nat × List β)}
    (same : ∀ write, write ∈ first ↔ write ∈ second)
    (agree : ∀ left ∈ first, ∀ right ∈ first, Agree left right) :
    replay store first = replay store second := by
  have agree' : ∀ left ∈ second, ∀ right ∈ second, Agree left right :=
    fun left isLeft right isRight =>
      agree left ((same left).mpr isLeft) right ((same right).mpr isRight)
  funext index
  have latestEq : latest first index = latest second index := by
    apply Option.ext
    intro value
    rw [latest_of_agree agree, latest_of_agree agree']
    exact exists_congr fun write => and_congr_left fun _ => same write
  rw [replay_apply, replay_apply, latestEq]

end IntervalStore
