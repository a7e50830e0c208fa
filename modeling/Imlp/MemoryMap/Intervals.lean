import Imlp.Misc.IntervalStore
import Imlp.MemoryMap
import Imlp.Codec.Fields

/-!
# The memory map decides whole intervals

`range_fits` subtracts instead of adding, and `read` and `write` look at one byte at a
time. Both come down to comparisons of `address + length` with the ends of the memory and
of its regions, taken in unbounded integers: `MemoryMap.read_eq` and `MemoryMap.write_eq`
give the two functions in that form. A successful write is one interval write of a plain
store (`MemoryMap.byte_copy`).
-/

namespace Imlp
open IntervalStore

theorem rangeFits_iff (address : BitVec 32) (length : Nat) :
    rangeFits address length = true ↔ 0 < length ∧ address.toNat + length ≤ 4096 := by
  unfold rangeFits memoryCapacity
  by_cases h : length = 0 ∨ length > 4096
  · rw [if_pos h]
    constructor
    · intro impossible; cases impossible
    · omega
  · rw [if_neg h, Bool.and_eq_true, decide_eq_true_eq, decide_eq_true_eq]
    omega

namespace MemoryMap

theorem accessFor_ofNat {index : Nat} (inside : index < 4096) :
    accessFor (BitVec.ofNat 32 index) =
      if index < 0x100 then .readOnly else if index < 0x800 then .readWrite else .denied := by
  have value : (BitVec.ofNat 32 index).toNat = index := by
    rw [BitVec.toNat_ofNat]
    omega
  have below : ∀ bound : Nat, bound < 4096 →
      (BitVec.ofNat 32 index ≤ BitVec.ofNat 32 bound ↔ index < bound + 1) := by
    intro bound hbound
    rw [BitVec.le_def, value, BitVec.toNat_ofNat]
    omega
  unfold accessFor
  simp only [below 0x00FF (by omega), below 0x07FF (by omega)]

/-- Some byte of the interval is denied exactly when its last byte is. -/
theorem any_denied_iff (start length : Nat) (nonempty : 0 < length) (fits : start + length ≤ 4096) :
    (List.range length).any
        (fun offset => accessFor (BitVec.ofNat 32 (start + offset)) = .denied) = true ↔
      0x800 < start + length := by
  rw [List.any_eq_true]
  constructor
  · rintro ⟨offset, member, denied⟩
    rw [List.mem_range] at member
    rw [decide_eq_true_eq, accessFor_ofNat (by omega)] at denied
    split at denied
    · cases denied
    · split at denied
      · cases denied
      · omega
  · intro beyond
    refine ⟨length - 1, List.mem_range.mpr (by omega), ?_⟩
    rw [decide_eq_true_eq, accessFor_ofNat (by omega), if_neg (by omega), if_neg (by omega)]

/-- Some byte of the interval is not writable exactly when its first or its last byte is
not. -/
theorem any_not_readWrite_iff (start length : Nat) (nonempty : 0 < length)
    (fits : start + length ≤ 4096) :
    (List.range length).any
        (fun offset => accessFor (BitVec.ofNat 32 (start + offset)) ≠ .readWrite) = true ↔
      start < 0x100 ∨ 0x800 < start + length := by
  rw [List.any_eq_true]
  constructor
  · rintro ⟨offset, member, refused⟩
    rw [List.mem_range] at member
    rw [decide_eq_true_eq, accessFor_ofNat (by omega)] at refused
    split at refused
    · left
      omega
    · split at refused
      · exact absurd rfl refused
      · right
        omega
  · rintro (below | beyond)
    · refine ⟨0, List.mem_range.mpr nonempty, ?_⟩
      rw [decide_eq_true_eq, accessFor_ofNat (by omega), if_pos (by omega)]
      nofun
    · refine ⟨length - 1, List.mem_range.mpr (by omega), ?_⟩
      rw [decide_eq_true_eq, accessFor_ofNat (by omega)]
      split
      · nofun
      · rw [if_neg (by omega)]
        nofun

/-- The intervals refused as out of range, for reads and writes alike. -/
def OutOfRange (start length : Nat) : Prop :=
  length = 0 ∨ 256 < length ∨ 4096 < start + length

instance (start length : Nat) : Decidable (OutOfRange start length) := by
  unfold OutOfRange
  infer_instance

theorem range_check_iff (address : BitVec 32) (length : Nat) :
    (!rangeFits address length || decide (length > maximumPayloadSize)) = true ↔
      OutOfRange address.toNat length := by
  have fits := rangeFits_iff address length
  rw [Bool.or_eq_true, Bool.not_eq_true', ← Bool.not_eq_true, fits, decide_eq_true_eq]
  simp only [maximumPayloadSize, OutOfRange]
  omega

/-- `read` in closed form. -/
theorem read_eq (memory : MemoryMap) (address : BitVec 32) (length : Nat) :
    memory.read address length =
      if OutOfRange address.toNat length then { status := .outOfRange }
      else if 0x800 < address.toNat + length then { status := .accessDenied }
      else { data := (List.range' address.toNat length).map memory.byte } := by
  unfold read
  by_cases range : OutOfRange address.toNat length
  · rw [if_pos ((range_check_iff address length).mpr range), if_pos range]
  · rw [if_neg (fun h => range ((range_check_iff address length).mp h)), if_neg range]
    unfold OutOfRange at range
    have denied := any_denied_iff address.toNat length (by omega) (by omega)
    by_cases beyond : 0x800 < address.toNat + length
    · rw [if_pos beyond]
      exact if_pos (denied.mpr beyond)
    · rw [if_neg beyond]
      exact if_neg (fun h => beyond (denied.mp h))

/-- `write` in closed form. -/
theorem write_eq (memory : MemoryMap) (address : BitVec 32) (data : List Byte) :
    memory.write address data =
      if OutOfRange address.toNat data.length then (.outOfRange, memory)
      else if address.toNat < 0x100 ∨ 0x800 < address.toNat + data.length then
        (.accessDenied, memory)
      else (.ok, memory.copy address.toNat data) := by
  unfold write
  by_cases range : OutOfRange address.toNat data.length
  · rw [if_pos ((range_check_iff address data.length).mpr range), if_pos range]
  · rw [if_neg (fun h => range ((range_check_iff address data.length).mp h)), if_neg range]
    unfold OutOfRange at range
    have refused := any_not_readWrite_iff address.toNat data.length
      (by omega) (by omega)
    by_cases outside : address.toNat < 0x100 ∨ 0x800 < address.toNat + data.length
    · rw [if_pos outside]
      exact if_pos (refused.mpr outside)
    · rw [if_neg outside]
      exact if_neg (fun h => outside (refused.mp h))

theorem byte_of_lt (memory : MemoryMap) {index : Nat} (inside : index < 4096) :
    memory.byte index = memory.bytes ⟨index, inside⟩ :=
  dif_pos inside

/-- A copy inside the array is an interval write of the plain store. -/
theorem byte_copy (memory : MemoryMap) {start : Nat} {data : List Byte}
    (fits : start + data.length ≤ 4096) :
    (memory.copy start data).byte = overwrite memory.byte start data := by
  funext index
  rw [overwrite]
  by_cases covered : start ≤ index ∧ index < start + data.length
  · rw [cell_of_covered covered.1 covered.2, byte_of_lt _ (by omega), copy]
    simp only [covered, and_self, if_true, Option.getD_some]
    exact byteAt_eq_getElem (by omega)
  · rw [cell_of_outside (by omega), Option.getD_none, byte, byte]
    split
    · rw [copy]
      exact if_neg covered
    · rfl

/-- A successful write is a copy inside the read/write region. -/
theorem write_ok {memory : MemoryMap} {address : BitVec 32} {data : List Byte}
    (accepted : (memory.write address data).1 = .ok) :
    address.toNat + data.length ≤ 0x800 ∧
      (memory.write address data).2 = memory.copy address.toNat data := by
  rw [write_eq] at accepted ⊢
  split at accepted
  · cases accepted
  rename_i range
  split at accepted
  · cases accepted
  rename_i region
  rw [if_neg range, if_neg region]
  exact ⟨by omega, rfl⟩

theorem read_data (memory : MemoryMap) (address : BitVec 32) (length : Nat) :
    (memory.read address length).data =
      if OutOfRange address.toNat length ∨ 0x800 < address.toNat + length then []
      else (List.range' address.toNat length).map memory.byte := by
  rw [read_eq]
  split
  · rename_i range
    rw [if_pos (.inl range)]
  · rename_i range
    split
    · rename_i denied
      rw [if_pos (.inr denied)]
    · rename_i denied
      rw [if_neg (not_or.mpr ⟨range, denied⟩)]

theorem byteAt_interval (memory : MemoryMap) {start length index : Nat}
    (inside : index < length) :
    byteAt ((List.range' start length).map memory.byte) index = memory.byte (start + index) := by
  rw [byteAt_eq_getElem (by simpa using inside)]
  simp

/-- Whether a read is allowed does not depend on the bytes. -/
theorem read_status (memory : MemoryMap) (address : BitVec 32) (length : Nat) :
    (memory.read address length).status =
      if OutOfRange address.toNat length then .outOfRange
      else if 0x800 < address.toNat + length then .accessDenied
      else .ok := by
  rw [read_eq]
  split
  · rfl
  · split <;> rfl

theorem write_status (memory : MemoryMap) (address : BitVec 32) (data : List Byte) :
    (memory.write address data).1 =
      if OutOfRange address.toNat data.length then .outOfRange
      else if address.toNat < 0x100 ∨ 0x800 < address.toNat + data.length then .accessDenied
      else .ok := by
  rw [write_eq]
  split
  · rfl
  · split <;> rfl

/-- A refused write leaves every byte alone. -/
theorem write_refused {memory : MemoryMap} {address : BitVec 32} {data : List Byte}
    (refused : (memory.write address data).1 ≠ .ok) :
    (memory.write address data).2 = memory := by
  rw [write_eq] at refused ⊢
  split
  · rfl
  · rename_i range
    split
    · rfl
    · rename_i region
      rw [if_neg range, if_neg region] at refused
      exact absurd rfl refused

/-- The three statuses are different, so each one tells which test decided. -/
theorem status_decision {range refused : Prop} [Decidable range] [Decidable refused]
    {status : Status}
    (decided : status =
      if range then .outOfRange else if refused then .accessDenied else .ok) :
    (status = .outOfRange ↔ range) ∧ (status = .accessDenied ↔ ¬ range ∧ refused) ∧
      (¬ range → ¬ refused → status = .ok) := by
  subst decided
  by_cases hrange : range
  · simp [hrange, Status.outOfRange, Status.accessDenied]
  · by_cases hrefused : refused
    · simp [hrange, hrefused, Status.outOfRange, Status.accessDenied]
    · simp [hrange, hrefused, Status.outOfRange, Status.accessDenied, Status.ok]

/-- A read after a successful write sees the new bytes where it overlaps the write, and the
bytes it would have seen before elsewhere. -/
theorem read_after_write {memory : MemoryMap} {address : BitVec 32} {data : List Byte}
    (accepted : (memory.write address data).1 = .ok) (start : BitVec 32) {length index : Nat}
    (inside : index < ((memory.write address data).2.read start length).data.length) :
    byteAt ((memory.write address data).2.read start length).data index =
      if address.toNat ≤ start.toNat + index ∧
          start.toNat + index < address.toNat + data.length then
        byteAt data (start.toNat + index - address.toNat)
      else byteAt (memory.read start length).data index := by
  obtain ⟨region, written⟩ := write_ok accepted
  rw [written] at inside ⊢
  rw [read_data] at inside
  split at inside
  · cases inside
  rename_i allowed
  rw [List.length_map, List.length_range'] at inside
  rw [read_data, read_data, if_neg allowed, if_neg allowed, byteAt_interval _ inside,
    byteAt_interval _ inside, byte_copy memory (by omega), overwrite]
  split
  · rename_i covered
    rw [cell_of_covered covered.1 covered.2, Option.getD_some, byteAt_eq_getElem (by omega)]
  · rename_i outside
    rw [cell_of_outside (by omega), Option.getD_none]

/-- The memory map decides whole intervals, with all sums in unbounded integers: which reads
and writes are out of range, denied or accepted, what an accepted read returns, and what a
read returns after an accepted write. -/
theorem decides_intervals (memory : MemoryMap) (address : BitVec 32) :
    (∀ length : Nat,
      ((memory.read address length).status = .outOfRange ↔
        OutOfRange address.toNat length) ∧
      ((memory.read address length).status = .accessDenied ↔
        ¬ OutOfRange address.toNat length ∧ 0x800 < address.toNat + length) ∧
      (¬ OutOfRange address.toNat length → ¬ 0x800 < address.toNat + length →
        memory.read address length =
          { status := .ok, data := (List.range' address.toNat length).map memory.byte })) ∧
    (∀ data : List Byte,
      ((memory.write address data).1 = .outOfRange ↔
        OutOfRange address.toNat data.length) ∧
      ((memory.write address data).1 = .accessDenied ↔
        ¬ OutOfRange address.toNat data.length ∧
          (address.toNat < 0x100 ∨ 0x800 < address.toNat + data.length)) ∧
      (¬ OutOfRange address.toNat data.length →
        ¬ (address.toNat < 0x100 ∨ 0x800 < address.toNat + data.length) →
        (memory.write address data).1 = .ok) ∧
      ((memory.write address data).1 ≠ .ok → (memory.write address data).2 = memory) ∧
      ((memory.write address data).1 = .ok → ∀ (start : BitVec 32) (length : Nat),
        ((memory.write address data).2.read start length).status =
          (memory.read start length).status ∧
        ((memory.write address data).2.read start length).data.length =
          (memory.read start length).data.length ∧
        ∀ index, index < ((memory.write address data).2.read start length).data.length →
          byteAt ((memory.write address data).2.read start length).data index =
            if address.toNat ≤ start.toNat + index ∧
                start.toNat + index < address.toNat + data.length then
              byteAt data (start.toNat + index - address.toNat)
            else byteAt (memory.read start length).data index)) := by
  constructor
  · intro length
    obtain ⟨range, denied, allowed⟩ := status_decision (memory.read_status address length)
    refine ⟨range, denied, fun inside readable => ?_⟩
    rw [read_eq, if_neg inside, if_neg readable]
  · intro data
    obtain ⟨range, denied, allowed⟩ := status_decision (memory.write_status address data)
    refine ⟨range, denied, allowed, write_refused, ?_⟩
    intro accepted start length
    refine ⟨?_, ?_, fun index inside => read_after_write accepted start inside⟩
    · rw [read_status, read_status]
    · rw [read_data, read_data]
      split
      · rfl
      · rw [List.length_map, List.length_map]

end MemoryMap

end Imlp
