import Imlp.Server.History

/-!
# The denied region is isolated

The bytes from `0x800` on neither reach a response nor an event, and no request changes
them. The first part compares two runs: servers with one policy whose memories agree below
`0x800` answer any sequence of byte strings alike and still agree below `0x800`
afterwards. `HandleResult` holds both the response bytes and the event, so equal results
leave an observer nothing to tell the two apart.
-/

namespace Imlp
open MemoryServer IntervalStore

namespace MemoryServer

/-- What a server returns for each request of a run: responses and events. -/
def results (server : MemoryServer) : List (List Byte) → List HandleResult
  | [] => []
  | bytes :: rest => (server.handle bytes).1 :: (server.handle bytes).2.results rest

end MemoryServer

/-- The two servers differ in the denied region only. -/
structure Indistinguishable (left right : MemoryServer) : Prop where
  policy : left.policy = right.policy
  memory : ∀ index, index < 0x800 → left.memory.byte index = right.memory.byte index

/-- The answer to a request reads no byte of the denied region. -/
theorem Indistinguishable.answer {left right : MemoryServer}
    (same : Indistinguishable left right) (request : Frame) :
    left.answer request = right.answer request := by
  unfold MemoryServer.answer answerRead
  rw [same.policy]
  split
  · split
    · rfl
    split
    · rfl
    rename_i readable
    -- the interval ends below the region, so the two memories agree on all of it
    have payload : (List.range' request.address.toNat (requestedLength request.payload)).map
        left.memory.byte =
        (List.range' request.address.toNat (requestedLength request.payload)).map
          right.memory.byte := by
      apply List.map_congr_left
      intro index member
      rw [List.mem_range'_1] at member
      exact same.memory index (by omega)
    rw [payload]
  · rfl

/-- An authorised write puts the same bytes into both memories. -/
theorem Indistinguishable.after {left right : MemoryServer}
    (same : Indistinguishable left right) (request : Frame) :
    Indistinguishable (left.after request) (right.after request) := by
  unfold MemoryServer.after
  rw [same.policy]
  split
  · rename_i applied
    have fits : request.address.toNat + request.payload.length ≤ 4096 := by
      have := applied.2.2.2.2
      omega
    constructor
    · rfl
    · intro index below
      dsimp only
      rw [MemoryMap.byte_copy _ fits, MemoryMap.byte_copy _ fits, overwrite, overwrite,
        same.memory index below]
  · exact same

/-- One request: the same result, and still no visible difference. -/
theorem Indistinguishable.handle {left right : MemoryServer}
    (same : Indistinguishable left right) (bytes : List Byte) :
    (left.handle bytes).1 = (right.handle bytes).1 ∧
      Indistinguishable (left.handle bytes).2 (right.handle bytes).2 := by
  cases decoded : (decode bytes).frame with
  | none =>
    rw [handle_of_rejected left decoded, handle_of_rejected right decoded]
    exact ⟨rfl, same⟩
  | some request =>
    rw [handle_of_decoded left decoded, handle_of_decoded right decoded, same.answer request]
    exact ⟨rfl, same.after request⟩

/-- A whole run: the same results, and still no visible difference. -/
theorem Indistinguishable.run {left right : MemoryServer}
    (same : Indistinguishable left right) (requests : List (List Byte)) :
    left.results requests = right.results requests ∧
      Indistinguishable (left.handleAll requests) (right.handleAll requests) := by
  induction requests generalizing left right with
  | nil => exact ⟨rfl, same⟩
  | cons bytes rest ih =>
    obtain ⟨result, next⟩ := same.handle bytes
    obtain ⟨results, final⟩ := ih next
    exact ⟨by rw [MemoryServer.results, MemoryServer.results, result, results], final⟩

theorem handle_denied (server : MemoryServer) (bytes : List Byte) {index : Nat}
    (denied : 0x800 ≤ index) :
    (server.handle bytes).2.memory.byte index = server.memory.byte index := by
  rcases handle_effect server bytes with ⟨-, unchanged⟩ | ⟨write, -, authorised, written⟩
  · rw [unchanged]
  · have high := authorised.2.2.2
    rw [written]
    dsimp only
    rw [MemoryMap.byte_copy _ (by omega), overwrite, cell_of_outside (by omega),
      Option.getD_none]

theorem handleAll_denied (server : MemoryServer) (requests : List (List Byte)) {index : Nat}
    (denied : 0x800 ≤ index) :
    (server.handleAll requests).memory.byte index = server.memory.byte index := by
  induction requests generalizing server with
  | nil => rfl
  | cons bytes rest ih =>
    calc ((server.handle bytes).2.handleAll rest).memory.byte index
        = (server.handle bytes).2.memory.byte index := ih (server.handle bytes).2
      _ = server.memory.byte index := handle_denied server bytes denied

/-- The denied region cannot leak: two servers with one policy whose memories agree below
`0x800` give the same responses and events on every sequence of byte strings, agree below
`0x800` afterwards, and keep their bytes from `0x800` on. -/
theorem denied_region_cannot_leak (policy : ServerPolicy) (left right : MemoryMap)
    (agree : ∀ index, index < 0x800 → left.byte index = right.byte index)
    (requests : List (List Byte)) :
    (MemoryServer.mk policy left).results requests =
        (MemoryServer.mk policy right).results requests ∧
      (∀ index, index < 0x800 →
        ((MemoryServer.mk policy left).handleAll requests).memory.byte index =
          ((MemoryServer.mk policy right).handleAll requests).memory.byte index) ∧
      (∀ index, 0x800 ≤ index →
        ((MemoryServer.mk policy left).handleAll requests).memory.byte index = left.byte index ∧
        ((MemoryServer.mk policy right).handleAll requests).memory.byte index =
          right.byte index) := by
  have same : Indistinguishable (.mk policy left) (.mk policy right) := ⟨rfl, agree⟩
  obtain ⟨results, final⟩ := same.run requests
  refine ⟨results, final.memory, fun index denied => ?_⟩
  exact ⟨handleAll_denied _ requests denied, handleAll_denied _ requests denied⟩

/-- A changed byte at the start of the region does not show in a read that touches it. -/
theorem denied_region_cannot_leak_first_byte :
    (MemoryMap.initial.copy 0x800 [0x5A#8]).byte 0x800 ≠ MemoryMap.initial.byte 0x800 ∧
      (MemoryServer.mk {} (MemoryMap.initial.copy 0x800 [0x5A#8])).results
          [(encode { address := 0x07FF#32, payload := [0#8, 2#8] }).bytes] =
        (MemoryServer.mk {} MemoryMap.initial).results
          [(encode { address := 0x07FF#32, payload := [0#8, 2#8] }).bytes] := by
  refine ⟨by decide, (denied_region_cannot_leak {} _ _ ?_ _).1⟩
  intro index below
  rw [MemoryMap.byte_copy _ (by decide), overwrite, cell_of_outside (.inl below),
    Option.getD_none]

end Imlp
