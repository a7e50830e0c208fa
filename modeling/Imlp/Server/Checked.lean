import Imlp.Codec.Checked
import Imlp.Server.Answer

/-!
# Handling requests with checked access

`MemoryMap` and `MemoryServer::handle` with every index, slice and copy target checked
against the array it is used on, and with the unsigned arithmetic of `src/memory_map.cpp` and
`src/server.cpp` refusing to wrap. What makes an access safe stands in another function than
the access: `payload[0]` and `payload[1]` of a read request rest on the codec's semantics
check, the slice of the memory on `range_fits`. `handleChecked_eq` puts these together: on
every byte string, policy and memory the checked server has a result, and it is the one of
`handle`.
-/

namespace Imlp
open Checked

/-- `range_fits` (`memory_map.cpp:18-22`). -/
def rangeFitsChecked (address : BitVec 32) (length : Nat) : Option Bool :=
  if length = 0 ∨ length > memoryCapacity then some false
  else
    let start := address.toNat
    if start < memoryCapacity then do
      let available ← sub memoryCapacity start
      some (length ≤ available)
    else some false

namespace MemoryMap

/-- The bytes of the array between two iterators. -/
def sliceChecked (memory : MemoryMap) (first last : Nat) : Option (List Byte) :=
  if first ≤ last ∧ last ≤ memoryCapacity then
    some ((List.range' first (last - first)).map memory.byte)
  else none

/-- `std::copy` into the array. -/
def copyChecked (memory : MemoryMap) (start : Nat) (data : List Byte) : Option MemoryMap :=
  if start + data.length ≤ memoryCapacity then some (memory.copy start data) else none

/-- `access_for(static_cast<std::uint32_t>(start + offset))`. -/
def accessAtChecked (start offset : Nat) : Option Access := do
  let index ← add sizeMax start offset
  let address ← fit 0xFFFFFFFF index
  some (accessFor (BitVec.ofNat 32 address))

/-- `MemoryMap::read` (`memory_map.cpp:34-47`). -/
def readChecked (memory : MemoryMap) (address : BitVec 32) (length : Nat) :
    Option MemoryResult := do
  let fits ← rangeFitsChecked address length
  if !fits || length > maximumPayloadSize then some { status := .outOfRange }
  else do
    let start := address.toNat
    let denied ← (List.range length).anyM (fun offset => do
      let access ← accessAtChecked start offset
      some (access = .denied))
    if denied then some { status := .accessDenied }
    else do
      let first ← fit ptrdiffMax start
      let last ← fit ptrdiffMax (← add sizeMax start length)
      let data ← memory.sliceChecked first last
      some { status := .ok, data := data }

/-- `MemoryMap::write` (`memory_map.cpp:49-61`). -/
def writeChecked (memory : MemoryMap) (address : BitVec 32) (data : List Byte) :
    Option (Status × MemoryMap) := do
  let fits ← rangeFitsChecked address data.length
  if !fits || data.length > maximumPayloadSize then some (.outOfRange, memory)
  else do
    let start := address.toNat
    let refused ← (List.range data.length).anyM (fun offset => do
      let access ← accessAtChecked start offset
      some (access ≠ .readWrite))
    if refused then some (.accessDenied, memory)
    else do
      let first ← fit ptrdiffMax start
      let written ← memory.copyChecked first data
      some (.ok, written)

end MemoryMap

namespace MemoryServer

/-- `MemoryServer::write_is_allowed` (`server.cpp:78-85`). -/
def writeIsAllowedChecked (server : MemoryServer) (address : BitVec 32) (length : Nat) :
    Option Bool :=
  if length = 0 ∨ address < server.policy.writeAllowBegin ∨
      address > server.policy.writeAllowEnd then some false
  else do
    let distance ← sub server.policy.writeAllowEnd.toNat address.toNat
    let available ← add sizeMax distance 1
    some (length ≤ available)

/-- `MemoryServer::handle` (`server.cpp:35-76`). -/
def handleChecked (server : MemoryServer) (requestBytes : List Byte) :
    Option (HandleResult × MemoryServer) := do
  let decoded ← decodeChecked requestBytes
  if !decoded.toBool || !decoded.frame.isSome then
    some ({ response := []
            event := {
              requestDecoded := false
              requestId := 0#32
              status := .badRequest
              detail := codecErrorName decoded.error } }, server)
  else do
    let request ← decoded.frame
    if request.opcode = .readRequest then do
      let high ← request.payload[0]?
      let low ← request.payload[1]?
      let length := ((high.setWidth 64 <<< 8) ||| low.setWidth 64 : BitVec 64).toNat
      let result ← server.memory.readChecked request.address length
      if result.toBool then
        some (makeResponse request .dataResponse .ok result.data "read_ok", server)
      else
        some (makeResponse request .errorResponse result.status (textPayload "read_rejected")
          "read_rejected", server)
    else if request.opcode = .writeRequest then
      if !server.policy.writesEnabled then
        some (makeResponse request .errorResponse .writeDisabled (textPayload "write_disabled")
          "write_disabled", server)
      else do
        let allowed ← server.writeIsAllowedChecked request.address request.payload.length
        if !allowed then
          some (makeResponse request .errorResponse .accessDenied
            (textPayload "outside_write_allowlist") "outside_write_allowlist", server)
        else do
          let (status, memory) ← server.memory.writeChecked request.address request.payload
          if status ≠ .ok then
            some (makeResponse request .errorResponse status (textPayload "memory_write_rejected")
              "memory_write_rejected", { server with memory := memory })
          else
            some (makeResponse request .writeAcknowledgement .ok [] "write_ok",
              { server with memory := memory })
    else
      some (makeResponse request .errorResponse .badRequest
        (textPayload "request_opcode_required") "request_opcode_required", server)

end MemoryServer

theorem rangeFitsChecked_eq (address : BitVec 32) (length : Nat) :
    rangeFitsChecked address length = some (rangeFits address length) := by
  unfold rangeFitsChecked rangeFits
  dsimp only
  refine ite_of_rest (fun _ => ?_)
  by_cases inside : address.toNat < memoryCapacity
  · rw [if_pos inside, bind_of_eq_some (sub_of_le (Nat.le_of_lt inside)), decide_eq_true inside,
      Bool.true_and]
  · rw [if_neg inside, decide_eq_false inside, Bool.false_and]

namespace MemoryMap

theorem accessAtChecked_eq {start offset : Nat} (inside : start + offset < 4096) :
    accessAtChecked start offset = some (accessFor (BitVec.ofNat 32 (start + offset))) := by
  unfold accessAtChecked
  rw [bind_of_eq_some (add_of_le (show start + offset ≤ sizeMax by rw [sizeMax]; omega)),
    bind_of_eq_some (fit_of_le (by omega))]

/-- The access loop over an interval of the array has a result for every test of a byte. -/
theorem anyM_access_eq {start length : Nat} (fits : start + length ≤ 4096)
    (test : Access → Bool) :
    (List.range length).anyM (fun offset => do
      let access ← accessAtChecked start offset
      some (test access)) =
    some ((List.range length).any
      (fun offset => test (accessFor (BitVec.ofNat 32 (start + offset))))) := by
  apply anyM_of_forall
  intro offset member
  rw [List.mem_range] at member
  exact bind_of_eq_some (accessAtChecked_eq (by omega)) _

theorem sliceChecked_of_le {memory : MemoryMap} {start length : Nat}
    (fits : start + length ≤ 4096) :
    memory.sliceChecked start (start + length) =
      some ((List.range' start length).map memory.byte) := by
  unfold sliceChecked
  rw [if_pos ⟨by omega, fits⟩, Nat.add_sub_cancel_left]

/-- An access that passes the range check ends inside the array. -/
theorem end_le_of_range_check {address : BitVec 32} {length : Nat}
    (accepted : ¬ (!rangeFits address length || decide (length > maximumPayloadSize)) = true) :
    address.toNat + length ≤ 4096 := by
  rw [range_check_iff] at accepted
  simp only [OutOfRange] at accepted
  omega

theorem readChecked_eq (memory : MemoryMap) (address : BitVec 32) (length : Nat) :
    memory.readChecked address length = some (memory.read address length) := by
  unfold readChecked read
  rw [bind_of_eq_some (rangeFitsChecked_eq address length)]
  refine ite_of_rest (fun accepted => ?_)
  have fits := end_le_of_range_check accepted
  have last : address.toNat + length ≤ ptrdiffMax := by rw [ptrdiffMax]; omega
  rw [bind_of_eq_some (anyM_access_eq fits (fun access => access = .denied))]
  refine ite_of_rest (fun _ => ?_)
  rw [bind_of_eq_some (fit_of_le (show address.toNat ≤ ptrdiffMax by omega)),
    bind_of_eq_some (add_of_le (show address.toNat + length ≤ sizeMax by rw [sizeMax]; omega)),
    bind_of_eq_some (fit_of_le last), bind_of_eq_some (sliceChecked_of_le fits)]

theorem writeChecked_eq (memory : MemoryMap) (address : BitVec 32) (data : List Byte) :
    memory.writeChecked address data = some (memory.write address data) := by
  unfold writeChecked write
  rw [bind_of_eq_some (rangeFitsChecked_eq address data.length)]
  refine ite_of_rest (fun accepted => ?_)
  have fits := end_le_of_range_check accepted
  rw [bind_of_eq_some (anyM_access_eq fits (fun access => access ≠ .readWrite))]
  refine ite_of_rest (fun _ => ?_)
  rw [bind_of_eq_some (fit_of_le (show address.toNat ≤ ptrdiffMax by rw [ptrdiffMax]; omega)),
    bind_of_eq_some (show memory.copyChecked address.toNat data = _ from if_pos fits)]

end MemoryMap

namespace MemoryServer

theorem writeIsAllowedChecked_eq (server : MemoryServer) (address : BitVec 32) (length : Nat) :
    server.writeIsAllowedChecked address length = some (server.writeIsAllowed address length) := by
  unfold writeIsAllowedChecked writeIsAllowed
  dsimp only
  refine ite_of_rest (fun inside => ?_)
  simp only [gt_iff_lt, BitVec.lt_def] at inside
  have ends := server.policy.writeAllowEnd.isLt
  have available : (server.policy.writeAllowEnd.setWidth 64 - address.setWidth 64 + 1#64).toNat =
      server.policy.writeAllowEnd.toNat - address.toNat + 1 :=
    available_toNat (by omega)
  rw [bind_of_eq_some (sub_of_le (by omega)),
    bind_of_eq_some (add_of_le (show server.policy.writeAllowEnd.toNat - address.toNat + 1 ≤ sizeMax
      by rw [sizeMax]; omega)), available]

/-- The two payload bytes of a read request are there: the codec accepts no other size. -/
theorem read_payload_accesses {bytes : List Byte} {request : Frame}
    (decoded : (decode bytes).frame = some request) (opcode : request.opcode = .readRequest) :
    request.payload[0]? = some (byteAt request.payload 0) ∧
      request.payload[1]? = some (byteAt request.payload 1) := by
  obtain ⟨valid, -⟩ := (decode_ok_iff bytes request).mp decoded
  have size : request.payload.length = 2 := by
    cases opcodeRule_of_valid valid.semantics with
    | readRequest _ _ _ size => exact size
    | _ other => rw [opcode] at other; cases other
  exact ⟨getElem?_eq_byteAt (by omega), getElem?_eq_byteAt (by omega)⟩

/-- No access that `handle` makes on untrusted bytes is out of bounds and no offset it
computes wraps: with every access and every sum checked it gives the same result. -/
theorem handleChecked_eq (server : MemoryServer) (bytes : List Byte) :
    server.handleChecked bytes = some (server.handle bytes) := by
  unfold handleChecked
  rw [bind_of_eq_some (decodeChecked_eq bytes)]
  cases decoded : (decode bytes).frame with
  | none =>
    rw [handle_of_rejected server decoded]
    rw [Option.isSome_none, Bool.not_false, Bool.or_true, if_pos rfl]
  | some request =>
    rw [decode_toBool decoded, Option.isSome_some, Bool.not_true, Bool.or_false,
      if_neg Bool.false_ne_true]
    rw [bind_of_eq_some (rfl : some request = some request)]
    unfold handle
    simp only [decode_toBool decoded, decoded]
    by_cases read : request.opcode = .readRequest
    · obtain ⟨high, low⟩ := read_payload_accesses decoded read
      rw [if_pos read, if_pos read, bind_of_eq_some high, bind_of_eq_some low,
        bind_of_eq_some (MemoryMap.readChecked_eq _ _ _)]
      exact ite_of_rest (fun _ => rfl)
    rw [if_neg read, if_neg read]
    by_cases write : request.opcode = .writeRequest
    · rw [if_pos write, if_pos write]
      refine ite_of_rest (fun _ => ?_)
      rw [bind_of_eq_some (writeIsAllowedChecked_eq server _ _)]
      refine ite_of_rest (fun _ => ?_)
      rw [bind_of_eq_some (MemoryMap.writeChecked_eq _ _ _)]
      exact ite_of_rest (fun _ => rfl)
    · rw [if_neg write, if_neg write]

end MemoryServer

end Imlp
