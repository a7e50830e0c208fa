import Imlp.Server.History

/-!
# Repeated and reordered requests

A server keeps no record of the requests it has seen, and a request carries no sequence number,
so it is handled the same way however often it arrives. Which writes a request stands for
depends on the policy alone (`requestedWrite`), and a run of `handle` is a run of these writes
(`handleAll_memory`). What repeated and reordered deliveries do is then a question about
interval writes.
-/

namespace Imlp
open MemoryServer IntervalStore

/-- The write that a byte string stands for under a policy, if it does. -/
def requestedWrite (policy : ServerPolicy) (bytes : List Byte) : Option (Nat × List Byte) :=
  match (decode bytes).frame with
  | some request =>
    if request.opcode = .writeRequest ∧
        WriteAuthorised policy request.address.toNat request.payload.length then
      some (request.address.toNat, request.payload)
    else none
  | none => none

/-- The writes that a sequence of byte strings stands for. -/
def requestedWrites (policy : ServerPolicy) (requests : List (List Byte)) :
    List (Nat × List Byte) :=
  requests.filterMap (requestedWrite policy)

/-- The effect of `handle` is the write its input stands for. -/
theorem handle_memory (server : MemoryServer) (bytes : List Byte) :
    (server.handle bytes).2.policy = server.policy ∧
      (server.handle bytes).2.memory.byte =
        replay server.memory.byte (requestedWrite server.policy bytes).toList := by
  cases decoded : (decode bytes).frame with
  | none =>
    rw [handle_of_rejected server decoded, requestedWrite, decoded]
    exact ⟨rfl, rfl⟩
  | some request =>
    rw [handle_of_decoded server decoded, requestedWrite, decoded]
    refine ⟨after_policy server request, ?_⟩
    dsimp only
    by_cases applied : request.opcode = .writeRequest ∧
        WriteAuthorised server.policy request.address.toNat request.payload.length
    · have fits : request.address.toNat + request.payload.length ≤ 4096 := by
        have := applied.2.2.2.2
        omega
      rw [if_pos applied, after_of_authorised server applied.1 applied.2,
        MemoryMap.byte_copy server.memory fits]
      rfl
    · have unchanged : server.after request = server := if_neg applied
      rw [if_neg applied, unchanged]
      rfl

theorem requestedWrites_concat (policy : ServerPolicy) (requests : List (List Byte))
    (bytes : List Byte) :
    requestedWrites policy (requests ++ [bytes]) =
      requestedWrites policy requests ++ (requestedWrite policy bytes).toList := by
  rw [requestedWrites, List.filterMap_append, requestedWrites]
  cases found : requestedWrite policy bytes <;> simp [found]

/-- A run of `handle` is a run of the writes its inputs stand for. -/
theorem handleAll_memory (server : MemoryServer) (requests : List (List Byte)) :
    (server.handleAll requests).policy = server.policy ∧
      (server.handleAll requests).memory.byte =
        replay server.memory.byte (requestedWrites server.policy requests) := by
  induction requests using List.reverseRecOn with
  | nil => exact ⟨rfl, rfl⟩
  | append_singleton requests bytes ih =>
    obtain ⟨samePolicy, memory⟩ := handle_memory (server.handleAll requests) bytes
    rw [ih.1] at samePolicy memory
    rw [handleAll_concat]
    refine ⟨samePolicy, ?_⟩
    rw [memory, ih.2, requestedWrites_concat, replay_append]

/-- A server is its policy and the bytes of its memory. -/
theorem server_ext {left right : MemoryServer} (policy : left.policy = right.policy)
    (memory : left.memory.byte = right.memory.byte) : left = right := by
  have bytes : left.memory = right.memory := by
    apply MemoryMap.ext
    funext index
    have value := congrFun memory index.val
    rwa [MemoryMap.byte_of_lt _ index.isLt, MemoryMap.byte_of_lt _ index.isLt] at value
  cases left
  cases right
  obtain rfl : _ = _ := policy
  obtain rfl : _ = _ := bytes
  rfl

/-- Runs that stand for the same stores end in the same server. -/
theorem handleAll_eq {server : MemoryServer} {first second : List (List Byte)}
    (memory : replay server.memory.byte (requestedWrites server.policy first) =
      replay server.memory.byte (requestedWrites server.policy second)) :
    server.handleAll first = server.handleAll second := by
  obtain ⟨firstPolicy, firstMemory⟩ := handleAll_memory server first
  obtain ⟨secondPolicy, secondMemory⟩ := handleAll_memory server second
  exact server_ext (firstPolicy.trans secondPolicy.symm)
    (firstMemory.trans (memory.trans secondMemory.symm))

/-- The reply to anything but a read depends on the policy alone. -/
theorem handle_reply_eq {left right : MemoryServer} (policy : left.policy = right.policy)
    {bytes : List Byte}
    (notRead : ∀ request, (decode bytes).frame = some request → request.opcode ≠ .readRequest) :
    (left.handle bytes).1 = (right.handle bytes).1 := by
  cases decoded : (decode bytes).frame with
  | none => rw [handle_of_rejected left decoded, handle_of_rejected right decoded]
  | some request =>
    have other := notRead request decoded
    rw [handle_of_decoded left decoded, handle_of_decoded right decoded, answer, answer,
      if_neg other, if_neg other, policy]

/-- Sending the last requests again is harmless. From any state, after any sequence of byte
strings, delivering any number of the last ones once more in their order leaves the server
exactly as it was, and everything but a read is answered as it was the first time. -/
theorem resending_is_harmless (server : MemoryServer) (requests last : List (List Byte))
    (suffix : last <:+ requests) :
    server.handleAll (requests ++ last) = server.handleAll requests ∧
    ∀ earlier later bytes,
      (∀ request, (decode bytes).frame = some request → request.opcode ≠ .readRequest) →
      ((server.handleAll earlier).handle bytes).1 = ((server.handleAll later).handle bytes).1 := by
  constructor
  · apply handleAll_eq
    rw [requestedWrites, List.filterMap_append]
    exact replay_append_suffix _ (suffix.filterMap _)
  · intro earlier later bytes notRead
    apply handle_reply_eq _ notRead
    rw [(handleAll_memory server earlier).1, (handleAll_memory server later).1]

/-- A write that is delivered twice. -/
theorem resending_is_harmless_write :
    let first := wireBytes { opcode := .writeRequest, address := 0x100#32, payload := [1#8, 2#8] }
    let second := wireBytes { opcode := .writeRequest, address := 0x101#32, payload := [3#8] }
    let server := MemoryServer.new { writesEnabled := true }
    server.handleAll ([first, second] ++ [second]) = server.handleAll [first, second] :=
  (resending_is_harmless _ _ _ ⟨[_], rfl⟩).1

/-- Order and repetition of requests do not matter where their writes agree. From any state,
two sequences of byte strings with the same members, in any order and any number of copies,
leave the same server, if any two authorised writes among them put the same bytes wherever
they overlap. -/
theorem delivery_order_irrelevant (server : MemoryServer) (first second : List (List Byte))
    (same : ∀ bytes, bytes ∈ first ↔ bytes ∈ second)
    (agree : ∀ left ∈ requestedWrites server.policy first,
      ∀ right ∈ requestedWrites server.policy first, Agree left right) :
    server.handleAll first = server.handleAll second := by
  apply handleAll_eq
  refine replay_eq_of_agree _ ?_ agree
  intro write
  rw [requestedWrites, requestedWrites, List.mem_filterMap, List.mem_filterMap]
  exact exists_congr fun bytes => and_congr_left fun _ => same bytes

/-- Two writes next to each other, in both orders and with a repetition. -/
theorem delivery_order_irrelevant_adjacent :
    let first := wireBytes { opcode := .writeRequest, address := 0x100#32, payload := [1#8, 2#8] }
    let second := wireBytes { opcode := .writeRequest, address := 0x102#32, payload := [3#8] }
    let server := MemoryServer.new { writesEnabled := true }
    server.handleAll [first, second, first] = server.handleAll [second, first] := by
  intro first second server
  have writes : requestedWrites server.policy [first, second, first] =
      [(0x100, [1#8, 2#8]), (0x102, [3#8]), (0x100, [1#8, 2#8])] := by decide +kernel
  refine delivery_order_irrelevant server _ _ ?_ ?_
  · intro bytes
    simp only [List.mem_cons, List.not_mem_nil, or_false]
    tauto
  · rw [writes]
    have apart : Agree (0x100, [1#8, 2#8]) (0x102, [3#8]) := agree_of_disjoint (.inl (by decide))
    have apart' : Agree (0x102, [3#8]) (0x100, [1#8, 2#8]) := agree_of_disjoint (.inr (by decide))
    simp [agree_refl, apart, apart']

/-- Every exchange of a server is one request of its run, in the state the requests before it
left. -/
theorem mem_exchanges {server : MemoryServer} {requests : List (List Byte)}
    {bytes response : List Byte} (member : (bytes, response) ∈ server.exchanges requests) :
    ∃ earlier later, requests = earlier ++ bytes :: later ∧
      response = ((server.handleAll earlier).handle bytes).1.response := by
  induction requests generalizing server with
  | nil => cases member
  | cons first requests ih =>
    rw [exchanges, List.mem_cons] at member
    rcases member with same | member
    · obtain ⟨rfl, rfl⟩ := Prod.mk.inj same
      exact ⟨[], requests, rfl, rfl⟩
    · obtain ⟨earlier, later, rfl, answered⟩ := ih member
      exact ⟨first :: earlier, later, rfl, answered⟩

end Imlp
