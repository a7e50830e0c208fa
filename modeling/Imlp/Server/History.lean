import Imlp.Server.Contract

/-!
# Whole histories of a server

A server is only ever changed by `handle`, so a run is the list of byte strings it was given.
What an observer sees of it is the list of requests with their responses. `Reflects` is the
invariant of every run: the memory is the constructor's, overwritten by the writes that were
acknowledged, in order, and all of these were authorised.
-/

namespace Imlp
open MemoryServer IntervalStore

namespace MemoryServer

/-- The server after a run. -/
def handleAll (server : MemoryServer) (requests : List (List Byte)) : MemoryServer :=
  requests.foldl (fun current bytes => (current.handle bytes).2) server

/-- The requests of a run, each with the response it got. -/
def exchanges (server : MemoryServer) : List (List Byte) → List (List Byte × List Byte)
  | [] => []
  | bytes :: rest =>
    (bytes, (server.handle bytes).1.response) :: (server.handle bytes).2.exchanges rest

end MemoryServer

/-- The interval write of one exchange: the address and the payload of a request that was
answered by a write acknowledgement. -/
def acknowledgedWrite (exchange : List Byte × List Byte) : Option (Nat × List Byte) :=
  match (decode exchange.1).frame, (decode exchange.2).frame with
  | some request, some response =>
    if response.opcode = .writeAcknowledgement then
      some (request.address.toNat, request.payload)
    else none
  | _, _ => none

/-- The acknowledged writes of a history, the first one first. -/
def acknowledgedWrites (history : List (List Byte × List Byte)) : List (Nat × List Byte) :=
  history.filterMap acknowledgedWrite

theorem handleAll_concat (server : MemoryServer) (requests : List (List Byte))
    (bytes : List Byte) :
    server.handleAll (requests ++ [bytes]) = ((server.handleAll requests).handle bytes).2 := by
  rw [handleAll, List.foldl_append, List.foldl_cons, List.foldl_nil, handleAll]

theorem exchanges_concat (server : MemoryServer) (requests : List (List Byte))
    (bytes : List Byte) :
    server.exchanges (requests ++ [bytes]) = server.exchanges requests ++
      [(bytes, ((server.handleAll requests).handle bytes).1.response)] := by
  induction requests generalizing server with
  | nil => rfl
  | cons first rest ih =>
    rw [List.cons_append, exchanges, ih, exchanges, List.cons_append]
    rfl

/-- Every exchange of a run is a call of `handle` after the run so far. -/
theorem exchanges_split {server : MemoryServer} {requests : List (List Byte)}
    {earlier later : List (List Byte × List Byte)} {bytes response : List Byte}
    (history : server.exchanges requests = earlier ++ (bytes, response) :: later) :
    ∃ before, earlier = server.exchanges before ∧
      response = ((server.handleAll before).handle bytes).1.response := by
  induction earlier generalizing server requests with
  | nil =>
    cases requests with
    | nil => cases history
    | cons first rest =>
      rw [exchanges, List.nil_append, List.cons.injEq, Prod.mk.injEq] at history
      obtain ⟨⟨rfl, rfl⟩, -⟩ := history
      exact ⟨[], rfl, rfl⟩
  | cons exchange earlier ih =>
    cases requests with
    | nil => cases history
    | cons first rest =>
      rw [exchanges, List.cons_append, List.cons.injEq] at history
      obtain ⟨rfl, tail⟩ := history
      obtain ⟨before, rfl, rfl⟩ := ih tail
      exact ⟨first :: before, rfl, rfl⟩

/-- The server's memory is what the acknowledged writes of the history left. -/
structure Reflects (policy : ServerPolicy) (server : MemoryServer)
    (history : List (List Byte × List Byte)) : Prop where
  samePolicy : server.policy = policy
  memory : server.memory.byte = replay MemoryMap.initial.byte (acknowledgedWrites history)
  authorised : ∀ write ∈ acknowledgedWrites history,
    WriteAuthorised policy write.1 write.2.length

theorem reflects_new (policy : ServerPolicy) : Reflects policy (new policy) [] where
  samePolicy := rfl
  memory := rfl
  authorised := nofun

/-- The effect of one call of `handle` is the write it acknowledged, if it did. -/
theorem handle_effect (server : MemoryServer) (bytes : List Byte) :
    (acknowledgedWrite (bytes, (server.handle bytes).1.response) = none ∧
      (server.handle bytes).2 = server) ∨
    (∃ write, acknowledgedWrite (bytes, (server.handle bytes).1.response) = some write ∧
      WriteAuthorised server.policy write.1 write.2.length ∧
      (server.handle bytes).2 =
        { server with memory := server.memory.copy write.1 write.2 }) := by
  cases decoded : (decode bytes).frame with
  | none =>
    left
    refine ⟨?_, by rw [handle_of_rejected server decoded]⟩
    rw [acknowledgedWrite, decoded]
  | some request =>
    have acknowledged : acknowledgedWrite (bytes, (server.handle bytes).1.response) =
        if request.opcode = .writeRequest ∧
            WriteAuthorised server.policy request.address.toNat request.payload.length then
          some (request.address.toNat, request.payload)
        else none := by
      rw [handle_of_decoded server decoded, acknowledgedWrite]
      simp only [decoded, reply, decode_answer]
      exact if_congr (answer_acknowledged_iff server request) rfl rfl
    by_cases applied : request.opcode = .writeRequest ∧
        WriteAuthorised server.policy request.address.toNat request.payload.length
    · right
      rw [if_pos applied] at acknowledged
      refine ⟨_, acknowledged, applied.2, ?_⟩
      rw [handle_of_decoded server decoded]
      exact after_of_authorised server applied.1 applied.2
    · left
      rw [if_neg applied] at acknowledged
      refine ⟨acknowledged, ?_⟩
      rw [handle_of_decoded server decoded]
      exact if_neg applied

theorem acknowledgedWrites_concat (history : List (List Byte × List Byte))
    (exchange : List Byte × List Byte) :
    acknowledgedWrites (history ++ [exchange]) =
      acknowledgedWrites history ++ (acknowledgedWrite exchange).toList := by
  rw [acknowledgedWrites, List.filterMap_append, acknowledgedWrites]
  cases found : acknowledgedWrite exchange <;> simp [found]

/-- One call of `handle` keeps the invariant. -/
theorem Reflects.handle {policy : ServerPolicy} {server : MemoryServer}
    {history : List (List Byte × List Byte)} (known : Reflects policy server history)
    (bytes : List Byte) :
    Reflects policy (server.handle bytes).2
      (history ++ [(bytes, (server.handle bytes).1.response)]) := by
  have writes := acknowledgedWrites_concat history (bytes, (server.handle bytes).1.response)
  rcases handle_effect server bytes with ⟨none, same⟩ | ⟨write, some, authorised, changed⟩
  · rw [none, Option.toList_none, List.append_nil] at writes
    rw [same]
    exact ⟨known.samePolicy, by rw [writes, known.memory], by rw [writes]; exact known.authorised⟩
  · rw [some, Option.toList_some] at writes
    rw [changed]
    have fits : write.1 + write.2.length ≤ 4096 := by
      have := authorised.2.2.2
      omega
    refine ⟨known.samePolicy, ?_, ?_⟩
    · rw [writes, replay_concat, ← known.memory]
      exact MemoryMap.byte_copy server.memory fits
    · rw [writes]
      intro other member
      rw [List.mem_append, List.mem_singleton] at member
      rcases member with earlier | rfl
      · exact known.authorised other earlier
      · rwa [← known.samePolicy]

/-- The invariant holds after every run of a fresh server. -/
theorem reflects_handleAll (policy : ServerPolicy) (requests : List (List Byte)) :
    Reflects policy ((new policy).handleAll requests) ((new policy).exchanges requests) := by
  induction requests using List.reverseRecOn with
  | nil => exact reflects_new policy
  | append_singleton requests bytes ih =>
    rw [handleAll_concat, exchanges_concat]
    exact ih.handle bytes

/-- The payload of a data response. -/
theorem data_of_handle (server : MemoryServer) {bytes : List Byte} {response : Frame}
    (decoded : (decode (server.handle bytes).1.response).frame = some response)
    (opcode : response.opcode = .dataResponse) :
    ∃ request, (decode bytes).frame = some request ∧ request.opcode = .readRequest ∧
      response.payload = (List.range' request.address.toNat
        (requestedLength request.payload)).map server.memory.byte := by
  cases asked : (decode bytes).frame with
  | none =>
    rw [handle_of_rejected server asked] at decoded
    cases decode_nil.symm.trans decoded
  | some request =>
    rw [handle_of_decoded server asked, reply, decode_answer] at decoded
    obtain rfl := Option.some.inj decoded
    refine ⟨request, rfl, ?_⟩
    have known := answer_case server request
    generalize server.answer request = answer at known opcode ⊢
    cases known with
    | refuse => cases opcode
    | data read => exact ⟨read, rfl⟩
    | acknowledge => cases opcode

/-- No authorised write covers a byte outside the writable part of the memory. -/
theorem Reflects.unwritten {policy : ServerPolicy} {server : MemoryServer}
    {history : List (List Byte × List Byte)} (known : Reflects policy server history)
    {index : Nat} (unwritable : index < 0x100 ∨ 0x800 ≤ index ∨
      index < policy.writeAllowBegin.toNat ∨ policy.writeAllowEnd.toNat < index ∨
      policy.writesEnabled = false) :
    server.memory.byte index = MemoryMap.initial.byte index := by
  rw [known.memory, replay_apply, latest_eq_none, Option.getD_none]
  intro write member
  obtain ⟨enabled, ⟨listBegin, listEnd⟩, low, high⟩ := known.authorised write member
  rw [enabled, Bool.true_eq_false, or_false] at unwritable
  exact cell_of_outside (by omega)

/-- Reads see the last acknowledged write. In every run of a fresh server, each data response
has the requested length, and each of its bytes is the one of the latest earlier write that
was acknowledged and covers its address, or the constructor's. Bytes that are read-only,
denied or outside the allowlist, and all bytes of a server with writes disabled, keep the
constructor's value. -/
theorem reads_latest_acknowledged_write (policy : ServerPolicy) (requests : List (List Byte)) :
    (∀ earlier bytes reply later,
      (new policy).exchanges requests = earlier ++ (bytes, reply) :: later →
      ∀ response, (decode reply).frame = some response → response.opcode = .dataResponse →
      ∃ request, (decode bytes).frame = some request ∧ request.opcode = .readRequest ∧
        response.payload.length =
          (byteAt request.payload 0).toNat * 256 + (byteAt request.payload 1).toNat ∧
        ∀ offset, offset < response.payload.length →
          byteAt response.payload offset =
            (latest (acknowledgedWrites earlier) (request.address.toNat + offset)).getD
              (MemoryMap.initial.byte (request.address.toNat + offset))) ∧
    (∀ index : Fin memoryCapacity, index.val < 0x100 ∨ 0x800 ≤ index.val ∨
        index.val < policy.writeAllowBegin.toNat ∨ policy.writeAllowEnd.toNat < index.val ∨
        policy.writesEnabled = false →
      ((new policy).handleAll requests).memory.bytes index = MemoryMap.initial.bytes index) := by
  constructor
  · intro earlier bytes reply later history response decoded opcode
    obtain ⟨before, rfl, rfl⟩ := exchanges_split history
    have known := reflects_handleAll policy before
    obtain ⟨request, asked, read, payload⟩ := data_of_handle _ decoded opcode
    refine ⟨request, asked, read, ?_, ?_⟩
    · rw [payload, List.length_map, List.length_range', requestedLength_eq]
    · intro offset inside
      rw [payload, List.length_map, List.length_range'] at inside
      have entry : byteAt response.payload offset =
          ((new policy).handleAll before).memory.byte (request.address.toNat + offset) := by
        rw [payload, byteAt_eq_getElem (by simpa using inside), List.getElem_map,
          List.getElem_range', Nat.one_mul]
      rw [entry, known.memory, replay_apply]
  · intro index outside
    have unwritten := (reflects_handleAll policy requests).unwritten outside
    rwa [MemoryMap.byte_of_lt _ index.isLt, MemoryMap.byte_of_lt _ index.isLt] at unwritten

/-- Two bytes are written from 0x100 on and acknowledged; a read of the second finds it. -/
theorem reads_latest_acknowledged_write_seen :
    let written : Frame :=
      { opcode := .writeRequest, requestId := 1#32, address := 0x100#32
        payload := [0x12#8, 0x34#8] }
    let asked : Frame :=
      { opcode := .readRequest, requestId := 2#32, address := 0x101#32
        payload := [0x00#8, 0x01#8] }
    ∃ earlier reply response,
      (new { writesEnabled := true }).exchanges [wireBytes written, wireBytes asked] =
        [earlier, (wireBytes asked, reply)] ∧
      acknowledgedWrites [earlier] = [(0x100, [0x12#8, 0x34#8])] ∧
      (decode reply).frame = some response ∧ response.opcode = .dataResponse ∧
      response.payload.length = 1 ∧ byteAt response.payload 0 = 0x34#8 := by
  intro written asked
  have writes : acknowledgedWrites [(wireBytes written,
      ((new { writesEnabled := true }).handle (wireBytes written)).1.response)] =
      [(0x100, [0x12#8, 0x34#8])] := by
    decide +kernel
  have found : (decode (wireBytes asked)).frame = some asked :=
    (decode_ok_iff _ _).mpr ⟨⟨rfl, rfl, by decide, by decide⟩, rfl⟩
  have decoded : ∀ server : MemoryServer,
      (decode (server.handle (wireBytes asked)).1.response).frame =
        some (responseFrame asked (server.answer asked)) := by
    intro server
    rw [handle_of_decoded server found]
    exact decode_answer server asked
  have opcode : (((new { writesEnabled := true }).handle (wireBytes written)).2.answer
      asked).opcode = .dataResponse := by
    decide +kernel
  obtain ⟨request, same, -, size, seen⟩ := (reads_latest_acknowledged_write
    { writesEnabled := true } [wireBytes written, wireBytes asked]).1 [_] _ _ [] rfl _ (decoded _)
    opcode
  obtain rfl := Option.some.inj (found.symm.trans same)
  have first := seen 0 (by rw [size]; decide)
  rw [writes] at first
  exact ⟨_, _, _, rfl, writes, decoded _, opcode, size.trans (by decide), first.trans (by decide)⟩

end Imlp
