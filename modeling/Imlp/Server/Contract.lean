import Imlp.Server.Answer

/-!
# The server's contract

What a client can rely on for one call of `MemoryServer::handle`, for every policy, every
memory content and every byte string: which writes are acknowledged and what they change,
and which reply a request gets.
-/

namespace Imlp
open MemoryServer

theorem decode_nil : (decode []).frame = none := rfl

/-- A write is acknowledged exactly when it is authorised. -/
theorem answer_acknowledged_iff (server : MemoryServer) (request : Frame) :
    (server.answer request).opcode = .writeAcknowledgement ↔
      request.opcode = .writeRequest ∧
        WriteAuthorised server.policy request.address.toNat request.payload.length := by
  have known := answer_case server request
  generalize server.answer request = answer at known ⊢
  cases known with
  | refuse _ _ refused =>
    constructor
    · intro acknowledged
      cases acknowledged
    · exact fun authorised => absurd authorised refused
  | data opcode =>
    constructor
    · intro acknowledged
      cases acknowledged
    · rintro ⟨write, -⟩
      cases opcode.symm.trans write
  | acknowledge opcode authorised => exact ⟨fun _ => ⟨opcode, authorised⟩, fun _ => rfl⟩

/-- The status of a refused write says which check failed first. -/
theorem answerWrite_refused {policy : ServerPolicy} {start length : Nat}
    (refused : ¬ WriteAuthorised policy start length) :
    (answerWrite policy start length).opcode = .errorResponse ∧
      (answerWrite policy start length).status =
        if policy.writesEnabled = false then .writeDisabled
        else if ¬ InAllowlist policy start length then .accessDenied
        else if 4096 < start + length then .outOfRange
        else .accessDenied := by
  unfold answerWrite
  by_cases disabled : policy.writesEnabled = false
  · rw [if_pos disabled, if_pos disabled]
    exact ⟨rfl, rfl⟩
  rw [if_neg disabled, if_neg disabled]
  by_cases inside : InAllowlist policy start length
  · rw [if_neg (not_not.mpr inside), if_neg (not_not.mpr inside)]
    by_cases beyond : 4096 < start + length
    · rw [if_pos beyond, if_pos beyond]
      exact ⟨rfl, rfl⟩
    · have region : start < 0x100 ∨ 0x800 < start + length := by
        by_contra readWrite
        exact refused ⟨by simpa using disabled, inside, by omega, by omega⟩
      rw [if_neg beyond, if_neg beyond, if_pos region]
      exact ⟨rfl, rfl⟩
  · rw [if_pos inside, if_pos inside]
    exact ⟨rfl, rfl⟩

/-- Write authorisation and its all-or-nothing effect. A write is acknowledged exactly when
it is authorised; then its interval and nothing else is replaced by the payload. In every
other case all bytes stay as they are, and a refused write is answered by an error whose
status says which check failed first. -/
theorem handle_write_authorisation (server : MemoryServer) (bytes : List Byte) :
    ((∃ response, (decode (server.handle bytes).1.response).frame = some response ∧
        response.opcode = .writeAcknowledgement) ↔
      ∃ request, (decode bytes).frame = some request ∧ request.opcode = .writeRequest ∧
        WriteAuthorised server.policy request.address.toNat request.payload.length) ∧
    (∀ request, (decode bytes).frame = some request → request.opcode = .writeRequest →
      WriteAuthorised server.policy request.address.toNat request.payload.length →
      ∀ index : Fin memoryCapacity, (server.handle bytes).2.memory.bytes index =
        if request.address.toNat ≤ index.val ∧
            index.val < request.address.toNat + request.payload.length then
          byteAt request.payload (index.val - request.address.toNat)
        else server.memory.bytes index) ∧
    ((¬ ∃ request, (decode bytes).frame = some request ∧ request.opcode = .writeRequest ∧
        WriteAuthorised server.policy request.address.toNat request.payload.length) →
      ∀ index : Fin memoryCapacity,
        (server.handle bytes).2.memory.bytes index = server.memory.bytes index) ∧
    (∀ request, (decode bytes).frame = some request → request.opcode = .writeRequest →
      ¬ WriteAuthorised server.policy request.address.toNat request.payload.length →
      ∃ response, (decode (server.handle bytes).1.response).frame = some response ∧
        response.opcode = .errorResponse ∧
        response.status =
          if server.policy.writesEnabled = false then .writeDisabled
          else if ¬ InAllowlist server.policy request.address.toNat request.payload.length then
            .accessDenied
          else if 4096 < request.address.toNat + request.payload.length then .outOfRange
          else .accessDenied) := by
  cases decoded : (decode bytes).frame with
  | none =>
    rw [handle_of_rejected server decoded]
    refine ⟨?_, nofun, fun _ _ => rfl, nofun⟩
    constructor
    · rintro ⟨response, reply, -⟩
      cases decode_nil.symm.trans reply
    · rintro ⟨request, impossible, -⟩
      cases impossible
  | some request =>
    rw [handle_of_decoded server decoded]
    refine ⟨?_, ?_, ?_, ?_⟩
    · rw [reply, decode_answer]
      constructor
      · rintro ⟨response, same, acknowledged⟩
        obtain rfl := Option.some.inj same
        exact ⟨request, rfl, (answer_acknowledged_iff server request).mp acknowledged⟩
      · rintro ⟨found, same, authorised⟩
        obtain rfl := Option.some.inj same
        exact ⟨_, rfl, (answer_acknowledged_iff server request).mpr authorised⟩
    · intro found same opcode authorised index
      obtain rfl := Option.some.inj same
      rw [after_of_authorised server opcode authorised]
      rfl
    · intro refused index
      have unchanged : server.after request = server :=
        if_neg (fun h => refused ⟨request, rfl, h⟩)
      rw [unchanged]
    · intro found same opcode refused
      obtain rfl := Option.some.inj same
      refine ⟨_, decode_answer server request, ?_⟩
      have notRead : request.opcode ≠ .readRequest := by rw [opcode]; decide
      simp only [responseFrame, answer, if_neg notRead, if_pos opcode]
      exact answerWrite_refused refused

/-- What makes a frame the response to a request with a given event. -/
structure Responds (request response : Frame) (event : ServerEvent) : Prop where
  flags : response.flags = responseFlag
  requestId : response.requestId = request.requestId
  address : response.address = request.address
  status : response.status = event.status
  error : response.opcode = .errorResponse ↔ event.status ≠ .ok
  acknowledgement : response.opcode = .writeAcknowledgement → request.opcode = .writeRequest
  data : response.opcode = .dataResponse → request.opcode = .readRequest ∧
    response.payload.length =
      (byteAt request.payload 0).toNat * 256 + (byteAt request.payload 1).toNat

theorem reply_responds (server : MemoryServer) (request : Frame) :
    Responds request (responseFrame request (server.answer request))
      (reply request (server.answer request)).event := by
  have known := answer_case server request
  generalize server.answer request = answer at known ⊢
  cases known with
  | refuse failure =>
    refine ⟨rfl, rfl, rfl, rfl, ⟨fun _ => failure, fun _ => rfl⟩, ?_, ?_⟩
    · intro acknowledged
      cases acknowledged
    · intro data
      cases data
  | data opcode =>
    refine ⟨rfl, rfl, rfl, rfl, ⟨?_, fun failure => absurd rfl failure⟩, ?_, ?_⟩
    · intro error
      cases error
    · intro acknowledged
      cases acknowledged
    · intro _
      refine ⟨opcode, ?_⟩
      rw [← requestedLength_eq, responseFrame, List.length_map, List.length_range']
  | acknowledge opcode =>
    refine ⟨rfl, rfl, rfl, rfl, ⟨?_, fun failure => absurd rfl failure⟩, fun _ => opcode, ?_⟩
    · intro error
      cases error
    · intro data
      cases data

theorem codecErrorName_ne_encoding_failed (error : CodecError) :
    codecErrorName error ≠ "response_encoding_failed" := by
  cases error <;> decide

theorem answer_detail (server : MemoryServer) (request : Frame) :
    (server.answer request).detail ≠ "response_encoding_failed" := by
  have known := answer_case server request
  generalize server.answer request = answer at known ⊢
  cases known with
  | refuse _ named => exact named.1
  | data =>
    change "read_ok" ≠ "response_encoding_failed"
    decide
  | acknowledge =>
    change "write_ok" ≠ "response_encoding_failed"
    decide

/-- Undecodable input is dropped without a trace in the memory; every decodable request gets
a response frame that belongs to it, whose opcode and status agree with each other and with
the event. `make_response` never gives up on a response. -/
theorem handle_responds (server : MemoryServer) (bytes : List Byte) :
    ((decode bytes).frame = none →
      (server.handle bytes).1.response = [] ∧
      (server.handle bytes).1.event.requestDecoded = false ∧
      (server.handle bytes).1.event.requestId = 0#32 ∧
      (server.handle bytes).1.event.status = .badRequest ∧
      (server.handle bytes).2 = server) ∧
    (∀ request, (decode bytes).frame = some request →
      22 ≤ (server.handle bytes).1.response.length ∧
      (server.handle bytes).1.response.length ≤ 278 ∧
      ∃ response, (decode (server.handle bytes).1.response).frame = some response ∧
        Responds request response (server.handle bytes).1.event) ∧
    (server.handle bytes).1.event.detail ≠ "response_encoding_failed" := by
  cases decoded : (decode bytes).frame with
  | none =>
    rw [handle_of_rejected server decoded]
    exact ⟨fun _ => ⟨rfl, rfl, rfl, rfl, rfl⟩, nofun, codecErrorName_ne_encoding_failed _⟩
  | some request =>
    rw [handle_of_decoded server decoded]
    refine ⟨nofun, ?_, answer_detail server request⟩
    intro found same
    obtain rfl := Option.some.inj same
    have size : (reply request (server.answer request)).response.length =
        22 + (server.answer request).payload.length := wireBytes_length _
    have small : (server.answer request).payload.length ≤ maximumPayloadSize :=
      (answer_encodable server request).payload
    rw [maximumPayloadSize] at small
    refine ⟨?_, ?_, _, decode_answer server request, reply_responds server request⟩
    · rw [size]
      omega
    · rw [size]
      omega

end Imlp
