import Imlp.MemoryMap.Intervals
import Imlp.Codec.RoundTrip
import Imlp.Server

/-!
# What the server answers

`answer` and `after` state what the server is for: the reply to a decoded request and the
server that results, with every condition a comparison of interval ends in unbounded
integers. `handle_of_decoded` shows that `MemoryServer::handle` computes exactly these, with
the reply in its wire form: `make_response` never meets a frame that `encode` refuses. All
later results about the server are read off `answer`.
-/

namespace Imlp

/-- The opcode, status, payload and event text of a reply. -/
structure Answer where
  opcode : Opcode
  status : Status
  payload : List Byte
  detail : String
  deriving DecidableEq, Repr

/-- A refusal carries its event text as payload. -/
def Answer.refuse (status : Status) (detail : String) : Answer :=
  { opcode := .errorResponse, status := status, payload := textPayload detail, detail := detail }

/-- The interval of `length` bytes from `start` lies in the allowlist. -/
def InAllowlist (policy : ServerPolicy) (start length : Nat) : Prop :=
  policy.writeAllowBegin.toNat ≤ start ∧ start + length - 1 ≤ policy.writeAllowEnd.toNat

instance (policy : ServerPolicy) (start length : Nat) :
    Decidable (InAllowlist policy start length) :=
  inferInstanceAs (Decidable (_ ∧ _))

/-- A write is authorised when writes are enabled and its interval lies in the allowlist and
in the read/write region. -/
def WriteAuthorised (policy : ServerPolicy) (start length : Nat) : Prop :=
  policy.writesEnabled = true ∧ InAllowlist policy start length ∧
    0x100 ≤ start ∧ start + length ≤ 0x800

instance (policy : ServerPolicy) (start length : Nat) :
    Decidable (WriteAuthorised policy start length) :=
  inferInstanceAs (Decidable (_ ∧ _))

namespace MemoryServer

/-- The reply to a read of `length` bytes. -/
def answerRead (server : MemoryServer) (start length : Nat) : Answer :=
  if MemoryMap.OutOfRange start length then .refuse .outOfRange "read_rejected"
  else if 0x800 < start + length then .refuse .accessDenied "read_rejected"
  else
    { opcode := .dataResponse
      status := .ok
      payload := (List.range' start length).map server.memory.byte
      detail := "read_ok" }

/-- The reply to a write of `length` bytes. -/
def answerWrite (policy : ServerPolicy) (start length : Nat) : Answer :=
  if policy.writesEnabled = false then .refuse .writeDisabled "write_disabled"
  else if ¬ InAllowlist policy start length then
    .refuse .accessDenied "outside_write_allowlist"
  else if 4096 < start + length then .refuse .outOfRange "memory_write_rejected"
  else if start < 0x100 ∨ 0x800 < start + length then
    .refuse .accessDenied "memory_write_rejected"
  else { opcode := .writeAcknowledgement, status := .ok, payload := [], detail := "write_ok" }

/-- The reply to a decoded request. -/
def answer (server : MemoryServer) (request : Frame) : Answer :=
  if request.opcode = .readRequest then
    server.answerRead request.address.toNat (requestedLength request.payload)
  else if request.opcode = .writeRequest then
    answerWrite server.policy request.address.toNat request.payload.length
  else .refuse .badRequest "request_opcode_required"

/-- The server after a decoded request. -/
def after (server : MemoryServer) (request : Frame) : MemoryServer :=
  if request.opcode = .writeRequest ∧
      WriteAuthorised server.policy request.address.toNat request.payload.length then
    { server with memory := server.memory.copy request.address.toNat request.payload }
  else server

/-- The frame that carries an answer back. -/
def responseFrame (request : Frame) (answer : Answer) : Frame where
  version := protocolVersion
  opcode := answer.opcode
  flags := responseFlag
  requestId := request.requestId
  address := request.address
  status := answer.status
  payload := answer.payload

/-- The result of `handle` for an answer. -/
def reply (request : Frame) (answer : Answer) : HandleResult where
  response := wireBytes (responseFrame request answer)
  event := {
    requestDecoded := true
    requestId := request.requestId
    status := answer.status
    detail := answer.detail }

end MemoryServer

open MemoryServer

theorem textPayload_length (text : String) : (textPayload text).length ≤ maximumPayloadSize := by
  rw [textPayload, List.length_map]
  exact List.length_take_le _ _

theorem refuse_encodable (request : Frame) {status : Status} (failure : status ≠ .ok)
    (detail : String) : Encodable (responseFrame request (.refuse status detail)) where
  version := rfl
  opcode := rfl
  payload := textPayload_length detail
  semantics := (hasValidSemantics_iff _).mpr (.errorResponse rfl rfl failure)

theorem acknowledge_encodable (request : Frame) (detail : String) :
    Encodable (responseFrame request
      { opcode := .writeAcknowledgement, status := .ok, payload := [], detail := detail }) where
  version := rfl
  opcode := rfl
  payload := Nat.zero_le _
  semantics := (hasValidSemantics_iff _).mpr (.writeAcknowledgement rfl rfl rfl rfl)

theorem data_encodable (request : Frame) {data : List Byte} (detail : String)
    (small : data.length ≤ maximumPayloadSize) :
    Encodable (responseFrame request
      { opcode := .dataResponse, status := .ok, payload := data, detail := detail }) where
  version := rfl
  opcode := rfl
  payload := small
  semantics := (hasValidSemantics_iff _).mpr (.dataResponse rfl rfl rfl)

/-- Everything an answer can be: a refusal, the bytes of a read, or the acknowledgement of an
authorised write. -/
inductive AnswerCase (server : MemoryServer) (request : Frame) : Answer → Prop where
  | refuse {status : Status} {detail : String} (failure : status ≠ .ok)
      (named : detail ≠ "response_encoding_failed" ∧ detail ≠ "write_ok")
      (refused : ¬ (request.opcode = .writeRequest ∧
        WriteAuthorised server.policy request.address.toNat request.payload.length)) :
      AnswerCase server request (.refuse status detail)
  | data (opcode : request.opcode = .readRequest)
      (small : requestedLength request.payload ≤ maximumPayloadSize)
      (inside : request.address.toNat + requestedLength request.payload ≤ 0x800) :
      AnswerCase server request
        { opcode := .dataResponse
          status := .ok
          payload := (List.range' request.address.toNat
            (requestedLength request.payload)).map server.memory.byte
          detail := "read_ok" }
  | acknowledge (opcode : request.opcode = .writeRequest)
      (authorised :
        WriteAuthorised server.policy request.address.toNat request.payload.length) :
      AnswerCase server request
        { opcode := .writeAcknowledgement, status := .ok, payload := [], detail := "write_ok" }

theorem answerRead_case (server : MemoryServer) {request : Frame}
    (opcode : request.opcode = .readRequest) :
    AnswerCase server request
      (server.answerRead request.address.toNat (requestedLength request.payload)) := by
  have notWrite : ¬ (request.opcode = .writeRequest ∧
      WriteAuthorised server.policy request.address.toNat request.payload.length) := by
    rw [opcode]
    rintro ⟨write, -⟩
    cases write
  unfold answerRead
  split
  · exact .refuse (by decide) (by decide) notWrite
  · rename_i range
    split
    · exact .refuse (by decide) (by decide) notWrite
    · simp only [MemoryMap.OutOfRange] at range
      exact .data opcode (by rw [maximumPayloadSize]; omega) (by omega)

theorem answerWrite_case (server : MemoryServer) {request : Frame}
    (opcode : request.opcode = .writeRequest) :
    AnswerCase server request
      (answerWrite server.policy request.address.toNat request.payload.length) := by
  unfold answerWrite
  split
  · rename_i disabled
    refine .refuse (by decide) (by decide) ?_
    rintro ⟨-, enabled, -⟩
    cases disabled.symm.trans enabled
  rename_i enabled
  split
  · rename_i outside
    exact .refuse (by decide) (by decide) (fun h => outside h.2.2.1)
  rename_i inside
  split
  · refine .refuse (by decide) (by decide) ?_
    rintro ⟨-, -, -, -, high⟩
    omega
  split
  · refine .refuse (by decide) (by decide) ?_
    rintro ⟨-, -, -, low, high⟩
    omega
  · refine .acknowledge opcode ⟨by simpa using enabled, not_not.mp inside, ?_, ?_⟩ <;> omega

theorem answer_case (server : MemoryServer) (request : Frame) :
    AnswerCase server request (server.answer request) := by
  unfold answer
  by_cases read : request.opcode = .readRequest
  · rw [if_pos read]
    exact answerRead_case server read
  rw [if_neg read]
  by_cases write : request.opcode = .writeRequest
  · rw [if_pos write]
    exact answerWrite_case server write
  · rw [if_neg write]
    exact .refuse (by decide) (by decide) (fun h => write h.1)

theorem answer_encodable (server : MemoryServer) (request : Frame) :
    Encodable (responseFrame request (server.answer request)) := by
  have known := answer_case server request
  generalize server.answer request = answer at known ⊢
  cases known with
  | refuse failure => exact refuse_encodable request failure _
  | data opcode small =>
    apply data_encodable
    rwa [List.length_map, List.length_range']
  | acknowledge => exact acknowledge_encodable request _

/-- `make_response` on a frame that `encode` accepts. -/
theorem makeResponse_eq (request : Frame) (answer : Answer)
    (valid : Encodable (responseFrame request answer)) :
    makeResponse request answer.opcode answer.status answer.payload answer.detail =
      reply request answer := by
  have encoded := encode_eq_of_encodable valid
  unfold responseFrame at encoded
  simp [makeResponse, encoded, EncodeResult.toBool, reply, responseFrame]

theorem makeResponse_refuse (request : Frame) {status : Status} (failure : status ≠ .ok)
    (detail : String) :
    makeResponse request .errorResponse status (textPayload detail) detail =
      reply request (.refuse status detail) :=
  makeResponse_eq request (.refuse status detail) (refuse_encodable request failure detail)

/-- The length of a read request is its payload as a big-endian number. -/
theorem requestedLength_eq (payload : List Byte) :
    requestedLength payload = (byteAt payload 0).toNat * 256 + (byteAt payload 1).toNat := by
  have high := (byteAt payload 0).isLt
  have low := (byteAt payload 1).isLt
  rw [requestedLength, BitVec.toNat_or, BitVec.toNat_shiftLeft, BitVec.toNat_setWidth,
    BitVec.toNat_setWidth, Nat.mod_eq_of_lt (a := (byteAt payload 0).toNat) (by omega),
    Nat.mod_eq_of_lt (a := (byteAt payload 1).toNat) (by omega), Nat.shiftLeft_eq,
    Nat.mod_eq_of_lt (by omega), ← Nat.shiftLeft_eq, ← Nat.shiftLeft_add_eq_or_of_lt (by omega),
    Nat.shiftLeft_eq]

/-- The 64-bit size of the rest of the allowlist does not wrap. -/
theorem available_toNat {last address : BitVec 32} (inside : address.toNat ≤ last.toNat) :
    (last.setWidth 64 - address.setWidth 64 + 1#64).toNat = last.toNat - address.toNat + 1 := by
  have := last.isLt
  rw [BitVec.toNat_add, BitVec.toNat_sub, BitVec.toNat_setWidth, BitVec.toNat_setWidth,
    BitVec.toNat_ofNat]
  omega

theorem writeIsAllowed_iff (server : MemoryServer) (address : BitVec 32) (length : Nat)
    (nonempty : 0 < length) :
    server.writeIsAllowed address length = true ↔
      InAllowlist server.policy address.toNat length := by
  unfold writeIsAllowed InAllowlist
  simp only [gt_iff_lt, BitVec.lt_def]
  by_cases outside : length = 0 ∨ address.toNat < server.policy.writeAllowBegin.toNat ∨
      server.policy.writeAllowEnd.toNat < address.toNat
  · rw [if_pos outside]
    constructor
    · intro impossible; cases impossible
    · omega
  · rw [if_neg outside, decide_eq_true_eq, available_toNat (by omega)]
    omega

theorem handle_of_rejected (server : MemoryServer) {bytes : List Byte}
    (rejected : (decode bytes).frame = none) :
    server.handle bytes =
      ({ event := { detail := codecErrorName (decode bytes).error } }, server) := by
  unfold handle
  simp only [rejected]
  cases (decode bytes).toBool <;> rfl

theorem write_payload_pos {frame : Frame} (valid : Encodable frame)
    (write : frame.opcode = .writeRequest) : 0 < frame.payload.length := by
  cases opcodeRule_of_valid valid.semantics with
  | writeRequest _ _ _ payload => exact payload
  | _ opcode => rw [write] at opcode; cases opcode

/-- A request without authorisation leaves the server alone. -/
theorem after_of_not_authorised (server : MemoryServer) (request : Frame)
    (refused : ¬ WriteAuthorised server.policy request.address.toNat request.payload.length) :
    server.after request = server :=
  if_neg (fun h => refused h.2)

theorem after_of_authorised (server : MemoryServer) {request : Frame}
    (opcode : request.opcode = .writeRequest)
    (authorised : WriteAuthorised server.policy request.address.toNat request.payload.length) :
    server.after request =
      { server with memory := server.memory.copy request.address.toNat request.payload } :=
  if_pos ⟨opcode, authorised⟩

theorem after_of_not_write {server : MemoryServer} {request : Frame}
    (opcode : request.opcode ≠ .writeRequest) : server.after request = server :=
  if_neg (fun h => opcode h.1)

theorem after_policy (server : MemoryServer) (request : Frame) :
    (server.after request).policy = server.policy := by
  unfold after
  split <;> rfl

theorem handle_read (server : MemoryServer) {bytes : List Byte} {request : Frame}
    (decoded : (decode bytes).frame = some request) (opcode : request.opcode = .readRequest) :
    server.handle bytes = (reply request (server.answer request), server) := by
  have encodable := answer_encodable server request
  unfold handle
  simp only [decode_toBool decoded, decoded, opcode, if_true]
  rw [answer, if_pos opcode, answerRead] at encodable ⊢
  rw [MemoryMap.read_eq]
  by_cases range : MemoryMap.OutOfRange request.address.toNat (requestedLength request.payload)
  · simp only [if_pos range]
    exact congrArg (·, server) (makeResponse_refuse request (by decide) "read_rejected")
  · simp only [if_neg range] at encodable ⊢
    by_cases denied : 0x800 < request.address.toNat + requestedLength request.payload
    · simp only [if_pos denied]
      exact congrArg (·, server) (makeResponse_refuse request (by decide) "read_rejected")
    · simp only [if_neg denied] at encodable ⊢
      have response := makeResponse_eq request _ encodable
      exact congrArg (·, server) response

theorem handle_write (server : MemoryServer) {bytes : List Byte} {request : Frame}
    (decoded : (decode bytes).frame = some request) (opcode : request.opcode = .writeRequest) :
    server.handle bytes = (reply request (server.answer request), server.after request) := by
  obtain ⟨valid, -⟩ := (decode_ok_iff bytes request).mp decoded
  have nonempty := write_payload_pos valid opcode
  have small := valid.payload
  have notRead : request.opcode ≠ .readRequest := by rw [opcode]; decide
  have allowed := writeIsAllowed_iff server request.address request.payload.length nonempty
  unfold handle
  simp only [decode_toBool decoded, decoded, opcode, if_true]
  rw [answer, if_neg notRead, if_pos opcode, answerWrite]
  by_cases enabled : server.policy.writesEnabled = false
  · have refused := after_of_not_authorised server request
      (fun h => Bool.false_ne_true (enabled.symm.trans h.1))
    simp only [enabled, refused, Bool.not_false, if_true]
    exact congrArg (·, server) (makeResponse_refuse request (by decide) "write_disabled")
  rw [Bool.not_eq_false] at enabled
  by_cases inside : InAllowlist server.policy request.address.toNat request.payload.length
  · have range : MemoryMap.OutOfRange request.address.toNat request.payload.length ↔
        4096 < request.address.toNat + request.payload.length := by
      simp only [MemoryMap.OutOfRange, maximumPayloadSize] at small ⊢
      omega
    simp only [enabled, allowed.mpr inside, inside, MemoryMap.write_eq, range, Bool.not_true,
      Bool.false_eq_true, Bool.true_eq_false, not_true_eq_false, if_false]
    by_cases beyond : 4096 < request.address.toNat + request.payload.length
    · have refused := after_of_not_authorised server request
        (fun h => by have := h.2.2.2; omega)
      simp only [if_pos beyond, refused]
      exact congrArg (·, server) (makeResponse_refuse request (by decide) "memory_write_rejected")
    by_cases region : request.address.toNat < 0x100 ∨
        0x800 < request.address.toNat + request.payload.length
    · have refused := after_of_not_authorised server request
        (fun h => by have := h.2.2; omega)
      simp only [if_neg beyond, if_pos region, refused]
      exact congrArg (·, server) (makeResponse_refuse request (by decide) "memory_write_rejected")
    · have applied := after_of_authorised server opcode
        ⟨enabled, inside, by omega, by omega⟩
      simp only [if_neg beyond, if_neg region, applied]
      have response := makeResponse_eq request _ (acknowledge_encodable request "write_ok")
      exact congrArg (·, _) response
  · have refused := after_of_not_authorised server request
      (fun h => inside h.2.1)
    have unlisted : server.writeIsAllowed request.address request.payload.length = false := by
      rw [← Bool.not_eq_true, allowed]
      exact inside
    simp only [enabled, unlisted, inside, refused, Bool.not_true, Bool.not_false,
      Bool.false_eq_true, Bool.true_eq_false, not_false_eq_true, if_false, if_true]
    exact congrArg (·, server) (makeResponse_refuse request (by decide) "outside_write_allowlist")

/-- The server's answer on the wire. -/
theorem decode_answer (server : MemoryServer) (request : Frame) :
    (decode (wireBytes (responseFrame request (server.answer request)))).frame =
      some (responseFrame request (server.answer request)) :=
  (decode_ok_iff _ _).mpr ⟨answer_encodable server request, rfl⟩

/-- `handle` on a decodable request: the answer in its wire form, and the server after it. -/
theorem handle_of_decoded (server : MemoryServer) {bytes : List Byte} {request : Frame}
    (decoded : (decode bytes).frame = some request) :
    server.handle bytes = (reply request (server.answer request), server.after request) := by
  by_cases read : request.opcode = .readRequest
  · rw [handle_read server decoded read, after_of_not_write (by rw [read]; decide)]
  by_cases write : request.opcode = .writeRequest
  · exact handle_write server decoded write
  · unfold handle
    simp only [decode_toBool decoded, decoded, if_neg read, if_neg write,
      after_of_not_write write, answer]
    exact congrArg (·, server) (makeResponse_refuse request (by decide) "request_opcode_required")

end Imlp
