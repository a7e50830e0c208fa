import Imlp.System.Refinement

/-!
# Operations without faults

Over a transport with an empty fault queue an operation makes one exchange. Its result is the
verdict on the server's own answer, and its trace the request and that answer.
-/

namespace Imlp
open MemoryServer Client LoopbackTransport

section Verdict

variable {request frame : Frame} {response : List Byte} {opcode : Opcode}
  {length attempts : Nat} {result : OperationResult}

/-- A refusal that reaches the client is its result. -/
theorem Client.Verdict.eq_remote
    (verdict : Verdict request response opcode length attempts result)
    (decoded : (decode response).frame = some frame)
    (sameId : frame.requestId = request.requestId)
    (sameAddress : frame.address = request.address) (error : frame.opcode = .errorResponse) :
    result =
      { error := .remoteError
        remoteStatus := frame.status
        requestId := request.requestId
        attempts := attempts
        data := frame.payload
        detail := "remote request rejected" } := by
  cases verdict with
  | malformed rejected => cases rejected.symm.trans decoded
  | mismatch found other =>
    obtain rfl := Option.some.inj (decoded.symm.trans found)
    rcases other with other | other
    · exact absurd sameId other
    · exact absurd sameAddress other
  | remote found =>
    obtain rfl := Option.some.inj (decoded.symm.trans found)
    rfl
  | unexpected found _ _ noError | accepted found _ _ noError =>
    obtain rfl := Option.some.inj (decoded.symm.trans found)
    exact absurd error noError

/-- An expected response that reaches the client is its result. -/
theorem Client.Verdict.eq_accepted
    (verdict : Verdict request response opcode length attempts result)
    (decoded : (decode response).frame = some frame)
    (sameId : frame.requestId = request.requestId)
    (sameAddress : frame.address = request.address) (noError : frame.opcode ≠ .errorResponse)
    (expected : frame.opcode = opcode) (size : frame.payload.length = length) :
    result =
      { error := .none
        remoteStatus := frame.status
        requestId := request.requestId
        attempts := attempts
        data := frame.payload
        detail := "ok" } := by
  cases verdict with
  | malformed rejected => cases rejected.symm.trans decoded
  | mismatch found other =>
    obtain rfl := Option.some.inj (decoded.symm.trans found)
    rcases other with other | other
    · exact absurd sameId other
    · exact absurd sameAddress other
  | remote found _ _ error =>
    obtain rfl := Option.some.inj (decoded.symm.trans found)
    exact absurd error noError
  | unexpected found _ _ _ wrong =>
    obtain rfl := Option.some.inj (decoded.symm.trans found)
    rcases wrong with wrong | wrong
    · exact absurd expected wrong
    · exact absurd size wrong
  | accepted found =>
    obtain rfl := Option.some.inj (decoded.symm.trans found)
    rfl

end Verdict

theorem mutate_none (response : List Byte) : mutate none response = response := by
  simp [mutate]

/-- An exchange over a transport without faults is answered by the server. -/
theorem exchange_faultless {client opened : Client} {transport ready after : LoopbackTransport}
    {opening : List Call} {request : Frame} {deadline : Int} {reply : TransportReply}
    (opens : Opens asTransport client transport opening opened ready)
    (valid : Encodable request) (positive : 0 < deadline)
    (sent : asTransport.exchange (wireBytes request) deadline ready = (reply, after))
    (noFaults : transport.faults = []) :
    reply.error = .none ∧
      reply.bytes = wireBytes (responseFrame request (transport.server.answer request)) ∧
      after.trace = transport.trace ++ exchangeRecords transport.nextSequence (wireBytes request)
        (transport.server.answer request).detail reply.bytes := by
  rcases opened_exchange_cases opens valid positive sent with
    ⟨head, -⟩ | ⟨head, -⟩ | ⟨-, -, ok, bytes, rfl⟩
  · rw [noFaults] at head
    cases head
  · rw [noFaults] at head
    cases head
  · rw [noFaults, List.head?_nil, mutate_none] at bytes
    exact ⟨ok, bytes, traced_trace_eq _ _ _ _⟩

/-- An operation over a transport without faults makes one exchange, and its result is the
verdict on the server's answer. -/
theorem Client.Run.faultless {plan : Plan} (valid : Encodable plan.request)
    (positive : 0 < plan.deadline) {attempt : Nat} {client final : Client}
    {before after : LoopbackTransport} {calls : List Call} {result : OperationResult}
    (run : Run asTransport plan attempt client before calls result final after)
    (noFaults : before.faults = []) :
    Verdict plan.request
        (wireBytes (responseFrame plan.request (before.server.answer plan.request)))
        plan.expectedOpcode plan.expectedLength attempt result ∧
      after.trace = before.trace ++ exchangeRecords before.nextSequence (wireBytes plan.request)
        (before.server.answer plan.request).detail
        (wireBytes (responseFrame plan.request (before.server.answer plan.request))) := by
  cases run with
  | unreachable _ failed => cases (Prod.mk.inj failed).1
  | answered opens sent =>
    obtain ⟨-, bytes, trace⟩ := exchange_faultless opens valid positive sent noFaults
    rw [← bytes]
    exact ⟨validateResponse_verdict _ _ _ _ _ _, trace⟩
  | failed opens sent fails =>
    exact absurd (exchange_faultless opens valid positive sent noFaults).1 fails
  | retried opens sent fails =>
    exact absurd (exchange_faultless opens valid positive sent noFaults).1 fails

/-- An operation with valid arguments over a transport without faults. -/
theorem perform_faultless (client : Client) {transport : LoopbackTransport} {op : ClientOp}
    (valid : op.Valid) (noFaults : transport.faults = []) :
    let request := op.request client.nextRequestId
    let answer := transport.server.answer request
    let plan := plan client.nextRequestId client.options.maximumReadAttempts op
    Verdict request (wireBytes (responseFrame request answer)) plan.expectedOpcode
        plan.expectedLength 1 (client.perform asTransport transport op).1 ∧
      (client.perform asTransport transport op).2.2.trace = transport.trace ++
        exchangeRecords transport.nextSequence (wireBytes request) answer.detail
          (wireBytes (responseFrame request answer)) := by
  intro request answer
  obtain ⟨invalid, -⟩ | ⟨-, result, final, last, run, performed⟩ :=
    perform_run asTransport client transport op
  · exact absurd valid invalid
  · have encodable := valid.encodable client.nextRequestId
    rw [performed]
    have faultless := run.faultless (by rwa [plan_request]) (valid.deadline_pos _ _) noFaults
    rwa [plan_request] at faultless

section Results

variable {server : MemoryServer} {requestId address : BitVec 32} {length attempts : Nat}
  {result : OperationResult}

/-- The verdict on a data response. -/
theorem read_data_result (positive : 0 < length) (small : length ≤ maximumPayloadSize)
    (inside : address.toNat + length ≤ 0x800)
    (verdict : Verdict (readRequest requestId address length)
      (wireBytes (responseFrame (readRequest requestId address length)
        (server.answer (readRequest requestId address length))))
      .dataResponse length attempts result) :
    result =
      { requestId := requestId
        attempts := attempts
        data := (List.range' address.toNat length).map server.memory.byte
        detail := "ok" } := by
  have decoded := decode_answer server (readRequest requestId address length)
  have range : ¬ MemoryMap.OutOfRange address.toNat length := by
    rw [maximumPayloadSize] at small
    simp only [MemoryMap.OutOfRange]
    omega
  rw [answer_readRequest server requestId address small, answerRead, if_neg range,
    if_neg (by omega)] at verdict decoded
  refine verdict.eq_accepted decoded rfl rfl ?_ rfl ?_
  · intro error
    cases error
  · exact (List.length_map _).trans List.length_range'

/-- The verdict on a refused read. -/
theorem read_refused_result (positive : 0 < length) (small : length ≤ maximumPayloadSize)
    (outside : 0x800 < address.toNat + length)
    (verdict : Verdict (readRequest requestId address length)
      (wireBytes (responseFrame (readRequest requestId address length)
        (server.answer (readRequest requestId address length))))
      .dataResponse length attempts result) :
    result =
      { error := .remoteError
        remoteStatus := if 4096 < address.toNat + length then .outOfRange else .accessDenied
        requestId := requestId
        attempts := attempts
        data := textPayload "read_rejected"
        detail := "remote request rejected" } := by
  have decoded := decode_answer server (readRequest requestId address length)
  have range : MemoryMap.OutOfRange address.toNat length ↔ 4096 < address.toNat + length := by
    rw [maximumPayloadSize] at small
    simp only [MemoryMap.OutOfRange]
    omega
  have answer : server.answer (readRequest requestId address length) =
      .refuse (if 4096 < address.toNat + length then .outOfRange else .accessDenied)
        "read_rejected" := by
    rw [answer_readRequest server requestId address small, answerRead, if_pos outside]
    by_cases beyond : 4096 < address.toNat + length
    · rw [if_pos (range.mpr beyond), if_pos beyond]
    · rw [if_neg (fun h => beyond (range.mp h)), if_neg beyond]
  rw [answer] at verdict decoded
  exact verdict.eq_remote decoded rfl rfl rfl

/-- The result of a write carries the status and the payload of the server's answer. -/
theorem write_observed {data : List Byte}
    (verdict : Verdict (writeRequest requestId address data)
      (wireBytes (responseFrame (writeRequest requestId address data)
        (server.answer (writeRequest requestId address data))))
      .writeAcknowledgement 0 attempts result) :
    result.remoteStatus = (server.answer (writeRequest requestId address data)).status ∧
      result.data = (server.answer (writeRequest requestId address data)).payload := by
  have decoded := decode_answer server (writeRequest requestId address data)
  have known := answer_case server (writeRequest requestId address data)
  generalize server.answer (writeRequest requestId address data) = answer
    at verdict decoded known ⊢
  cases known with
  | refuse =>
    rw [verdict.eq_remote decoded rfl rfl rfl]
    exact ⟨rfl, rfl⟩
  | data opcode => cases opcode
  | acknowledge =>
    have noError : Opcode.writeAcknowledgement ≠ .errorResponse := by decide
    rw [verdict.eq_accepted decoded rfl rfl noError rfl rfl]
    exact ⟨rfl, rfl⟩

end Results

end Imlp
