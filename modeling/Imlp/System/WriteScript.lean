import Imlp.System.FaultScript

/-!
# Writes under a fault script

A write makes one exchange, so one fault decides its fate: the first of the queue. The faults
that lose an exchange lose it before the server sees it; the others let the write be applied
and then hide the acknowledgement from the client.
-/

namespace Imlp
open MemoryServer Client LoopbackTransport

/-- The two trace records of the next exchange of a request: a lost exchange leaves no bytes
behind it, an answered one the answer as the fault left it. -/
def LoopbackTransport.nextRecords (transport : LoopbackTransport) (request : Frame) :
    List TraceRecord :=
  let answer := transport.server.answer request
  let records := exchangeRecords transport.nextSequence (wireBytes request)
  match transport.faults.head? with
  | some .timeout => records "timeout" []
  | some .disconnect => records "disconnected" []
  | fault => records answer.detail (mutate fault (wireBytes (responseFrame request answer)))

theorem nextRecords_length (transport : LoopbackTransport) (request : Frame) :
    (transport.nextRecords request).length = 2 := by
  unfold nextRecords
  split <;> rfl

theorem nextRecords_of_reaches {transport : LoopbackTransport} (request : Frame)
    (timeout : transport.faults.head? ≠ some .timeout)
    (disconnect : transport.faults.head? ≠ some .disconnect) :
    transport.nextRecords request =
      exchangeRecords transport.nextSequence (wireBytes request)
        (transport.server.answer request).detail
        (mutate transport.faults.head?
          (wireBytes (responseFrame request (transport.server.answer request)))) := by
  unfold nextRecords
  generalize transport.faults.head? = fault at timeout disconnect ⊢
  match fault with
  | some .timeout => exact absurd rfl timeout
  | some .disconnect => exact absurd rfl disconnect
  | none | some .truncateResponse | some .corruptResponse | some .wrongRequestId => rfl

/-- The end of an operation that makes a single exchange. -/
inductive SingleExchange (plan : Plan) (before : LoopbackTransport) (result : OperationResult)
    (after : LoopbackTransport) : Prop
  | lost (fault : TransportFault) (head : before.faults.head? = some fault)
      (loses : fault.loses = true) (attempts : result.attempts = 1)
      (error : result.error = failureOf fault.transportError)
      (detail : result.detail = plan.describe fault.transportError)
      (server : after.server = before.server) (faults : after.faults = before.faults.tail)
      (closed : after.isConnected = false)
      (trace : after.trace = before.trace ++ before.nextRecords plan.request)
  | answered (reaches : ∀ fault, before.faults.head? = some fault → fault.loses = false)
      (verdict : Verdict plan.request
        (mutate before.faults.head?
          (wireBytes (responseFrame plan.request (before.server.answer plan.request))))
        plan.expectedOpcode plan.expectedLength 1 result)
      (server : after.server = before.server.after plan.request)
      (faults : after.faults = before.faults.tail) (connected : after.isConnected = true)
      (trace : after.trace = before.trace ++ before.nextRecords plan.request)

/-- An operation that may make one attempt makes one exchange. -/
theorem Client.Run.single {plan : Plan} (valid : Encodable plan.request)
    (positive : 0 < plan.deadline) (bound : plan.bound = 1) {client final : Client}
    {before after : LoopbackTransport} {calls : List Call} {result : OperationResult}
    (run : Run asTransport plan 1 client before calls result final after) :
    SingleExchange plan before result after := by
  cases run with
  | unreachable _ failed => cases (Prod.mk.inj failed).1
  | answered opens sent ok =>
    rcases opened_exchange_cases opens valid positive sent with
      ⟨-, rfl, rfl⟩ | ⟨-, rfl, rfl⟩ | ⟨notTimeout, notDisconnect, -, bytes, rfl⟩
    · cases ok
    · cases ok
    · refine .answered ?_ ?_ rfl rfl rfl ?_
      · intro fault head
        cases fault with
        | timeout => exact absurd head notTimeout
        | disconnect => exact absurd head notDisconnect
        | truncateResponse | corruptResponse | wrongRequestId => rfl
      · rw [← bytes]
        exact validateResponse_verdict _ _ _ _ _ _
      · rw [nextRecords_of_reaches plan.request notTimeout notDisconnect, ← bytes]
        exact traced_trace_eq _ _ _ _
  | failed opens sent fails =>
    rcases opened_exchange_cases opens valid positive sent with
      ⟨head, rfl, rfl⟩ | ⟨head, rfl, rfl⟩ | ⟨-, -, ok, -⟩
    · refine .lost .timeout head rfl rfl rfl rfl rfl rfl rfl ?_
      rw [nextRecords, head]
      exact traced_trace_eq _ _ _ _
    · refine .lost .disconnect head rfl rfl rfl rfl rfl rfl rfl ?_
      rw [nextRecords, head]
      exact traced_trace_eq _ _ _ _
    · exact absurd ok fails
  | retried _ _ _ more => omega

/-- What a write reports, by the fault at the front of the queue. -/
def WriteReported (policy : ServerPolicy) (address : BitVec 32) (data : List Byte)
    (fault : Option TransportFault) (result : OperationResult) : Prop :=
  match fault with
  | some .timeout => result.error = .timeout ∧ result.detail = "write not retried: timeout"
  | some .disconnect =>
    result.error = .disconnected ∧ result.detail = "write not retried: disconnected"
  | some .truncateResponse => result.error = .malformedResponse ∧ result.detail = "truncated"
  | some .corruptResponse =>
    result.error = .malformedResponse ∧ result.detail = "checksum_mismatch"
  | some .wrongRequestId =>
    result.error = .correlationMismatch ∧
      result.detail = "response request ID or address did not match"
  | none =>
    if WriteAuthorised policy address.toNat data.length then
      result.error = .none ∧ result.detail = "ok" ∧ result.data = []
    else
      result.error = .remoteError ∧ result.detail = "remote request rejected" ∧
        result.remoteStatus = (answerWrite policy address.toNat data.length).status ∧
        result.data = (answerWrite policy address.toNat data.length).payload

theorem answer_writeRequest (server : MemoryServer) (requestId address : BitVec 32)
    (data : List Byte) :
    server.answer (writeRequest requestId address data) =
      answerWrite server.policy address.toNat data.length := rfl

/-- The acknowledgement or the refusal of a write, as the client finds it. -/
theorem write_answer_verdict {server : MemoryServer} {requestId address : BitVec 32}
    {data response : List Byte} {attempts : Nat} {result : OperationResult}
    (verdict : Verdict (writeRequest requestId address data) response .writeAcknowledgement 0
      attempts result)
    (decoded : (decode response).frame = some (responseFrame (writeRequest requestId address data)
      (server.answer (writeRequest requestId address data)))) :
    WriteReported server.policy address data none result := by
  have known := answer_case server (writeRequest requestId address data)
  have detail := verdict.detail_eq
  simp only [WriteReported]
  rw [answer_writeRequest] at known decoded
  by_cases authorised : WriteAuthorised server.policy address.toNat data.length
  · rw [if_pos authorised]
    generalize answerWrite server.policy address.toNat data.length = answer at known decoded
    cases known with
    | refuse _ _ refused => exact absurd ⟨rfl, authorised⟩ refused
    | data opcode => cases opcode
    | acknowledge =>
      obtain ⟨error, data⟩ := (verdict.accepted_iff (.inr rfl) []).mpr ⟨rfl, decoded⟩
      rw [error] at detail
      exact ⟨error, detail, data⟩
  · rw [if_neg authorised]
    generalize answerWrite server.policy address.toNat data.length = answer at known decoded ⊢
    cases known with
    | refuse failure =>
      obtain ⟨error, refusal⟩ := (verdict.remote_iff _ _).mpr ⟨failure, decoded⟩
      rw [error] at detail
      exact ⟨error, detail, refusal⟩
    | data opcode => cases opcode
    | acknowledge _ granted => exact absurd granted authorised

/-- What is left of the answer to a write after a fault that lets it through. -/
theorem writeReported_of_verdict {server : MemoryServer} {requestId address : BitVec 32}
    {data : List Byte} {fault : Option TransportFault}
    (reaches : ∀ kind, fault = some kind → kind.loses = false) {attempts : Nat}
    {result : OperationResult}
    (verdict : Verdict (writeRequest requestId address data)
      (mutate fault (wireBytes (responseFrame (writeRequest requestId address data)
        (server.answer (writeRequest requestId address data)))))
      .writeAcknowledgement 0 attempts result) :
    WriteReported server.policy address data fault result := by
  have valid := answer_encodable server (writeRequest requestId address data)
  have found := decode_mutate valid fault
  cases fault with
  | none => exact write_answer_verdict verdict (congrArg DecodeResult.frame found)
  | some kind =>
    cases kind with
    | timeout => cases reaches .timeout rfl
    | disconnect => cases reaches .disconnect rfl
    | truncateResponse | corruptResponse =>
      obtain ⟨error, detail⟩ := verdict.malformed_detail (congrArg DecodeResult.frame found)
      rw [found] at detail
      exact ⟨error, detail⟩
    | wrongRequestId =>
      exact verdict.mismatch_detail (congrArg DecodeResult.frame found) (add_one_ne requestId)

/-- The exact outcome of a write under any fault script. It makes one exchange, whose two records
are all it adds to the trace, and consumes one fault. The write takes effect exactly when it is
authorised and that fault does not lose the exchange, and the fault decides what the client is
told about it. -/
theorem write_under_fault_script (client : Client) (transport : LoopbackTransport)
    (address : BitVec 32) (data : List Byte) (deadline : Int)
    (valid : (ClientOp.write address data deadline).Valid) :
    let result := (client.write asTransport transport address data deadline).1
    let after := (client.write asTransport transport address data deadline).2.2
    let fault := transport.faults.head?
    result.attempts = 1 ∧
    after.trace = transport.trace ++
      transport.nextRecords (writeRequest client.nextRequestId address data) ∧
    after.faults = transport.faults.tail ∧
    after.isConnected = !fault.any TransportFault.loses ∧
    after.server =
      (if fault.any TransportFault.loses = false ∧
          WriteAuthorised transport.server.policy address.toNat data.length then
        { transport.server with memory := transport.server.memory.copy address.toNat data }
      else transport.server) ∧
    WriteReported transport.server.policy address data fault result := by
  intro result after fault
  have settled : SingleExchange (plan client.nextRequestId client.options.maximumReadAttempts
      (.write address data deadline)) transport result after := by
    obtain ⟨invalid, -⟩ | ⟨-, found, final, last, run, performed⟩ :=
      perform_run asTransport client transport (.write address data deadline)
    · exact absurd valid invalid
    · rw [perform] at performed
      simp only [result, after, performed]
      exact run.single (valid.encodable _) valid.2.2 rfl
  cases settled with
  | lost kind head loses attempts error detail server faults closed trace =>
    have lost : fault.any TransportFault.loses = true := by
      simp only [fault, head]
      exact loses
    have reported : WriteReported transport.server.policy address data fault result := by
      simp only [fault, head]
      cases kind with
      | timeout | disconnect => exact ⟨error, detail⟩
      | truncateResponse | corruptResponse | wrongRequestId => cases loses
    rw [lost, if_neg (fun h => Bool.false_ne_true h.1.symm)]
    exact ⟨attempts, trace, faults, closed, server, reported⟩
  | answered reaches verdict server faults connected trace =>
    have reached : fault.any TransportFault.loses = false := by
      cases head : fault with
      | none => rfl
      | some kind => exact reaches kind head
    rw [reached]
    refine ⟨verdict.attempts_eq, trace, faults, connected, ?_,
      writeReported_of_verdict reaches verdict⟩
    rw [server]
    by_cases authorised : WriteAuthorised transport.server.policy address.toNat data.length
    · rw [if_pos ⟨rfl, authorised⟩]
      exact after_of_authorised transport.server rfl authorised
    · rw [if_neg (fun h => authorised h.2)]
      exact after_of_not_authorised transport.server _ authorised

/-- A write whose acknowledgement is corrupted is applied all the same, in one exchange. -/
theorem write_under_fault_script_corrupted :
    let transport : LoopbackTransport :=
      { LoopbackTransport.new (MemoryServer.new { writesEnabled := true }) with
        faults := [.corruptResponse] }
    let performed := (Client.new {}).write asTransport transport 0x100#32 [0x12#8] 50
    performed.1.error = .malformedResponse ∧ performed.2.2.trace.length = 2 ∧
      performed.2.2.server.memory.byte 0x100 = 0x12#8 := by
  intro transport performed
  have outcome := write_under_fault_script (Client.new {}) transport 0x100#32 [0x12#8] 50
    (by decide)
  have authorised : WriteAuthorised transport.server.policy (0x100#32).toNat
      ([0x12#8] : List Byte).length := by decide
  have reported : WriteReported { writesEnabled := true } 0x100#32 [0x12#8]
      (some .corruptResponse) performed.1 := outcome.2.2.2.2.2
  have server := outcome.2.2.2.2.1
  rw [if_pos ⟨rfl, authorised⟩] at server
  have trace := outcome.2.1
  refine ⟨reported.1, ?_, ?_⟩
  · simp only [performed, trace, List.length_append, nextRecords_length]
    rfl
  · simp only [performed, server]
    decide +kernel

end Imlp
