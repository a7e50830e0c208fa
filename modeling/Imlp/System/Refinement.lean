import Imlp.Client.Acceptance
import Imlp.System
import Imlp.Transport.Loopback

/-!
# The system refines a plain memory

What a client-visible result says about the memory behind the loopback transport, whatever
faults are queued. A run of the client over the loopback transport ends in one of two ways
(`Settled`): every exchange was lost before the server saw it, or exactly one was answered and
the result is the verdict on that answer after its fault. Faults act only on the way back, so
the server's effect is the same for a damaged answer as for an intact one.
-/

namespace Imlp
open MemoryServer Client LoopbackTransport

/-- What an operation left behind: the server, and how many writes the server reported as
applied in the trace records of the operation. -/
def Leaves (before after : LoopbackTransport) (server : MemoryServer) (writes : Nat) : Prop :=
  after.server = server ∧ ∃ records, after.trace = before.trace ++ records ∧
    records.countP (fun record => record.outcome = "write_ok") = writes

/-- How many writes an answer reports as applied. -/
def Answer.appliedWrites (answer : Answer) : Nat := if answer.detail = "write_ok" then 1 else 0

/-- The end of an operation over the loopback transport. -/
inductive Settled (plan : Plan) (before : LoopbackTransport) (result : OperationResult)
    (after : LoopbackTransport) : Prop
  | lost (failed : result.error = .timeout ∨ result.error = .disconnected)
      (leaves : Leaves before after before.server 0)
  | answered (fault : Option TransportFault) (attempts : Nat)
      (verdict : Verdict plan.request
        (mutate fault
          (wireBytes (responseFrame plan.request (before.server.answer plan.request))))
        plan.expectedOpcode plan.expectedLength attempts result)
      (leaves : Leaves before after (before.server.after plan.request)
        (before.server.answer plan.request).appliedWrites)

/-- Opening a loopback transport connects it and changes nothing else. -/
theorem opens_loopback {client opened : Client} {transport ready : LoopbackTransport}
    {opening : List Call} (opens : Opens asTransport client transport opening opened ready) :
    ready = { transport with isConnected := true } := by
  cases opens with
  | already up =>
    obtain ⟨connected, rfl⟩ := Prod.mk.inj up
    have connected : transport.isConnected = true := connected
    rw [← connected]
  | reconnected lost answered =>
    obtain ⟨-, rfl⟩ := Prod.mk.inj lost
    exact (Prod.mk.inj answered).2.symm

/-- `exchange_cases` for a loopback transport that was just opened. -/
theorem opened_exchange_cases {client opened : Client}
    {transport ready after : LoopbackTransport} {opening : List Call} {request : Frame}
    {deadline : Int} {reply : TransportReply}
    (opens : Opens asTransport client transport opening opened ready)
    (valid : Encodable request) (positive : 0 < deadline)
    (sent : asTransport.exchange (wireBytes request) deadline ready = (reply, after)) :
    (transport.faults.head? = some .timeout ∧ reply = { error := .timeout } ∧
      after =
        { transport.traced (wireBytes request) "timeout" [] with
          faults := transport.faults.tail
          isConnected := true }) ∨
    (transport.faults.head? = some .disconnect ∧ reply = { error := .disconnected } ∧
      after =
        { transport.traced (wireBytes request) "disconnected" [] with
          faults := transport.faults.tail
          isConnected := false }) ∨
    (transport.faults.head? ≠ some .timeout ∧ transport.faults.head? ≠ some .disconnect ∧
      reply.error = .none ∧
      reply.bytes = mutate transport.faults.head?
        (wireBytes (responseFrame request (transport.server.answer request))) ∧
      after =
        { transport.traced (wireBytes request) (transport.server.answer request).detail
            reply.bytes with
          faults := transport.faults.tail
          isConnected := true
          server := transport.server.after request }) := by
  obtain rfl := opens_loopback opens
  rcases exchange_cases { transport with isConnected := true } rfl valid positive with
    ⟨head, exchanged⟩ | ⟨head, exchanged⟩ | ⟨timeout, disconnect, exchanged⟩
  · obtain ⟨rfl, rfl⟩ := Prod.mk.inj (sent.symm.trans exchanged)
    exact .inl ⟨head, rfl, rfl⟩
  · obtain ⟨rfl, rfl⟩ := Prod.mk.inj (sent.symm.trans exchanged)
    exact .inr (.inl ⟨head, rfl, rfl⟩)
  · dsimp only at exchanged
    obtain ⟨rfl, rfl⟩ := Prod.mk.inj (sent.symm.trans exchanged)
    exact .inr (.inr ⟨timeout, disconnect, rfl, rfl, rfl⟩)

/-- The records of one exchange count a write exactly when the server reported one. -/
theorem leaves_traced (transport : LoopbackTransport) (request : List Byte) (outcome : String)
    (response : List Byte) {after : LoopbackTransport}
    (trace : after.trace = (transport.traced request outcome response).trace) :
    Leaves transport after after.server (if outcome = "write_ok" then 1 else 0) := by
  refine ⟨rfl, _, trace.trans (traced_trace_eq transport request outcome response), ?_⟩
  rw [exchangeRecords, List.countP_cons, List.countP_cons, List.countP_nil]
  simp

/-- Lost exchanges before an operation's end do not change what it leaves behind. -/
theorem Leaves.after_lost {before middle resumed after : LoopbackTransport}
    {server : MemoryServer} {writes : Nat} (lost : Leaves before middle before.server 0)
    (trace : resumed.trace = middle.trace) (rest : Leaves resumed after server writes) :
    Leaves before after server writes := by
  obtain ⟨-, records, recorded, none⟩ := lost
  obtain ⟨same, later, recordedLater, count⟩ := rest
  refine ⟨same, records ++ later, ?_, ?_⟩
  · rw [recordedLater, trace, recorded, List.append_assoc]
  · rw [List.countP_append, none, count, Nat.zero_add]

/-- One exchange over a loopback transport that was just opened. -/
theorem exchange_settles {client opened : Client} {transport ready after : LoopbackTransport}
    {opening : List Call} {request : Frame} {deadline : Int} {reply : TransportReply}
    (opens : Opens asTransport client transport opening opened ready)
    (valid : Encodable request) (positive : 0 < deadline)
    (sent : asTransport.exchange (wireBytes request) deadline ready = (reply, after)) :
    ((reply.error = .timeout ∨ reply.error = .disconnected) ∧
      Leaves transport after transport.server 0) ∨
    (reply.error = .none ∧ ∃ fault,
      reply.bytes =
        mutate fault (wireBytes (responseFrame request (transport.server.answer request))) ∧
      Leaves transport after (transport.server.after request)
        (transport.server.answer request).appliedWrites) := by
  rcases opened_exchange_cases opens valid positive sent with
    ⟨-, rfl, rfl⟩ | ⟨-, rfl, rfl⟩ | ⟨-, -, ok, bytes, rfl⟩
  · exact .inl ⟨.inl rfl, leaves_traced transport (wireBytes request) "timeout" [] rfl⟩
  · exact .inl ⟨.inr rfl, leaves_traced transport (wireBytes request) "disconnected" [] rfl⟩
  · exact .inr ⟨ok, _, bytes, leaves_traced transport (wireBytes request) _ _ rfl⟩

/-- Every operation over the loopback transport is settled. -/
theorem Client.Run.settled {plan : Plan} (valid : Encodable plan.request)
    (positive : 0 < plan.deadline) {attempt : Nat} {client final : Client}
    {before after : LoopbackTransport} {calls : List Call} {result : OperationResult}
    (run : Run asTransport plan attempt client before calls result final after) :
    Settled plan before result after := by
  induction run with
  | unreachable _ failed => cases (Prod.mk.inj failed).1
  | @answered attempt _ opened _ _ _ _ reply opens sent ok =>
    rcases exchange_settles opens valid positive sent with ⟨failed, -⟩ | ⟨-, fault, bytes, leaves⟩
    · rw [ok] at failed
      rcases failed with impossible | impossible <;> cases impossible
    · refine .answered fault attempt ?_ leaves
      rw [← bytes]
      exact validateResponse_verdict _ _ _ _ _ _
  | failed opens sent fails =>
    rcases exchange_settles opens valid positive sent with ⟨failed, leaves⟩ | ⟨ok, -⟩
    · refine .lost ?_ leaves
      simp only [failureOf]
      rcases failed with timeout | disconnected
      · exact .inl (if_pos timeout)
      · rw [disconnected]
        exact .inr (if_neg nofun)
    · exact absurd ok fails
  | retried opens sent fails _ _ ih =>
    rcases exchange_settles opens valid positive sent with ⟨-, leaves⟩ | ⟨ok, -⟩
    · have server := leaves.1
      rcases ih with ⟨failed, rest⟩ | ⟨fault, attempts, verdict, rest⟩
      · refine .lost failed ?_
        rw [← server]
        exact leaves.after_lost rfl rest
      · refine .answered fault attempts ?_ ?_
        · rw [← server]
          exact verdict
        · rw [← server]
          exact leaves.after_lost rfl rest
    · exact absurd ok fails

/-! ## What a result says about the memory -/

theorem add_one_ne (value : BitVec 32) : value + 1#32 ≠ value := by
  intro same
  have values := congrArg BitVec.toNat same
  rw [BitVec.toNat_add, BitVec.toNat_ofNat] at values
  have := value.isLt
  omega

/-- A damaged answer is reported as damaged; every other one reaches the client as it is. -/
theorem Client.Verdict.delivered {request response : Frame} {fault : Option TransportFault}
    {opcode : Opcode} {length attempts : Nat} {result : OperationResult}
    (verdict : Verdict request (mutate fault (wireBytes response)) opcode length attempts result)
    (valid : Encodable response) (sameId : response.requestId = request.requestId) :
    (result.error = .malformedResponse ∨ result.error = .correlationMismatch) ∨
    (decode (mutate fault (wireBytes response))).frame = some response := by
  have found := decode_mutate valid fault
  by_cases truncate : fault = some .truncateResponse
  · rw [if_pos truncate] at found
    exact .inl (.inl (verdict.of_rejected (by rw [found])))
  rw [if_neg truncate] at found
  by_cases corrupt : fault = some .corruptResponse
  · rw [if_pos corrupt] at found
    exact .inl (.inl (verdict.of_rejected (by rw [found])))
  rw [if_neg corrupt] at found
  by_cases renumber : fault = some .wrongRequestId
  · rw [if_pos renumber] at found
    have other : (decode (mutate fault (wireBytes response))).frame =
        some { response with requestId := response.requestId + 1#32 } := by rw [found]
    refine .inl (.inr (verdict.of_other_id other ?_))
    rw [← sameId]
    exact add_one_ne response.requestId
  · rw [if_neg renumber] at found
    exact .inr (by rw [found])

/-- The write was applied exactly once: its interval is replaced by the data, all other bytes
and the policy are as before, and the server reported one applied write. -/
structure AppliedOnce (before after : LoopbackTransport) (address : BitVec 32)
    (data : List Byte) : Prop where
  policy : after.server.policy = before.server.policy
  bytes : ∀ index : Fin memoryCapacity, after.server.memory.bytes index =
    if address.toNat ≤ index.val ∧ index.val < address.toNat + data.length then
      byteAt data (index.val - address.toNat)
    else before.server.memory.bytes index
  reported : ∃ records, after.trace = before.trace ++ records ∧
    records.countP (fun record => record.outcome = "write_ok") = 1

theorem AppliedOnce.of_leaves {before after : LoopbackTransport} {address : BitVec 32}
    {data : List Byte}
    (leaves : Leaves before after
      { before.server with memory := before.server.memory.copy address.toNat data } 1) :
    AppliedOnce before after address data := by
  obtain ⟨server, reported⟩ := leaves
  refine ⟨?_, ?_, reported⟩
  · rw [server]
  · intro index
    rw [server, MemoryMap.copy]

/-- The memory is as before and the server reported no applied write. -/
def Untouched (before after : LoopbackTransport) : Prop := Leaves before after before.server 0

/-- What the result of a write says about the memory. -/
structure WriteOutcome (policy : ServerPolicy) (address : BitVec 32) (data : List Byte)
    (before : LoopbackTransport) (result : OperationResult) (after : LoopbackTransport) :
    Prop where
  success : result.error = .none →
    WriteAuthorised policy address.toNat data.length ∧ AppliedOnce before after address data
  unchanged : result.error = .invalidArgument ∨ result.error = .timeout ∨
    result.error = .disconnected ∨ result.error = .remoteError → Untouched before after
  refused : result.error = .remoteError → ¬ WriteAuthorised policy address.toNat data.length
  ambiguous : result.error = .malformedResponse ∨ result.error = .correlationMismatch →
    (WriteAuthorised policy address.toNat data.length ∧ AppliedOnce before after address data) ∨
    (¬ WriteAuthorised policy address.toNat data.length ∧ Untouched before after)
  possible : result.error ≠ .connectFailed ∧ result.error ≠ .encodingFailed ∧
    result.error ≠ .unexpectedResponse

/-- What the result of a read says about the memory. -/
structure ReadOutcome (address : BitVec 32) (length : Nat) (before : LoopbackTransport)
    (result : OperationResult) (after : LoopbackTransport) : Prop where
  unchanged : Untouched before after
  success : result.error = .none → address.toNat + length ≤ memoryCapacity ∧
    result.data = (List.range' address.toNat length).map before.server.memory.byte
  possible : result.error ≠ .connectFailed ∧ result.error ≠ .encodingFailed ∧
    result.error ≠ .unexpectedResponse

section WriteOutcome

variable {policy : ServerPolicy} {address : BitVec 32} {data : List Byte}
  {before after : LoopbackTransport} {result : OperationResult}

theorem WriteOutcome.of_lost (untouched : Untouched before after)
    (failed : result.error = .invalidArgument ∨ result.error = .timeout ∨
      result.error = .disconnected) :
    WriteOutcome policy address data before result after := by
  rcases failed with error | error | error <;> constructor <;> simp [error, untouched]

theorem WriteOutcome.of_refused (untouched : Untouched before after)
    (refused : ¬ WriteAuthorised policy address.toNat data.length)
    (error : (result.error = .malformedResponse ∨ result.error = .correlationMismatch) ∨
      result.error = .remoteError) :
    WriteOutcome policy address data before result after := by
  rcases error with (error | error) | error <;> constructor <;>
    simp [error, untouched, refused]

theorem WriteOutcome.of_applied (applied : AppliedOnce before after address data)
    (authorised : WriteAuthorised policy address.toNat data.length)
    (error : (result.error = .malformedResponse ∨ result.error = .correlationMismatch) ∨
      result.error = .none) :
    WriteOutcome policy address data before result after := by
  rcases error with (error | error) | error <;> constructor <;>
    simp [error, applied, authorised]

end WriteOutcome

theorem Settled.write {requestId address : BitVec 32} {bound : Nat} {data : List Byte}
    {deadline : Int} {before after : LoopbackTransport} {result : OperationResult}
    (settled : Settled (plan requestId bound (.write address data deadline)) before result
      after) :
    WriteOutcome before.server.policy address data before result after := by
  cases settled with
  | lost failed leaves => exact .of_lost leaves (.inr failed)
  | answered fault attempts verdict leaves =>
    have valid := answer_encodable before.server (writeRequest requestId address data)
    have known := answer_case before.server (writeRequest requestId address data)
    simp only [plan] at verdict leaves
    generalize before.server.answer (writeRequest requestId address data) = answer
      at valid known verdict leaves
    cases known with
    | @refuse status detail failure named refused =>
      have unauthorised :
          ¬ WriteAuthorised before.server.policy address.toNat data.length :=
        fun authorised => refused ⟨rfl, authorised⟩
      have untouched : Untouched before after := by
        have kept : before.server.after (writeRequest requestId address data) = before.server :=
          if_neg refused
        rwa [kept, Answer.appliedWrites, if_neg (by exact named.2)] at leaves
      refine .of_refused untouched unauthorised ?_
      rcases verdict.delivered valid rfl with damaged | decoded
      · exact .inl damaged
      · exact .inr ((verdict.remote_iff status (textPayload detail)).mpr ⟨failure, decoded⟩).1
    | data opcode => cases opcode
    | acknowledge opcode authorised =>
      rw [after_of_authorised before.server opcode authorised, Answer.appliedWrites,
        if_pos (by rfl)] at leaves
      refine .of_applied (.of_leaves leaves) authorised ?_
      rcases verdict.delivered valid rfl with damaged | decoded
      · exact .inl damaged
      · exact .inr ((verdict.accepted_iff (.inr rfl) []).mpr ⟨rfl, decoded⟩).1

theorem ReadOutcome.of_failed {address : BitVec 32} {length : Nat}
    {before after : LoopbackTransport} {result : OperationResult}
    (untouched : Untouched before after)
    (failed : result.error = .invalidArgument ∨
      (result.error = .timeout ∨ result.error = .disconnected) ∨
      (result.error = .malformedResponse ∨ result.error = .correlationMismatch) ∨
      result.error = .remoteError) :
    ReadOutcome address length before result after := by
  rcases failed with error | (error | error) | (error | error) | error <;> constructor <;>
    simp [error, untouched]

/-- The length a read request asks for is the length it was built with. -/
theorem requestedLength_readRequest (requestId address : BitVec 32) {length : Nat}
    (small : length ≤ maximumPayloadSize) :
    requestedLength (readRequest requestId address length).payload = length := by
  rw [maximumPayloadSize] at small
  rw [requestedLength_eq, readRequest, maskByte, maskByte_zero]
  simp only [byteAt_cons_zero, byteAt_cons_succ, BitVec.extractLsb'_toNat, BitVec.toNat_ofNat,
    Nat.shiftRight_eq_div_pow]
  omega

theorem answer_readRequest (server : MemoryServer) (requestId address : BitVec 32) {length : Nat}
    (small : length ≤ maximumPayloadSize) :
    server.answer (readRequest requestId address length) =
      server.answerRead address.toNat length := by
  have answered : server.answer (readRequest requestId address length) =
      server.answerRead address.toNat
        (requestedLength (readRequest requestId address length).payload) := rfl
  rw [answered, requestedLength_readRequest requestId address small]

/-- The server's own answer to a read is accepted with the bytes of the memory, or reported as
a remote error. -/
theorem read_answer_verdict {server : MemoryServer} {requestId address : BitVec 32}
    {length : Nat} (small : length ≤ maximumPayloadSize) {response : List Byte}
    {attempts : Nat} {result : OperationResult}
    (verdict : Verdict (readRequest requestId address length) response .dataResponse length
      attempts result)
    (decoded : (decode response).frame = some (responseFrame (readRequest requestId address length)
      (server.answer (readRequest requestId address length)))) :
    (result.error = .none ∧ address.toNat + length ≤ memoryCapacity ∧
      result.data = (List.range' address.toNat length).map server.memory.byte) ∨
    result.error = .remoteError := by
  have size := requestedLength_readRequest requestId address small
  have known := answer_case server (readRequest requestId address length)
  generalize server.answer (readRequest requestId address length) = answer at known decoded
  cases known with
  | @refuse status detail failure =>
    exact .inr ((verdict.remote_iff status (textPayload detail)).mpr ⟨failure, decoded⟩).1
  | data _ _ inside =>
    rw [size] at decoded inside
    obtain ⟨error, data⟩ := (verdict.accepted_iff (.inl rfl) _).mpr ⟨by
      rw [List.length_map, List.length_range'], decoded⟩
    exact .inl ⟨error, Nat.le_trans inside (by decide), data⟩
  | acknowledge opcode => cases opcode

/-- The answer to a read reports no applied write. -/
theorem appliedWrites_read (server : MemoryServer) (requestId address : BitVec 32)
    (length : Nat) :
    (server.answer (readRequest requestId address length)).appliedWrites = 0 := by
  have known := answer_case server (readRequest requestId address length)
  generalize server.answer (readRequest requestId address length) = answer at known ⊢
  cases known with
  | refuse _ named => exact if_neg named.2
  | data =>
    have read : ("read_ok" : String) ≠ "write_ok" := by decide
    exact if_neg read
  | acknowledge opcode => cases opcode

theorem Settled.read {requestId address : BitVec 32} {bound length : Nat}
    (small : length ≤ maximumPayloadSize) {deadline : Int} {before after : LoopbackTransport}
    {result : OperationResult}
    (settled : Settled (plan requestId bound (.read address length deadline)) before result
      after) :
    ReadOutcome address length before result after := by
  cases settled with
  | lost failed leaves => exact .of_failed leaves (.inr (.inl failed))
  | answered fault attempts verdict leaves =>
    have valid := answer_encodable before.server (readRequest requestId address length)
    have kept : before.server.after (readRequest requestId address length) = before.server :=
      after_of_not_write nofun
    simp only [plan, kept, appliedWrites_read] at verdict leaves
    have untouched : Untouched before after := leaves
    rcases verdict.delivered valid rfl with damaged | decoded
    · exact .of_failed untouched (.inr (.inr (.inl damaged)))
    · rcases read_answer_verdict small verdict decoded with ⟨error, inside, data⟩ | refused
      · exact ⟨untouched, fun _ => ⟨inside, data⟩, by simp [error]⟩
      · exact .of_failed untouched (.inr (.inr (.inr refused)))

theorem untouched_refl (transport : LoopbackTransport) : Untouched transport transport :=
  ⟨rfl, [], (List.append_nil _).symm, rfl⟩

theorem Settled.policy {plan : Plan} {before after : LoopbackTransport} {result : OperationResult}
    (settled : Settled plan before result after) :
    after.server.policy = before.server.policy := by
  cases settled with
  | lost _ leaves => rw [leaves.1]
  | answered _ _ _ leaves => rw [leaves.1, after_policy]

theorem ClientOp.Valid.deadline_pos {op : ClientOp} (valid : op.Valid) (requestId : BitVec 32)
    (bound : Nat) : 0 < (plan requestId bound op).deadline := by
  cases op <;> exact valid.2.2

namespace System

/-- A client operation of the system is rejected without an effect or settled. -/
theorem call_cases (system : System) (op : ClientOp) :
    (¬ op.Valid ∧ (system.call op).1.error = .invalidArgument ∧
      (system.call op).2.transport = system.transport) ∨
    (op.Valid ∧ Settled (plan system.client.nextRequestId
        system.client.options.maximumReadAttempts op) system.transport (system.call op).1
      (system.call op).2.transport) := by
  obtain ⟨invalid, -, performed⟩ | ⟨valid, result, final, last, run, performed⟩ :=
    perform_run asTransport system.client system.transport op
  · left
    refine ⟨invalid, ?_, ?_⟩
    · rw [call, performed]
      cases op <;> rfl
    · rw [call, performed]
  · right
    refine ⟨valid, ?_⟩
    rw [call, performed]
    refine run.settled ?_ (valid.deadline_pos _ _)
    rw [plan_request]
    exact valid.encodable _

theorem call_write (system : System) (address : BitVec 32) (data : List Byte) (deadline : Int) :
    WriteOutcome system.transport.server.policy address data system.transport
      (system.call (.write address data deadline)).1
      (system.call (.write address data deadline)).2.transport := by
  rcases system.call_cases (.write address data deadline) with ⟨-, error, same⟩ | ⟨-, settled⟩
  · rw [same]
    exact .of_lost (untouched_refl _) (.inl error)
  · exact settled.write

theorem call_read (system : System) (address : BitVec 32) (length : Nat) (deadline : Int) :
    ReadOutcome address length system.transport
      (system.call (.read address length deadline)).1
      (system.call (.read address length deadline)).2.transport := by
  rcases system.call_cases (.read address length deadline) with
    ⟨-, error, same⟩ | ⟨valid, settled⟩
  · rw [same]
    exact .of_failed (untouched_refl _) (.inl error)
  · exact settled.read valid.2.1

/-- Only the operations of the client reach the server. -/
theorem step_server (system : System) {op : SystemOp} (other : ∀ request, op ≠ .call request) :
    (system.step op).transport.server = system.transport.server := by
  cases op with
  | call request => exact absurd rfl (other request)
  | pushFault | connect | close | clearTrace => rfl

/-- No step changes the policy. -/
theorem step_policy (system : System) (op : SystemOp) :
    (system.step op).transport.server.policy = system.transport.server.policy := by
  cases op with
  | call op =>
    rcases system.call_cases op with ⟨-, -, same⟩ | ⟨-, settled⟩
    · rw [step, same]
    · exact settled.policy
  | pushFault | connect | close | clearTrace => rfl

theorem run_policy (system : System) (ops : List SystemOp) :
    (system.run ops).transport.server.policy = system.transport.server.policy := by
  induction ops generalizing system with
  | nil => rfl
  | cons op ops ih =>
    rw [run, List.foldl_cons]
    exact (ih (system.step op)).trans (system.step_policy op)

/-- The system refines a plain memory under any fault script. After every run of a fresh
system, with faults queued and connections opened and closed at any point, the result of the
next write says whether it was authorised and applied, exactly once or not at all, the next
read leaves the memory alone and returns its bytes, and every step other than these keeps the
server as it is. -/
theorem refines_plain_memory (policy : ServerPolicy) (options : ClientOptions)
    (ops : List SystemOp) :
    let system := (System.new policy options).run ops
    (∀ address data deadline,
      WriteOutcome policy address data system.transport
        (system.call (.write address data deadline)).1
        (system.call (.write address data deadline)).2.transport) ∧
    (∀ address length deadline,
      ReadOutcome address length system.transport
        (system.call (.read address length deadline)).1
        (system.call (.read address length deadline)).2.transport) ∧
    (∀ op, (∀ request, op ≠ .call request) →
      (system.step op).transport.server = system.transport.server) := by
  intro system
  have samePolicy : system.transport.server.policy = policy :=
    run_policy (System.new policy options) ops
  refine ⟨?_, system.call_read, fun op other => system.step_server other⟩
  intro address data deadline
  rw [← samePolicy]
  exact system.call_write address data deadline

end System

end Imlp
