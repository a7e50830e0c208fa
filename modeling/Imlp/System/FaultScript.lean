import Imlp.Client.Metrics
import Imlp.System.Refinement

/-!
# Reads under a fault script

What a read over the loopback transport reports, for every queue of faults. The faults that
lose exchanges at the front of the queue are consumed one attempt at a time, each by one
round of the retry loop; the first fault of another kind, or the end of the queue, lets the
server answer. `Client.Run.scripted` follows the loop along the queue, and `decode_mutate`
says what is left of the answer.
-/

namespace Imlp
open MemoryServer Client LoopbackTransport

/-- Whether a fault loses the exchange before the server sees it. -/
def TransportFault.loses : TransportFault → Bool
  | .timeout => true
  | .disconnect => true
  | _ => false

/-- How many exchanges in a row the queue is about to lose. -/
def LoopbackTransport.losses (transport : LoopbackTransport) : Nat :=
  (transport.faults.takeWhile TransportFault.loses).length

/-- The transport error of a lost exchange. -/
def TransportFault.transportError (fault : TransportFault) : TransportError :=
  if fault = .timeout then .timeout else .disconnected

theorem failureOf_transportError (fault : TransportFault) :
    failureOf fault.transportError =
      if some fault = some .timeout then .timeout else .disconnected := by
  cases fault <;> rfl

theorem losses_cons {transport : LoopbackTransport} {fault : TransportFault}
    {faults : List TransportFault} (queue : transport.faults = fault :: faults)
    (loses : fault.loses = true) {later : LoopbackTransport} (rest : later.faults = faults) :
    transport.losses = later.losses + 1 := by
  rw [losses, losses, queue, rest, List.takeWhile_cons_of_pos loses, List.length_cons]

theorem losses_eq_zero {transport : LoopbackTransport}
    (timeout : transport.faults.head? ≠ some .timeout)
    (disconnect : transport.faults.head? ≠ some .disconnect) : transport.losses = 0 := by
  unfold losses
  cases queue : transport.faults with
  | nil => rfl
  | cons fault faults =>
    have kept : ¬ fault.loses = true := by
      rw [queue, List.head?_cons] at timeout disconnect
      cases fault with
      | timeout => exact absurd rfl timeout
      | disconnect => exact absurd rfl disconnect
      | truncateResponse | corruptResponse | wrongRequestId => exact Bool.false_ne_true
    rw [List.takeWhile_cons_of_neg kept, List.length_nil]

/-- One exchange takes the first fault off the queue: it is lost, or it is answered and the
fault acts on the answer. -/
theorem exchange_takes_fault {client opened : Client} {transport ready after : LoopbackTransport}
    {opening : List Call} {request : Frame} {deadline : Int} {reply : TransportReply}
    (opens : Opens asTransport client transport opening opened ready)
    (valid : Encodable request) (positive : 0 < deadline)
    (sent : asTransport.exchange (wireBytes request) deadline ready = (reply, after)) :
    (∃ fault faults, transport.faults = fault :: faults ∧ fault.loses = true ∧
      reply.error = fault.transportError ∧ after.faults = faults ∧
      after.server = transport.server) ∨
    (transport.losses = 0 ∧ reply.error = .none ∧
      reply.bytes = mutate transport.faults.head?
        (wireBytes (responseFrame request (transport.server.answer request))) ∧
      after.faults = transport.faults.tail ∧ after.isConnected = true) := by
  rcases opened_exchange_cases opens valid positive sent with
    ⟨head, rfl, rfl⟩ | ⟨head, rfl, rfl⟩ | ⟨timeout, disconnect, ok, bytes, rfl⟩
  · obtain ⟨faults, queue⟩ := List.head?_eq_some_iff.mp head
    exact .inl ⟨.timeout, faults, queue, rfl, rfl, congrArg List.tail queue, rfl⟩
  · obtain ⟨faults, queue⟩ := List.head?_eq_some_iff.mp head
    exact .inl ⟨.disconnect, faults, queue, rfl, rfl, congrArg List.tail queue, rfl⟩
  · exact .inr ⟨losses_eq_zero timeout disconnect, ok, bytes, rfl, rfl⟩

/-- The end of a read that may make `more` attempts after the current one. -/
inductive Scripted (plan : Plan) (attempt more : Nat) (before : LoopbackTransport)
    (result : OperationResult) (after : LoopbackTransport) : Prop
  | exhausted (lost : more < before.losses) (attempts : result.attempts = attempt + more)
      (faults : after.faults = before.faults.drop (more + 1))
      (closed : after.isConnected = false)
      (error : result.error =
        if before.faults[more]? = some .timeout then .timeout else .disconnected)
  | answered (reached : before.losses ≤ more)
      (faults : after.faults = before.faults.drop (before.losses + 1))
      (connected : after.isConnected = true)
      (verdict : Verdict plan.request
        (mutate before.faults[before.losses]?
          (wireBytes (responseFrame plan.request (before.server.answer plan.request))))
        plan.expectedOpcode plan.expectedLength (attempt + before.losses) result)

/-- The attempts of an operation follow the fault queue. -/
theorem Client.Run.scripted {plan : Plan} (valid : Encodable plan.request)
    (positive : 0 < plan.deadline) {attempt : Nat} {client final : Client}
    {before after : LoopbackTransport} {calls : List Call} {result : OperationResult}
    (run : Run asTransport plan attempt client before calls result final after)
    {more : Nat} (within : attempt + more = plan.bound) :
    Scripted plan attempt more before result after := by
  induction run generalizing more with
  | unreachable _ failed => cases (Prod.mk.inj failed).1
  | @answered attempt _ opened before _ _ _ reply opens sent ok =>
    rcases exchange_takes_fault opens valid positive sent with
      ⟨fault, faults, -, -, error, -⟩ | ⟨none, -, bytes, faults, connected⟩
    · rw [ok, TransportFault.transportError] at error
      split at error <;> cases error
    · refine .answered (by omega) ?_ connected ?_
      · rw [faults, none, Nat.zero_add, List.drop_one]
      · rw [none, ← List.head?_eq_getElem?, ← bytes]
        exact validateResponse_verdict _ _ _ _ _ _
  | @failed attempt _ _ before _ after _ reply opens sent fails last =>
    rcases exchange_takes_fault opens valid positive sent with
      ⟨fault, faults, queue, loses, error, rest, -⟩ | ⟨-, ok, -⟩
    · obtain rfl : more = 0 := by omega
      refine .exhausted ?_ rfl ?_ rfl ?_
      · rw [losses_cons queue loses rest]
        omega
      · rw [queue, Nat.zero_add, List.drop_one]
        exact rest
      · rw [queue, error, List.getElem?_cons_zero, failureOf_transportError]
    · exact absurd ok fails
  | @retried attempt _ _ _ before _ after _ _ _ reply _ opens sent fails _ _ ih =>
    rcases exchange_takes_fault opens valid positive sent with
      ⟨fault, faults, queue, loses, error, rest, server⟩ | ⟨-, ok, -⟩
    · obtain ⟨fewer, rfl⟩ : ∃ fewer, more = fewer + 1 := ⟨more - 1, by omega⟩
      have count : before.losses = (asTransport.close after).losses + 1 :=
        losses_cons queue loses rest
      have dropped : ∀ size, (asTransport.close after).faults.drop size =
          before.faults.drop (size + 1) := by
        intro size
        rw [queue, List.drop_succ_cons]
        exact congrArg (List.drop size) rest
      have looked : ∀ index, (asTransport.close after).faults[index]? =
          before.faults[index + 1]? := by
        intro index
        rw [queue, List.getElem?_cons_succ]
        exact congrArg (·[index]?) rest
      have sameServer : (asTransport.close after).server = before.server := server
      rcases ih (show attempt + 1 + fewer = plan.bound by omega) with
        ⟨lost, attempts, faults, closed, error⟩ | ⟨reached, faults, connected, verdict⟩
      · refine .exhausted (by omega) (by omega) (faults.trans (dropped _)) closed ?_
        rw [← looked]
        exact error
      · refine .answered (by omega) ?_ connected ?_
        · rw [count, ← dropped]
          exact faults
        · rw [count, ← looked, ← sameServer, show attempt + ((asTransport.close after).losses + 1) =
            attempt + 1 + (asTransport.close after).losses by omega]
          exact verdict
    · exact absurd ok fails

/-- The verdict on a reply does not depend on the number of the attempt. -/
theorem Client.Verdict.agree {request : Frame} {response : List Byte} {opcode : Opcode}
    {length first second : Nat} {left right : OperationResult}
    (verdict : Verdict request response opcode length first left)
    (other : Verdict request response opcode length second right) :
    left = { right with attempts := first } := by
  -- the reply decides the constructor, so the mixed cases contradict each other
  cases verdict <;> cases other <;> simp_all

/-- A reply that is no frame is reported with the codec's own error. -/
theorem Client.Verdict.malformed_detail {request : Frame} {response : List Byte} {opcode : Opcode}
    {length attempts : Nat} {result : OperationResult}
    (verdict : Verdict request response opcode length attempts result)
    (rejected : (decode response).frame = none) :
    result.error = .malformedResponse ∧
      result.detail = codecErrorName (decode response).error := by
  have error := verdict.of_rejected rejected
  have detail := verdict.detail_eq
  rw [error] at detail
  exact ⟨error, detail⟩

/-- A reply under another identifier is reported as not matching. -/
theorem Client.Verdict.mismatch_detail {request : Frame} {response : List Byte} {opcode : Opcode}
    {length attempts : Nat} {result : OperationResult}
    (verdict : Verdict request response opcode length attempts result) {frame : Frame}
    (decoded : (decode response).frame = some frame)
    (other : frame.requestId ≠ request.requestId) :
    result.error = .correlationMismatch ∧
      result.detail = "response request ID or address did not match" := by
  have error := verdict.of_other_id decoded other
  have detail := verdict.detail_eq
  rw [error] at detail
  exact ⟨error, detail⟩

/-- The fault behind the lost ones is of another kind. -/
theorem loses_eq_false {faults : List TransportFault} {fault : TransportFault}
    (next : faults[(faults.takeWhile TransportFault.loses).length]? = some fault) :
    fault.loses = false := by
  induction faults with
  | nil => cases next
  | cons first faults ih =>
    cases loses : first.loses with
    | true =>
      rw [List.takeWhile_cons_of_pos loses, List.length_cons, List.getElem?_cons_succ] at next
      exact ih next
    | false =>
      rw [List.takeWhile_cons_of_neg (by rw [loses]; exact Bool.false_ne_true), List.length_nil,
        List.getElem?_cons_zero] at next
      obtain rfl := Option.some.inj next
      exact loses

/-- What a read reports about its answer, by the fault that acted on it; `plain` is the
result of the same read without faults. -/
def Reported (fault : Option TransportFault) (result plain : OperationResult) : Prop :=
  match fault with
  | some .truncateResponse => result.error = .malformedResponse ∧ result.detail = "truncated"
  | some .corruptResponse =>
    result.error = .malformedResponse ∧ result.detail = "checksum_mismatch"
  | some .wrongRequestId =>
    result.error = .correlationMismatch ∧
      result.detail = "response request ID or address did not match"
  | some .timeout => False
  | some .disconnect => False
  | none => (result.error = .none ∨ result.error = .remoteError) ∧
    result.error = plain.error ∧ result.remoteStatus = plain.remoteStatus ∧
    result.requestId = plain.requestId ∧ result.data = plain.data

/-- An answer after its fault, compared with the answer itself. -/
theorem reported_of_verdict {server : MemoryServer} {requestId address : BitVec 32}
    {length : Nat} (small : length ≤ maximumPayloadSize) {fault : Option TransportFault}
    (reaches : ∀ kind, fault = some kind → kind.loses = false) {attempts first : Nat}
    {result plain : OperationResult}
    (verdict : Verdict (readRequest requestId address length)
      (mutate fault (wireBytes (responseFrame (readRequest requestId address length)
        (server.answer (readRequest requestId address length)))))
      .dataResponse length attempts result)
    (unharmed : Verdict (readRequest requestId address length)
      (mutate none (wireBytes (responseFrame (readRequest requestId address length)
        (server.answer (readRequest requestId address length)))))
      .dataResponse length first plain) :
    Reported fault result plain := by
  have valid := answer_encodable server (readRequest requestId address length)
  have found := decode_mutate valid fault
  cases fault with
  | none =>
    rw [if_neg nofun, if_neg nofun, if_neg nofun] at found
    have decoded := congrArg DecodeResult.frame found
    have same := verdict.agree unharmed
    refine ⟨?_, ?_⟩
    · exact (read_answer_verdict small verdict decoded).imp_left And.left
    rw [same]
    exact ⟨rfl, rfl, rfl, rfl⟩
  | some kind =>
    cases kind with
    | timeout => cases reaches .timeout rfl
    | disconnect => cases reaches .disconnect rfl
    | truncateResponse | corruptResponse =>
      obtain ⟨error, detail⟩ := verdict.malformed_detail (congrArg DecodeResult.frame found)
      rw [found] at detail
      exact ⟨error, detail⟩
    | wrongRequestId =>
      exact verdict.mismatch_detail (congrArg DecodeResult.frame found) (add_one_ne requestId)

/-- A read with valid arguments follows the fault queue. -/
theorem read_scripted (client : Client) (transport : LoopbackTransport) {address : BitVec 32}
    {length : Nat} {deadline : Int} (valid : (ClientOp.read address length deadline).Valid) :
    Scripted (plan client.nextRequestId client.options.maximumReadAttempts
        (.read address length deadline)) 1 (client.options.maximumReadAttempts - 1) transport
      (client.read asTransport transport address length deadline).1
      (client.read asTransport transport address length deadline).2.2 := by
  have attempts := client.attempts_pos
  obtain ⟨invalid, -⟩ | ⟨-, result, final, last, run, performed⟩ :=
    perform_run asTransport client transport (.read address length deadline)
  · exact absurd valid invalid
  · rw [perform] at performed
    rw [performed]
    refine run.scripted (readRequest_encodable _ _ _) valid.2.2 ?_
    exact Nat.add_sub_of_le attempts

/-- The exact outcome of a read under any fault script, with `bound` attempts allowed and
`losses` faults at the front of the queue that lose an exchange. -/
theorem read_under_fault_script (client : Client) (transport : LoopbackTransport)
    (address : BitVec 32) (length : Nat) (deadline : Int)
    (valid : (ClientOp.read address length deadline).Valid) :
    let bound := max 1 client.options.maximumReadAttempts
    let losses := (transport.faults.takeWhile TransportFault.loses).length
    let result := (client.read asTransport transport address length deadline).1
    let after := (client.read asTransport transport address length deadline).2.2
    let plain := (client.read asTransport { transport with faults := [] } address length
      deadline).1
    (bound ≤ losses →
      result.attempts = bound ∧ after.faults = transport.faults.drop bound ∧
        after.isConnected = false ∧
        result.error =
          if transport.faults[bound - 1]? = some .timeout then .timeout else .disconnected) ∧
    (losses < bound →
      result.attempts = losses + 1 ∧
        after.faults = transport.faults.drop (min (losses + 1) transport.faults.length) ∧
        after.isConnected = true ∧ Reported transport.faults[losses]? result plain) := by
  intro bound losses result after plain
  have clamped : bound = client.options.maximumReadAttempts := Nat.max_eq_right client.attempts_pos
  have positive : 1 ≤ bound := Nat.le_max_left _ _
  have scripted := read_scripted client transport valid
  have plainly := read_scripted client { transport with faults := [] } valid
  rw [← clamped] at scripted plainly
  constructor
  · intro exhausted
    cases scripted with
    | exhausted lost attempts faults closed error =>
      rw [Nat.sub_add_cancel positive] at faults
      exact ⟨attempts.trans (Nat.add_sub_of_le positive), faults, closed, error⟩
    | answered reached =>
      have reached : losses ≤ bound - 1 := reached
      omega
  · intro reaches
    cases scripted with
    | exhausted lost =>
      have lost : bound - 1 < losses := lost
      omega
    | answered reached faults connected verdict =>
      refine ⟨verdict.attempts_eq.trans (Nat.add_comm _ _), ?_, connected, ?_⟩
      · rw [faults]
        exact List.drop_eq_drop_min
      · cases plainly with
        | exhausted lost => cases lost
        | answered _ _ _ unharmed =>
          exact reported_of_verdict valid.2.1 (fun kind next => loses_eq_false next) verdict
            unharmed

/-- A read that loses its connection once and then finds a corrupted answer. -/
theorem read_under_fault_script_corrupted :
    let result := (Client.read asTransport (Client.new {})
      { LoopbackTransport.new (MemoryServer.new {}) with faults := [.disconnect, .corruptResponse] }
      0x40#32 1 50).1
    result.attempts = 2 ∧ result.error = .malformedResponse ∧
      result.detail = "checksum_mismatch" := by
  have outcome := (read_under_fault_script (Client.new {})
    { LoopbackTransport.new (MemoryServer.new {}) with faults := [.disconnect, .corruptResponse] }
    0x40#32 1 50 (by decide)).2 (by decide)
  exact ⟨outcome.1, outcome.2.2.2⟩

end Imlp
