import Imlp.Client.Metrics
import Imlp.System.Refinement

/-!
# The packet trace is a faithful log

`LoopbackTransport::exchange` records on five paths, before and after its faults act.
`Recorded` is what the records of an operation have to look like, given the request it sends
and the replies the client was handed: two records for each exchange, in order, with the bytes
of the one and of the other. `System.log` collects what is recorded over a whole run,
whatever `clear_trace` removes from sight in between.
-/

namespace Imlp
open MemoryServer Client LoopbackTransport

/-- The replies the client was handed, in order. -/
def replies (calls : List Call) : List TransportReply :=
  calls.filterMap fun
    | .exchange _ _ reply => some reply
    | _ => none

/-- The records of some exchanges of one request, with sequence numbers from `sequence` on. -/
inductive Recorded (request : List Byte) :
    BitVec 64 → List TransportReply → List TraceRecord → Prop
  | nil {sequence : BitVec 64} : Recorded request sequence [] []
  | exchange {sequence : BitVec 64} {reply : TransportReply} {later : List TransportReply}
      {records : List TraceRecord} (outcome : String)
      (empty : reply.bytes = [] ↔ reply.error = .timeout ∨ reply.error = .disconnected)
      (rest : Recorded request (sequence + 2#64) later records) :
      Recorded request sequence (reply :: later)
        ({ sequence := sequence
           direction := "client_to_server"
           outcome := "sent"
           bytes := request } ::
         { sequence := sequence + 1#64
           direction := "server_to_client"
           outcome := outcome
           bytes := reply.bytes } :: records)

theorem Recorded.length {request : List Byte} {sequence : BitVec 64}
    {handed : List TransportReply} {records : List TraceRecord}
    (recorded : Recorded request sequence handed records) :
    records.length = 2 * handed.length := by
  induction recorded with
  | nil => rfl
  | exchange _ _ _ ih =>
    rw [List.length_cons, List.length_cons, ih, List.length_cons]
    omega

/-- Records with consecutive sequence numbers from `first` on. -/
def Numbered (first : BitVec 64) (records : List TraceRecord) : Prop :=
  records.map TraceRecord.sequence =
    (List.range records.length).map fun i => first + BitVec.ofNat 64 i

theorem Numbered.append {first : BitVec 64} {front back : List TraceRecord}
    (numbered : Numbered first front)
    (later : Numbered (first + BitVec.ofNat 64 front.length) back) :
    Numbered first (front ++ back) := by
  rw [Numbered] at numbered later ⊢
  rw [List.map_append, numbered, later, List.length_append, List.range_add, List.map_append,
    List.map_map]
  congr 2
  funext i
  rw [Function.comp_apply, BitVec.ofNat_add, BitVec.add_assoc]

theorem numbered_pair {first : BitVec 64} {sent received : TraceRecord}
    (start : sent.sequence = first) (next : received.sequence = first + 1#64) :
    Numbered first [sent, received] := by
  simp [Numbered, List.range_succ, start, next]

theorem Recorded.numbered {request : List Byte} {sequence : BitVec 64}
    {handed : List TransportReply} {records : List TraceRecord}
    (recorded : Recorded request sequence handed records) : Numbered sequence records := by
  induction recorded with
  | nil => rfl
  | exchange _ _ _ ih => exact (numbered_pair rfl rfl).append ih

@[simp] theorem replies_append (front back : List Call) :
    replies (front ++ back) = replies front ++ replies back :=
  List.filterMap_append

@[simp] theorem replies_exchange (request : List Byte) (deadline : Int) (reply : TransportReply)
    (calls : List Call) :
    replies (.exchange request deadline reply :: calls) = reply :: replies calls := rfl

@[simp] theorem replies_close (calls : List Call) : replies (.close :: calls) = replies calls := rfl

theorem replies_length (calls : List Call) : (replies calls).length = exchangeCount calls := by
  induction calls with
  | nil => rfl
  | cons call calls ih =>
    cases call with
    | exchange request deadline reply =>
      rw [replies_exchange, List.length_cons, ih, exchangeCount_exchange]
    | connected | connect | close => exact ih

theorem Client.Opens.replies {σ : Type} {transport : ITransport σ} {client opened : Client}
    {state ready : σ} {opening : List Call}
    (opens : Opens transport client state opening opened ready) : replies opening = [] := by
  cases opens <;> rfl

/-- No fault leaves the client with an empty response. -/
theorem mutate_ne_nil {response : Frame} (valid : Encodable response)
    (fault : Option TransportFault) : mutate fault (wireBytes response) ≠ [] := by
  intro empty
  by_cases truncate : fault = some .truncateResponse
  · have length := wireBytes_length response
    rw [mutate, if_pos ⟨truncate, wireBytes_ne_nil response⟩] at empty
    have dropped := congrArg List.length empty
    rw [List.length_dropLast, List.length_nil] at dropped
    omega
  · -- an empty response would be reported as truncated, which only that fault can cause
    have found := congrArg DecodeResult.error (decode_mutate valid fault)
    have nothing : (decode []).error = .truncated := rfl
    rw [empty, nothing, if_neg truncate] at found
    split at found
    · cases found
    · split at found <;> cases found

/-- An exchange over a loopback transport that was just opened makes two records: the request,
and the bytes of the reply. -/
theorem exchange_recorded {client opened : Client} {transport ready after : LoopbackTransport}
    {opening : List Call} {request : Frame} {deadline : Int} {reply : TransportReply}
    (opens : Opens asTransport client transport opening opened ready)
    (valid : Encodable request) (positive : 0 < deadline)
    (sent : asTransport.exchange (wireBytes request) deadline ready = (reply, after)) :
    after.nextSequence = transport.nextSequence + 2#64 ∧
      (reply.bytes = [] ↔ reply.error = .timeout ∨ reply.error = .disconnected) ∧
      ∃ outcome, after.trace = transport.trace ++
        [{ sequence := transport.nextSequence
           direction := "client_to_server"
           outcome := "sent"
           bytes := wireBytes request },
         { sequence := transport.nextSequence + 1#64
           direction := "server_to_client"
           outcome := outcome
           bytes := reply.bytes }] := by
  have twice : transport.nextSequence + 1#64 + 1#64 = transport.nextSequence + 2#64 :=
    BitVec.add_assoc _ _ _
  rcases opened_exchange_cases opens valid positive sent with
    ⟨-, rfl, rfl⟩ | ⟨-, rfl, rfl⟩ | ⟨-, -, ok, bytes, rfl⟩
  · exact ⟨twice, iff_of_true rfl (.inl rfl), "timeout", List.append_assoc _ _ _⟩
  · exact ⟨twice, iff_of_true rfl (.inr rfl), "disconnected", List.append_assoc _ _ _⟩
  · have answered := mutate_ne_nil (answer_encodable transport.server request)
      transport.faults.head?
    rw [← bytes] at answered
    exact ⟨twice, iff_of_false answered (by simp [ok]), _, List.append_assoc _ _ _⟩

/-- What some attempts of an operation did to the trace and to the sequence counter. -/
def Extends (request : List Byte) (handed : List TransportReply)
    (before after : LoopbackTransport) : Prop :=
  ∃ records, after.trace = before.trace ++ records ∧
    Recorded request before.nextSequence handed records ∧
    after.nextSequence = before.nextSequence + BitVec.ofNat 64 records.length

theorem extends_refl (request : List Byte) (transport : LoopbackTransport) :
    Extends request [] transport transport :=
  ⟨[], (List.append_nil _).symm, .nil, (BitVec.add_zero _).symm⟩

/-- The records of one exchange come before those of the later attempts. -/
theorem extends_exchange {client opened : Client}
    {transport ready after closed last : LoopbackTransport} {opening : List Call} {request : Frame}
    {deadline : Int} {reply : TransportReply} {later : List TransportReply}
    (opens : Opens asTransport client transport opening opened ready)
    (valid : Encodable request) (positive : 0 < deadline)
    (sent : asTransport.exchange (wireBytes request) deadline ready = (reply, after))
    (trace : closed.trace = after.trace) (sequence : closed.nextSequence = after.nextSequence)
    (rest : Extends (wireBytes request) later closed last) :
    Extends (wireBytes request) (reply :: later) transport last := by
  obtain ⟨advanced, empty, outcome, exchanged⟩ := exchange_recorded opens valid positive sent
  obtain ⟨records, recorded, faithful, next⟩ := rest
  rw [sequence, advanced] at faithful next
  refine ⟨_, ?_, .exchange outcome empty faithful, ?_⟩
  · rw [recorded, trace, exchanged, List.append_assoc]
    rfl
  · rw [next, List.length_cons, List.length_cons, Nat.add_assoc, Nat.add_comm, BitVec.ofNat_add,
      ← BitVec.add_assoc]

theorem Client.Run.extends {plan : Plan} (valid : Encodable plan.request)
    (positive : 0 < plan.deadline) {attempt : Nat} {client final : Client}
    {before after : LoopbackTransport} {calls : List Call} {result : OperationResult}
    (run : Run asTransport plan attempt client before calls result final after) :
    Extends (wireBytes plan.request) (replies calls) before after := by
  induction run with
  | unreachable _ failed => cases (Prod.mk.inj failed).1
  | answered opens sent =>
    rw [replies_append, opens.replies, List.nil_append, replies_exchange]
    exact extends_exchange opens valid positive sent rfl rfl (extends_refl _ _)
  | @failed _ _ _ _ _ after _ _ opens sent =>
    rw [replies_append, opens.replies, List.nil_append, replies_exchange, replies_close]
    exact extends_exchange opens valid positive sent rfl rfl
      (extends_refl _ (asTransport.close after))
  | retried opens sent _ _ _ ih =>
    rw [replies_append, opens.replies, List.nil_append, replies_exchange, replies_close]
    exact extends_exchange opens valid positive sent rfl rfl ih

/-- The loopback transport never refuses to connect. -/
theorem Client.Run.error_ne_connectFailed {plan : Plan} {attempt : Nat} {client final : Client}
    {before after : LoopbackTransport} {calls : List Call} {result : OperationResult}
    (run : Run asTransport plan attempt client before calls result final after) :
    result.error ≠ .connectFailed := by
  induction run with
  | unreachable _ failed => cases (Prod.mk.inj failed).1
  | answered => exact (validateResponse_verdict _ _ _ _ _ _).error_ne_connectFailed
  | failed => exact failureOf_ne_connectFailed _
  | retried _ _ _ _ _ ih => exact ih

namespace System

/-- The calls the client makes for an operation. -/
def calls (system : System) (op : ClientOp) : List Call :=
  system.client.calls asTransport system.transport op

/-- The records a step adds to the trace; `clear_trace` only removes. -/
def appended (system : System) : SystemOp → List TraceRecord
  | .clearTrace => []
  | op => (system.step op).transport.trace.drop system.transport.trace.length

/-- The records of an operation are faithful. It makes as many exchanges as it reports
attempts, and the trace grows by two records for each of them, which hold the encoding of the
request under the identifier of the operation, and the bytes of the reply. -/
structure FaithfulCall (system : System) (op : ClientOp) : Prop where
  extends_trace : (system.call op).2.transport.trace =
    system.transport.trace ++ system.appended (.call op)
  exchanges : (replies (system.calls op)).length = (system.call op).1.attempts
  appended_length : (system.appended (.call op)).length = 2 * (system.call op).1.attempts
  recorded : Recorded (encode (op.request (system.call op).1.requestId)).bytes
    system.transport.nextSequence (replies (system.calls op)) (system.appended (.call op))
  encoded : (system.call op).1.attempts ≠ 0 →
    (encode (op.request (system.call op).1.requestId)).toBool = true

/-- An operation extends the trace by the records of its exchanges, which are as many as it
reports attempts. -/
theorem call_extends (system : System) (op : ClientOp) :
    Extends (encode (op.request (system.call op).1.requestId)).bytes
        (replies (system.calls op)) system.transport (system.call op).2.transport ∧
      exchangeCount (system.calls op) = (system.call op).1.attempts ∧
      ((system.call op).1.attempts ≠ 0 → op.Valid) := by
  have id := perform_requestId asTransport system.client system.transport op
  have attempts := perform_attempts asTransport system.client system.transport op
  rw [call, calls, id]
  obtain ⟨-, none, performed⟩ | ⟨valid, result, final, last, run, performed⟩ :=
    perform_run asTransport system.client system.transport op
  · rw [none, performed]
    refine ⟨extends_refl _ _, ?_, ?_⟩
    · cases op <;> rfl
    · cases op <;> exact absurd rfl
  · rw [performed] at attempts ⊢
    rw [decide_eq_false run.error_ne_connectFailed] at attempts
    refine ⟨?_, attempts, fun _ => valid⟩
    have encodable := valid.encodable system.client.nextRequestId
    have extended := run.extends (by rwa [plan_request]) (valid.deadline_pos _ _)
    rw [plan_request] at extended
    rw [encode_eq_of_encodable encodable]
    exact extended

theorem call_faithful (system : System) (op : ClientOp) : system.FaithfulCall op := by
  obtain ⟨⟨records, trace, recorded, -⟩, exchanges, valid⟩ := system.call_extends op
  have added : system.appended (.call op) = records :=
    (congrArg (List.drop system.transport.trace.length) trace).trans List.drop_left
  have handed : (replies (system.calls op)).length = (system.call op).1.attempts := by
    rw [replies_length, exchanges]
  refine ⟨?_, handed, ?_, ?_, ?_⟩
  · rw [added, trace]
  · rw [added, recorded.length, handed]
  · rw [added]
    exact recorded
  · intro attempted
    have encoded := encode_eq_of_encodable
      ((valid attempted).encodable (system.call op).1.requestId)
    rw [encoded]
    rfl

/-! ## Runs of the whole system -/

/-- A step that leaves the trace alone records nothing. -/
theorem appended_eq_nil (system : System) {op : SystemOp}
    (same : (system.step op).transport.trace = system.transport.trace) :
    system.appended op = [] := by
  unfold appended
  split
  · rfl
  · rw [same, List.drop_length]

/-- Everything recorded in a run, in order. -/
def log : System → List SystemOp → List TraceRecord
  | _, [] => []
  | system, op :: ops => system.appended op ++ log (system.step op) ops

/-- The result a step returns. -/
def returned (system : System) : SystemOp → List OperationResult
  | .call op => [(system.call op).1]
  | _ => []

/-- The results returned in a run, in order. -/
def results : System → List SystemOp → List OperationResult
  | _, [] => []
  | system, op :: ops => system.returned op ++ results (system.step op) ops

/-- The attempts that some results report. -/
def attempts (results : List OperationResult) : Nat :=
  (results.map OperationResult.attempts).sum

/-- What was recorded between two states matches the results returned between them: two records
for each attempt, numbered on from the sequence counter, and counted by it and by the client. -/
structure Tallied (before : System) (records : List TraceRecord)
    (results : List OperationResult) (after : System) : Prop where
  length : records.length = 2 * attempts results
  numbered : Numbered before.transport.nextSequence records
  nextSequence : after.transport.nextSequence =
    before.transport.nextSequence + BitVec.ofNat 64 records.length
  counted : after.client.metrics.transportAttempts =
    before.client.metrics.transportAttempts + BitVec.ofNat 64 (attempts results)

/-- Nothing recorded and nothing returned. -/
theorem Tallied.of_quiet {before after : System}
    (nextSequence : after.transport.nextSequence = before.transport.nextSequence)
    (client : after.client = before.client) : Tallied before [] [] after where
  length := rfl
  numbered := rfl
  nextSequence := nextSequence.trans (BitVec.add_zero _).symm
  counted := by
    rw [client]
    exact (BitVec.add_zero _).symm

theorem Tallied.trans {first second third : System} {front back : List TraceRecord}
    {earlier later : List OperationResult} (tallied : Tallied first front earlier second)
    (rest : Tallied second back later third) :
    Tallied first (front ++ back) (earlier ++ later) third := by
  have sum : attempts (earlier ++ later) = attempts earlier + attempts later := by
    rw [attempts, List.map_append, List.sum_append]
    rfl
  refine ⟨?_, tallied.numbered.append ?_, ?_, ?_⟩
  · rw [List.length_append, tallied.length, rest.length, sum, Nat.mul_add]
  · rw [← tallied.nextSequence]
    exact rest.numbered
  · rw [rest.nextSequence, tallied.nextSequence, List.length_append, BitVec.ofNat_add,
      BitVec.add_assoc]
  · rw [rest.counted, tallied.counted, sum, BitVec.ofNat_add, BitVec.add_assoc]

/-- An operation of the client counts its exchanges. -/
theorem call_transportAttempts (system : System) (op : ClientOp) :
    (system.call op).2.client.metrics.transportAttempts =
      system.client.metrics.transportAttempts + BitVec.ofNat 64 (system.call op).1.attempts := by
  have metrics := perform_metrics asTransport system.client system.transport op
  obtain ⟨-, exchanges, -⟩ := system.call_extends op
  rw [← exchanges]
  exact congrArg ClientMetrics.transportAttempts metrics

theorem step_tallied (system : System) (op : SystemOp) :
    Tallied system (system.appended op) (system.returned op) (system.step op) := by
  cases op with
  | call op =>
    have faithful := system.call_faithful op
    obtain ⟨⟨records, trace, -, next⟩, -⟩ := system.call_extends op
    have added : system.appended (.call op) = records :=
      List.append_cancel_left (faithful.extends_trace.symm.trans trace)
    have returns : attempts (system.returned (.call op)) = (system.call op).1.attempts :=
      Nat.add_zero _
    refine ⟨?_, faithful.recorded.numbered, ?_, ?_⟩
    · rw [returns, faithful.appended_length]
    · rw [added]
      exact next
    · rw [returns]
      exact system.call_transportAttempts op
  | pushFault | connect | close =>
    rw [system.appended_eq_nil rfl]
    exact .of_quiet rfl rfl
  | clearTrace => exact .of_quiet rfl rfl

theorem run_append (system : System) (front back : List SystemOp) :
    system.run (front ++ back) = (system.run front).run back :=
  List.foldl_append

theorem log_append (system : System) (front back : List SystemOp) :
    system.log (front ++ back) = system.log front ++ (system.run front).log back := by
  induction front generalizing system with
  | nil => rfl
  | cons op front ih =>
    rw [List.cons_append, log, ih, log, List.append_assoc]
    rfl

theorem run_cons (system : System) (op : SystemOp) (ops : List SystemOp) :
    system.run (op :: ops) = (system.step op).run ops := rfl

theorem run_tallied (system : System) (ops : List SystemOp) :
    Tallied system (system.log ops) (system.results ops) (system.run ops) := by
  induction ops generalizing system with
  | nil => exact .of_quiet rfl rfl
  | cons op ops ih => exact (system.step_tallied op).trans (ih (system.step op))

/-- Only `clear_trace` takes records away. -/
theorem step_trace (system : System) {op : SystemOp} (keeps : op ≠ .clearTrace) :
    (system.step op).transport.trace = system.transport.trace ++ system.appended op := by
  cases op with
  | call op => exact (system.call_faithful op).extends_trace
  | pushFault | connect | close =>
    rw [system.appended_eq_nil rfl, List.append_nil]
    rfl
  | clearTrace => exact absurd rfl keeps

theorem run_trace (system : System) {ops : List SystemOp} (keeps : .clearTrace ∉ ops) :
    (system.run ops).transport.trace = system.transport.trace ++ system.log ops := by
  induction ops generalizing system with
  | nil => exact (List.append_nil _).symm
  | cons op ops ih =>
    have first : op ≠ .clearTrace := fun same => keeps (by rw [same]; exact List.mem_cons_self)
    have others : .clearTrace ∉ ops := fun member => keeps (List.mem_cons_of_mem op member)
    rw [run_cons, ih (system.step op) others, system.step_trace first, log, List.append_assoc]

/-- What is visible is what was recorded since the last `clear_trace`. -/
theorem run_trace_cleared (system : System) (before : List SystemOp) {after : List SystemOp}
    (keeps : .clearTrace ∉ after) :
    system.log (before ++ .clearTrace :: after) =
      system.log before ++ (system.run (before ++ .clearTrace :: after)).transport.trace := by
  rw [log_append, run_append, run_cons, run_trace _ keeps]
  rfl

/-- The packet trace is a faithful log, over every run of a fresh system. Whatever operation
comes next, its records are those of its exchanges. Everything ever recorded is numbered
`1, 2, 3, ...` as `std::uint64_t` counts, two records for each attempt, and the visible trace
is what was recorded since the last `clear_trace`. -/
theorem trace_is_faithful (policy : ServerPolicy) (options : ClientOptions)
    (ops : List SystemOp) :
    let start := System.new policy options
    let system := start.run ops
    (∀ op, system.FaithfulCall op) ∧
    (start.log ops).map TraceRecord.sequence =
      (List.range (start.log ops).length).map (fun i => BitVec.ofNat 64 (i + 1)) ∧
    (start.log ops).length = 2 * attempts (start.results ops) ∧
    system.client.metrics.transportAttempts = BitVec.ofNat 64 (attempts (start.results ops)) ∧
    (.clearTrace ∉ ops → system.transport.trace = start.log ops) ∧
    (∀ before after, ops = before ++ .clearTrace :: after → .clearTrace ∉ after →
      start.log ops = start.log before ++ system.transport.trace) := by
  intro start system
  have tallied := start.run_tallied ops
  refine ⟨system.call_faithful, ?_, tallied.length, ?_, start.run_trace, ?_⟩
  · have one : (fun i => 1#64 + BitVec.ofNat 64 i) = fun i => BitVec.ofNat 64 (i + 1) := by
      funext i
      rw [BitVec.ofNat_add, BitVec.add_comm]
    rw [← one]
    exact tallied.numbered
  · exact tallied.counted.trans (BitVec.zero_add _)
  · rintro before after rfl keeps
    exact start.run_trace_cleared before keeps

end System

end Imlp
