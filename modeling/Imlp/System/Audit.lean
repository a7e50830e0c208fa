import Imlp.Server.History
import Imlp.System.Trace

/-!
# The trace as an audit log

The trace holds what went over the wire, after the faults had their way with it. It still
tells everything about the server: an exchange was lost before the server saw it exactly when
its outcome says so, and a write was applied exactly when its outcome is `write_ok`, whatever
the client was told. `replayTrace` runs a server along a trace, and `loggedWrites` collects
the writes in it.
-/

namespace Imlp
open MemoryServer Client LoopbackTransport IntervalStore

/-- The outcomes of exchanges that the server never saw. -/
def lostOutcome (outcome : String) : Bool :=
  outcome = "timeout" || outcome = "disconnected" || outcome = "deadline_expired"

/-- The server after the requests of a trace that reached it. -/
def replayTrace : MemoryServer → List TraceRecord → MemoryServer
  | server, sent :: received :: records =>
    if lostOutcome received.outcome then replayTrace server records
    else replayTrace (server.handle sent.bytes).2 records
  | server, _ => server

/-- The write of an exchange whose outcome is `write_ok`. -/
def loggedWrite (sent received : TraceRecord) : List (Nat × List Byte) :=
  match (decode sent.bytes).frame with
  | some request =>
    if received.outcome = "write_ok" then [(request.address.toNat, request.payload)] else []
  | none => []

/-- The writes that a trace reports as applied, the first one first. -/
def loggedWrites : List TraceRecord → List (Nat × List Byte)
  | sent :: received :: records => loggedWrite sent received ++ loggedWrites records
  | _ => []

/-- The records of some exchanges, with the server before and after them. -/
inductive Audited : MemoryServer → List TraceRecord → MemoryServer → Prop
  | nil {server : MemoryServer} : Audited server [] server
  | lost {server final : MemoryServer} {sent received : TraceRecord}
      {records : List TraceRecord}
      (outcome : received.outcome = "timeout" ∨ received.outcome = "disconnected")
      (rest : Audited server records final) : Audited server (sent :: received :: records) final
  | answered {server final : MemoryServer} {sent received : TraceRecord}
      {records : List TraceRecord} (request : Frame) (bytes : sent.bytes = wireBytes request)
      (valid : Encodable request) (outcome : received.outcome = (server.answer request).detail)
      (rest : Audited (server.after request) records final) :
      Audited server (sent :: received :: records) final

theorem Audited.trans {first second third : MemoryServer} {front back : List TraceRecord}
    (audited : Audited first front second) (later : Audited second back third) :
    Audited first (front ++ back) third := by
  induction audited with
  | nil => exact later
  | lost outcome _ ih => exact .lost outcome (ih later)
  | answered request bytes valid outcome _ ih =>
    exact .answered request bytes valid outcome (ih later)

/-- The event texts of the server. -/
theorem answer_detail_mem (server : MemoryServer) (request : Frame) :
    (server.answer request).detail ∈
      ["read_ok", "read_rejected", "write_ok", "write_disabled", "outside_write_allowlist",
        "memory_write_rejected", "request_opcode_required"] := by
  unfold answer answerRead answerWrite
  repeat' split
  all_goals simp [Answer.refuse]

theorem answer_not_lost (server : MemoryServer) (request : Frame) :
    lostOutcome (server.answer request).detail = false := by
  have named := answer_detail_mem server request
  generalize (server.answer request).detail = detail at named ⊢
  simp only [List.mem_cons, List.not_mem_nil, or_false] at named
  rcases named with rfl | rfl | rfl | rfl | rfl | rfl | rfl <;> decide

/-- A trace determines the server. -/
theorem Audited.replayTrace_eq {server final : MemoryServer} {records : List TraceRecord}
    (audited : Audited server records final) : replayTrace server records = final := by
  induction audited with
  | nil => rfl
  | @lost _ _ _ received _ outcome _ ih =>
    have lost : lostOutcome received.outcome = true := by
      rcases outcome with outcome | outcome <;> rw [outcome] <;> rfl
    rw [replayTrace, if_pos lost]
    exact ih
  | @answered server _ _ _ _ request bytes valid outcome _ ih =>
    have decoded := (decode_ok_iff (wireBytes request) request).mpr ⟨valid, rfl⟩
    rw [replayTrace, outcome, answer_not_lost, bytes, handle_of_decoded server decoded]
    exact ih

/-- The event text of an applied write is `write_ok`, and no other event has it. -/
theorem answer_write_ok (server : MemoryServer) (request : Frame) :
    (server.answer request).detail = "write_ok" ↔ request.opcode = .writeRequest ∧
      WriteAuthorised server.policy request.address.toNat request.payload.length := by
  have known := answer_case server request
  generalize server.answer request = answer at known ⊢
  cases known with
  | refuse _ named refused =>
    constructor
    · exact fun applied => absurd applied named.2
    · exact fun authorised => absurd authorised refused
  | data opcode =>
    constructor
    · have read : ("read_ok" : String) ≠ "write_ok" := by decide
      exact fun applied => absurd applied read
    · rintro ⟨write, -⟩
      cases opcode.symm.trans write
  | acknowledge opcode authorised => exact ⟨fun _ => ⟨opcode, authorised⟩, fun _ => rfl⟩

/-- A trace determines the contents of the memory: what was there before, overwritten by the
writes it reports as applied. -/
theorem Audited.memory {server final : MemoryServer} {records : List TraceRecord}
    (audited : Audited server records final) :
    final.policy = server.policy ∧
      final.memory.byte = replay server.memory.byte (loggedWrites records) ∧
      ∀ write ∈ loggedWrites records, WriteAuthorised server.policy write.1 write.2.length := by
  induction audited with
  | nil => exact ⟨rfl, rfl, nofun⟩
  | @lost _ _ sent received _ outcome _ ih =>
    have other : received.outcome ≠ "write_ok" := by
      rcases outcome with outcome | outcome <;> rw [outcome] <;> decide
    have nothing : loggedWrite sent received = [] := by
      unfold loggedWrite
      split
      · exact if_neg other
      · rfl
    rw [loggedWrites, nothing, List.nil_append]
    exact ih
  | @answered server _ sent received records request bytes valid outcome _ ih =>
    have decoded := (decode_ok_iff (wireBytes request) request).mpr ⟨valid, rfl⟩
    have logged : loggedWrite sent received =
        if request.opcode = .writeRequest ∧
            WriteAuthorised server.policy request.address.toNat request.payload.length then
          [(request.address.toNat, request.payload)]
        else [] := by
      rw [loggedWrite, bytes, decoded, outcome]
      exact if_congr (answer_write_ok server request) rfl rfl
    rw [after_policy] at ih
    by_cases applied : request.opcode = .writeRequest ∧
        WriteAuthorised server.policy request.address.toNat request.payload.length
    · obtain ⟨samePolicy, memory, authorised⟩ := ih
      have fits : request.address.toNat + request.payload.length ≤ 4096 := by
        have := applied.2.2.2.2
        omega
      rw [loggedWrites, logged, if_pos applied]
      refine ⟨samePolicy, ?_, ?_⟩
      · rw [memory, after_of_authorised server applied.1 applied.2,
          MemoryMap.byte_copy server.memory fits]
        rfl
      · intro write member
        rw [List.singleton_append, List.mem_cons] at member
        rcases member with rfl | later
        · exact applied.2
        · exact authorised write later
    · have unchanged : server.after request = server := if_neg applied
      rw [loggedWrites, logged, if_neg applied, List.nil_append]
      rwa [unchanged] at ih

/-- What some attempts of an operation left in the trace accounts for the server. -/
def Explains (before after : LoopbackTransport) : Prop :=
  ∃ records, after.trace = before.trace ++ records ∧ Audited before.server records after.server

theorem explains_refl (transport : LoopbackTransport) : Explains transport transport :=
  ⟨[], (List.append_nil _).symm, .nil⟩

/-- The records of one exchange come before those of the later attempts. -/
theorem explains_exchange {client opened : Client}
    {transport ready after closed last : LoopbackTransport} {opening : List Call} {request : Frame}
    {deadline : Int} {reply : TransportReply}
    (opens : Opens asTransport client transport opening opened ready)
    (valid : Encodable request) (positive : 0 < deadline)
    (sent : asTransport.exchange (wireBytes request) deadline ready = (reply, after))
    (same : closed.trace = after.trace ∧ closed.server = after.server)
    (rest : Explains closed last) : Explains transport last := by
  obtain ⟨records, recorded, audited⟩ := rest
  rw [same.2] at audited
  rw [same.1] at recorded
  rcases opened_exchange_cases opens valid positive sent with
    ⟨-, rfl, rfl⟩ | ⟨-, rfl, rfl⟩ | ⟨-, -, ok, bytes, rfl⟩
  · refine ⟨exchangeRecords transport.nextSequence (wireBytes request) "timeout" [] ++ records, ?_,
      .lost (.inl rfl) audited⟩
    rw [recorded, traced_trace_eq, List.append_assoc]
  · refine ⟨exchangeRecords transport.nextSequence (wireBytes request) "disconnected" [] ++
      records, ?_, .lost (.inr rfl) audited⟩
    rw [recorded, traced_trace_eq, List.append_assoc]
  · refine ⟨exchangeRecords transport.nextSequence (wireBytes request)
        (transport.server.answer request).detail reply.bytes ++ records, ?_,
      .answered request rfl valid rfl audited⟩
    rw [recorded, traced_trace_eq, List.append_assoc]

/-- A rule for what the attempts of an operation do to the loopback transport: it is enough to
add one exchange at a time in front of the later ones, whether or not it ends with a close. -/
theorem Client.Run.along {plan : Plan} {holds : LoopbackTransport → LoopbackTransport → Prop}
    (refl : ∀ transport, holds transport transport)
    (exchange : ∀ {client opened : Client}
      {transport ready after closed last : LoopbackTransport} {opening : List Call}
      {reply : TransportReply}, Opens asTransport client transport opening opened ready →
      asTransport.exchange (wireBytes plan.request) plan.deadline ready = (reply, after) →
      closed.trace = after.trace ∧ closed.server = after.server →
      holds closed last → holds transport last)
    {attempt : Nat} {client final : Client} {before after : LoopbackTransport} {calls : List Call}
    {result : OperationResult}
    (run : Run asTransport plan attempt client before calls result final after) :
    holds before after := by
  have closing : ∀ transport : LoopbackTransport,
      (asTransport.close transport).trace = transport.trace ∧
        (asTransport.close transport).server = transport.server := fun _ => ⟨rfl, rfl⟩
  induction run with
  | unreachable _ failed => cases (Prod.mk.inj failed).1
  | answered opens sent => exact exchange opens sent ⟨rfl, rfl⟩ (refl _)
  | failed opens sent => exact exchange opens sent (closing _) (refl _)
  | retried opens sent _ _ _ ih => exact exchange opens sent (closing _) ih

theorem Client.Run.explains {plan : Plan} (valid : Encodable plan.request)
    (positive : 0 < plan.deadline) {attempt : Nat} {client final : Client}
    {before after : LoopbackTransport} {calls : List Call} {result : OperationResult}
    (run : Run asTransport plan attempt client before calls result final after) :
    Explains before after :=
  run.along explains_refl fun opens sent => explains_exchange opens valid positive sent

namespace System

/-- The records that a step adds account for the server. -/
theorem step_audited (system : System) (op : SystemOp) :
    Audited system.transport.server (system.appended op) (system.step op).transport.server := by
  cases op with
  | call op =>
    have explains : Explains system.transport (system.call op).2.transport := by
      rw [call]
      obtain ⟨-, -, performed⟩ | ⟨valid, result, final, last, run, performed⟩ :=
        perform_run asTransport system.client system.transport op
      · rw [performed]
        exact explains_refl _
      · rw [performed]
        exact run.explains (by rw [plan_request]; exact valid.encodable _)
          (valid.deadline_pos _ _)
    obtain ⟨records, trace, audited⟩ := explains
    have added : system.appended (.call op) = records :=
      (congrArg (List.drop system.transport.trace.length) trace).trans List.drop_left
    rw [added]
    exact audited
  | pushFault | connect | close =>
    rw [system.appended_eq_nil rfl]
    exact .nil
  | clearTrace => exact .nil

theorem run_audited (system : System) (ops : List SystemOp) :
    Audited system.transport.server (system.log ops) (system.run ops).transport.server := by
  induction ops generalizing system with
  | nil => exact .nil
  | cons op ops ih => exact (system.step_audited op).trans (ih (system.step op))

/-- The trace is a complete audit log. After every run of a fresh system, under any faults and
whatever the client was told, replaying the recorded requests gives the server's exact state,
and its memory is the constructor's overwritten by the recorded writes with outcome `write_ok`,
all of them authorised. Nothing else ever changed the server. -/
theorem trace_accounts_for_server (policy : ServerPolicy) (options : ClientOptions)
    (ops : List SystemOp) :
    let start := System.new policy options
    let server := (start.run ops).transport.server
    replayTrace (MemoryServer.new policy) (start.log ops) = server ∧
    server.memory.byte = replay MemoryMap.initial.byte (loggedWrites (start.log ops)) ∧
    (∀ write ∈ loggedWrites (start.log ops), WriteAuthorised policy write.1 write.2.length) ∧
    (.clearTrace ∉ ops →
      replayTrace (MemoryServer.new policy) (start.run ops).transport.trace = server) := by
  intro start server
  have audited := start.run_audited ops
  obtain ⟨-, memory, authorised⟩ := audited.memory
  refine ⟨audited.replayTrace_eq, memory, authorised, ?_⟩
  intro kept
  have visible := start.run_trace kept
  rw [visible]
  exact audited.replayTrace_eq

end System

end Imlp
