import Imlp.System.Trace

/-!
# Steps nobody can observe

`connect`, `close` and `clear_trace` may be called on the transport at any time. They change
its connection flag and its trace, and nothing else depends on these two: the client connects
on its own when it has to, and no decision reads the trace. `Alike` relates systems that differ
in the trace, the connection flag and the client's counters only. Operations on alike systems
return the same results, record the same packets and leave alike systems.
-/

namespace Imlp
open MemoryServer Client LoopbackTransport

/-- Two transports with the same server, fault queue and sequence counter. -/
structure SameLink (left right : LoopbackTransport) : Prop where
  server : left.server = right.server
  faults : left.faults = right.faults
  nextSequence : left.nextSequence = right.nextSequence

/-- From two transports, the same packets were recorded and the same link was left. -/
def SameTraffic (left leftAfter right rightAfter : LoopbackTransport) : Prop :=
  SameLink leftAfter rightAfter ∧ ∃ records, leftAfter.trace = left.trace ++ records ∧
    rightAfter.trace = right.trace ++ records

theorem sameTraffic_refl {left right : LoopbackTransport} (same : SameLink left right) :
    SameTraffic left left right right :=
  ⟨same, [], (List.append_nil _).symm, (List.append_nil _).symm⟩

theorem SameTraffic.trans {left leftMiddle leftAfter right rightMiddle rightAfter :
    LoopbackTransport} (first : SameTraffic left leftMiddle right rightMiddle)
    (second : SameTraffic leftMiddle leftAfter rightMiddle rightAfter) :
    SameTraffic left leftAfter right rightAfter := by
  obtain ⟨-, front, leftFront, rightFront⟩ := first
  obtain ⟨same, back, leftBack, rightBack⟩ := second
  refine ⟨same, front ++ back, ?_, ?_⟩
  · rw [leftBack, leftFront, List.append_assoc]
  · rw [rightBack, rightFront, List.append_assoc]

/-- The records of an exchange depend on the link only. -/
theorem sameTraffic_traced {left right leftAfter rightAfter : LoopbackTransport}
    (same : SameLink left right) {request : List Byte} {outcome : String} {response : List Byte}
    (leftTrace : leftAfter.trace = (left.traced request outcome response).trace)
    (rightTrace : rightAfter.trace = (right.traced request outcome response).trace)
    (after : SameLink leftAfter rightAfter) : SameTraffic left leftAfter right rightAfter := by
  refine ⟨after, exchangeRecords left.nextSequence request outcome response, ?_, ?_⟩
  · rw [leftTrace, traced_trace_eq]
  · rw [rightTrace, traced_trace_eq, same.nextSequence]

section Exchange

variable {client client' opened opened' : Client}
  {left right ready ready' after after' : LoopbackTransport} {opening opening' : List Call}
  {request : Frame} {deadline : Int} {reply reply' : TransportReply}

/-- An exchange over two transports with the same link is answered alike. -/
theorem exchange_alike (same : SameLink left right)
    (opens : Opens asTransport client left opening opened ready)
    (opens' : Opens asTransport client' right opening' opened' ready')
    (valid : Encodable request) (positive : 0 < deadline)
    (sent : asTransport.exchange (wireBytes request) deadline ready = (reply, after))
    (sent' : asTransport.exchange (wireBytes request) deadline ready' = (reply', after')) :
    reply = reply' ∧ SameTraffic left after right after' := by
  have next : left.nextSequence + 1#64 + 1#64 = right.nextSequence + 1#64 + 1#64 := by
    rw [same.nextSequence]
  have other := opened_exchange_cases opens' valid positive sent'
  rw [← same.server, ← same.faults] at other
  rcases opened_exchange_cases opens valid positive sent with
    ⟨head, rfl, rfl⟩ | ⟨head, rfl, rfl⟩ | ⟨notTimeout, notDisconnect, ok, bytes, rfl⟩
  · rcases other with ⟨-, rfl, rfl⟩ | ⟨head', -⟩ | ⟨notTimeout', -⟩
    · exact ⟨rfl, sameTraffic_traced same rfl rfl ⟨same.server, rfl, next⟩⟩
    · cases head.symm.trans head'
    · exact absurd head notTimeout'
  · rcases other with ⟨head', -⟩ | ⟨-, rfl, rfl⟩ | ⟨-, notDisconnect', -⟩
    · cases head.symm.trans head'
    · exact ⟨rfl, sameTraffic_traced same rfl rfl ⟨same.server, rfl, next⟩⟩
    · exact absurd head notDisconnect'
  · rcases other with ⟨head', -⟩ | ⟨head', -⟩ | ⟨-, -, ok', bytes', rfl⟩
    · exact absurd head' notTimeout
    · exact absurd head' notDisconnect
    · have sameReply : reply = reply' := by
        cases reply
        cases reply'
        obtain rfl : _ = _ := ok.trans ok'.symm
        obtain rfl : _ = _ := bytes.trans bytes'.symm
        rfl
      refine ⟨sameReply, sameTraffic_traced same rfl ?_ ⟨rfl, rfl, next⟩⟩
      rw [sameReply]

end Exchange

/-- The verdict on a reply does not depend on the counters. -/
theorem validateResponse_fst (client client' : Client) (request : Frame) (response : List Byte)
    (opcode : Opcode) (length attempts : Nat) :
    (client.validateResponse request response opcode length attempts).1 =
      (client'.validateResponse request response opcode length attempts).1 := by
  simp only [validateResponse]
  repeat' split
  all_goals rfl

/-- Closing the transports at the end of an attempt makes no difference. -/
theorem SameTraffic.close {left leftAfter right rightAfter : LoopbackTransport}
    (same : SameTraffic left leftAfter right rightAfter) :
    SameTraffic left (asTransport.close leftAfter) right (asTransport.close rightAfter) :=
  ⟨⟨same.1.server, same.1.faults, same.1.nextSequence⟩, same.2⟩

/-- The attempts of an operation over two transports with the same link end alike. -/
theorem Client.Run.alike {plan : Plan} (valid : Encodable plan.request)
    (positive : 0 < plan.deadline) {attempt : Nat} {client final client' final' : Client}
    {before after before' after' : LoopbackTransport} {calls calls' : List Call}
    {result result' : OperationResult}
    (run : Run asTransport plan attempt client before calls result final after)
    (run' : Run asTransport plan attempt client' before' calls' result' final' after')
    (same : SameLink before before') :
    result = result' ∧ SameTraffic before after before' after' := by
  induction run generalizing client' before' calls' with
  | unreachable _ failed => cases (Prod.mk.inj failed).1
  | @answered _ _ _ _ _ _ _ reply opens sent ok =>
    cases run' with
    | unreachable _ failed => cases (Prod.mk.inj failed).1
    | answered opens' sent' =>
      obtain ⟨rfl, traffic⟩ := exchange_alike same opens opens' valid positive sent sent'
      refine ⟨?_, traffic⟩
      exact validateResponse_fst _ _ _ _ _ _ _
    | failed opens' sent' fails =>
      obtain ⟨rfl, -⟩ := exchange_alike same opens opens' valid positive sent sent'
      exact absurd ok fails
    | retried opens' sent' fails =>
      obtain ⟨rfl, -⟩ := exchange_alike same opens opens' valid positive sent sent'
      exact absurd ok fails
  | failed opens sent fails last =>
    cases run' with
    | unreachable _ failed => cases (Prod.mk.inj failed).1
    | answered opens' sent' ok =>
      obtain ⟨rfl, -⟩ := exchange_alike same opens opens' valid positive sent sent'
      exact absurd ok fails
    | failed opens' sent' =>
      obtain ⟨rfl, traffic⟩ := exchange_alike same opens opens' valid positive sent sent'
      exact ⟨rfl, traffic.close⟩
    | retried _ _ _ more => omega
  | retried opens sent fails more _ ih =>
    cases run' with
    | unreachable _ failed => cases (Prod.mk.inj failed).1
    | answered opens' sent' ok =>
      obtain ⟨rfl, -⟩ := exchange_alike same opens opens' valid positive sent sent'
      exact absurd ok fails
    | failed _ _ _ last => omega
    | retried opens' sent' _ _ rest =>
      obtain ⟨rfl, traffic⟩ := exchange_alike same opens opens' valid positive sent sent'
      obtain ⟨sameResult, later⟩ := ih rest traffic.close.1
      exact ⟨sameResult, traffic.close.trans later⟩

namespace System

/-- Two systems that differ in the trace, the connection flag and the counters only. -/
structure Alike (left right : System) : Prop where
  link : SameLink left.transport right.transport
  options : left.client.options = right.client.options
  nextRequestId : left.client.nextRequestId = right.client.nextRequestId

/-- An operation on alike systems returns the same result and makes the same records. -/
theorem call_alike {left right : System} (alike : Alike left right) (op : ClientOp) :
    (left.call op).1 = (right.call op).1 ∧
      left.appended (.call op) = right.appended (.call op) ∧
      Alike (left.call op).2 (right.call op).2 := by
  have keeps := perform_keeps asTransport left.client left.transport op
  have keeps' := perform_keeps asTransport right.client right.transport op
  have ends : (left.call op).1 = (right.call op).1 ∧ SameTraffic left.transport
      (left.call op).2.transport right.transport (right.call op).2.transport := by
    rw [call, call]
    obtain ⟨invalid, -, performed⟩ | ⟨valid, result, final, last, run, performed⟩ :=
      perform_run asTransport left.client left.transport op <;>
    obtain ⟨invalid', -, performed'⟩ | ⟨valid', result', final', last', run', performed'⟩ :=
      perform_run asTransport right.client right.transport op
    · rw [performed, performed', alike.nextRequestId]
      exact ⟨rfl, sameTraffic_refl alike.link⟩
    · exact absurd valid' invalid
    · exact absurd valid invalid'
    · rw [performed, performed']
      rw [← alike.nextRequestId, ← alike.options] at run'
      exact run.alike (by rw [plan_request]; exact valid.encodable _) (valid.deadline_pos _ _)
        run' alike.link
  obtain ⟨result, link, records, trace, trace'⟩ := ends
  refine ⟨result, ?_, link, ?_, ?_⟩
  · exact (congrArg (List.drop _) trace).trans
      (List.drop_left.trans ((congrArg (List.drop _) trace').trans List.drop_left).symm)
  · exact keeps.1.trans (alike.options.trans keeps'.1.symm)
  · refine keeps.2.trans (Eq.trans ?_ keeps'.2.symm)
    rw [alike.nextRequestId]

end System

/-- The steps that nobody can observe. -/
def SystemOp.quiet : SystemOp → Bool
  | .connect => true
  | .close => true
  | .clearTrace => true
  | _ => false

namespace System

theorem step_quiet (system : System) {op : SystemOp} (quiet : op.quiet = true) :
    Alike (system.step op) system ∧ system.returned op = [] ∧ system.appended op = [] := by
  cases op with
  | call | pushFault => cases quiet
  | connect | close => exact ⟨⟨⟨rfl, rfl, rfl⟩, rfl, rfl⟩, rfl, system.appended_eq_nil rfl⟩
  | clearTrace => exact ⟨⟨⟨rfl, rfl, rfl⟩, rfl, rfl⟩, rfl, rfl⟩

theorem Alike.trans {first second third : System} (alike : Alike first second)
    (later : Alike second third) : Alike first third where
  link := ⟨alike.link.server.trans later.link.server, alike.link.faults.trans later.link.faults,
    alike.link.nextSequence.trans later.link.nextSequence⟩
  options := alike.options.trans later.options
  nextRequestId := alike.nextRequestId.trans later.nextRequestId

/-- Every other step does the same to alike systems. -/
theorem step_alike {left right : System} (alike : Alike left right) {op : SystemOp}
    (loud : op.quiet = false) :
    left.returned op = right.returned op ∧ left.appended op = right.appended op ∧
      Alike (left.step op) (right.step op) := by
  cases op with
  | call op =>
    obtain ⟨result, appended, after⟩ := call_alike alike op
    exact ⟨congrArg (fun result => [result]) result, appended, after⟩
  | pushFault fault =>
    refine ⟨rfl, ?_, ⟨alike.link.server, ?_, alike.link.nextSequence⟩, alike.options,
      alike.nextRequestId⟩
    · rw [left.appended_eq_nil rfl, right.appended_eq_nil rfl]
    · exact congrArg (· ++ [fault]) alike.link.faults
  | connect | close | clearTrace => cases loud

theorem run_alike {left right : System} (alike : Alike left right) (ops : List SystemOp) :
    left.results ops = right.results (ops.filter fun op => !op.quiet) ∧
      left.log ops = right.log (ops.filter fun op => !op.quiet) ∧
      Alike (left.run ops) (right.run (ops.filter fun op => !op.quiet)) := by
  induction ops generalizing left right with
  | nil => exact ⟨rfl, rfl, alike⟩
  | cons op ops ih =>
    cases quiet : op.quiet with
    | true =>
      obtain ⟨same, returned, appended⟩ := left.step_quiet quiet
      rw [List.filter_cons_of_neg (by simp [quiet]), results, returned, log, appended, run_cons]
      exact ih (same.trans alike)
    | false =>
      obtain ⟨returned, appended, after⟩ := step_alike alike quiet
      rw [List.filter_cons_of_pos (by simp [quiet]), results, returned, log, appended, run_cons,
        results, log, run_cons]
      obtain ⟨sameResults, sameLog, final⟩ := ih after
      rw [sameResults, sameLog]
      exact ⟨rfl, rfl, final⟩

/-- Connecting, closing and clearing the trace are invisible. Erasing all these steps from any
run of a fresh system changes no result of any operation, no packet that is ever recorded and
its number, and nothing of the server, the fault queue and the next identifier. -/
theorem quiet_steps_invisible (policy : ServerPolicy) (options : ClientOptions)
    (ops : List SystemOp) :
    let start := System.new policy options
    let loud := ops.filter fun op => !op.quiet
    start.results ops = start.results loud ∧ start.log ops = start.log loud ∧
    (start.run ops).transport.server = (start.run loud).transport.server ∧
    (start.run ops).transport.faults = (start.run loud).transport.faults ∧
    (start.run ops).client.nextRequestId = (start.run loud).client.nextRequestId ∧
    (start.run loud).transport.trace = start.log ops := by
  intro start loud
  have same : Alike start start := ⟨⟨rfl, rfl, rfl⟩, rfl, rfl⟩
  obtain ⟨results, log, alike⟩ := run_alike same ops
  refine ⟨results, log, alike.link.server, alike.link.faults, alike.nextRequestId, ?_⟩
  have kept : .clearTrace ∉ loud := by
    intro member
    cases (List.mem_filter.mp member).2
  rw [start.run_trace kept]
  exact log.symm

end System

end Imlp
