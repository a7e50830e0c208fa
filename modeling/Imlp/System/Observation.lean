import Imlp.Client.Simulation
import Imlp.Server.Observation
import Imlp.System.Faultless
import Imlp.System.Trace

/-!
# What a client can observe of the server

The results of a client's operations tell exactly as much about the server as the bytes on the
wire: everything below `0x800`, how writes are treated, and nothing else. Servers that are alike
make loopback transports that simulate each other, so no run of a client over them, with any
faults, shows a difference in its results, its trace or its counters. In the other direction
two operations without faults are enough to show each byte and each rule.
-/

namespace Imlp
open MemoryServer Client LoopbackTransport

/-- The two transports differ in their servers only, which are alike. -/
structure AlikeTransports (left right : LoopbackTransport) : Prop where
  server : AlikeServers left.server right.server
  isConnected : left.isConnected = right.isConnected
  faults : left.faults = right.faults
  trace : left.trace = right.trace
  nextSequence : left.nextSequence = right.nextSequence

/-- Loopback transports over servers that are alike. -/
theorem exchange_alikeTransports {left right : LoopbackTransport}
    (alike : AlikeTransports left right) (request : List Byte) (deadline : Int) :
    (left.exchange request deadline).1 = (right.exchange request deadline).1 ∧
      AlikeTransports (left.exchange request deadline).2 (right.exchange request deadline).2 := by
  obtain ⟨server, isConnected, faults, trace, nextSequence⟩ := alike
  obtain ⟨result, after⟩ := server.handle request
  cases left
  cases right
  cases isConnected
  cases faults
  cases trace
  cases nextSequence
  unfold exchange
  dsimp only [record]
  split
  · exact ⟨rfl, server, rfl, rfl, rfl, rfl⟩
  split
  · exact ⟨rfl, server, rfl, rfl, rfl, rfl⟩
  split
  · exact ⟨rfl, server, rfl, rfl, rfl, rfl⟩
  split
  · exact ⟨rfl, server, rfl, rfl, rfl, rfl⟩
  · dsimp only at result
    rw [result]
    exact ⟨rfl, after, rfl, rfl, rfl, rfl⟩

theorem asTransport_simulates : asTransport.Simulates AlikeTransports asTransport where
  connect alike := ⟨rfl, alike.server, rfl, alike.faults, alike.trace, alike.nextSequence⟩
  close alike := ⟨alike.server, rfl, alike.faults, alike.trace, alike.nextSequence⟩
  connected alike := ⟨alike.isConnected, alike⟩
  exchange alike request deadline := exchange_alikeTransports alike request deadline

/-- The two systems differ in their servers only, which are alike. -/
structure AlikeSystems (left right : System) : Prop where
  client : left.client = right.client
  transport : AlikeTransports left.transport right.transport

namespace System

theorem call_alikeSystems {left right : System} (alike : AlikeSystems left right) (op : ClientOp) :
    (left.call op).1 = (right.call op).1 ∧ AlikeSystems (left.call op).2 (right.call op).2 := by
  obtain ⟨result, client, transport⟩ :=
    perform_simulated asTransport_simulates left.client alike.transport op
  unfold call
  dsimp only
  rw [← alike.client]
  exact ⟨result, client, transport⟩

theorem step_alikeSystems {left right : System} (alike : AlikeSystems left right) (op : SystemOp) :
    left.returned op = right.returned op ∧ AlikeSystems (left.step op) (right.step op) := by
  obtain ⟨client, server, isConnected, faults, trace, nextSequence⟩ := alike
  cases op with
  | call op =>
    obtain ⟨result, after⟩ :=
      call_alikeSystems ⟨client, server, isConnected, faults, trace, nextSequence⟩ op
    exact ⟨congrArg ([·]) result, after⟩
  | pushFault fault =>
    exact ⟨rfl, client, server, isConnected, congrArg (· ++ [fault]) faults, trace, nextSequence⟩
  | connect => exact ⟨rfl, client, server, rfl, faults, trace, nextSequence⟩
  | close => exact ⟨rfl, client, server, rfl, faults, trace, nextSequence⟩
  | clearTrace => exact ⟨rfl, client, server, isConnected, faults, rfl, nextSequence⟩

theorem run_alikeSystems {left right : System} (alike : AlikeSystems left right)
    (ops : List SystemOp) :
    left.results ops = right.results ops ∧ AlikeSystems (left.run ops) (right.run ops) := by
  induction ops generalizing left right with
  | nil => exact ⟨rfl, alike⟩
  | cons op ops ih =>
    obtain ⟨returned, next⟩ := step_alikeSystems alike op
    obtain ⟨later, final⟩ := ih next
    refine ⟨?_, final⟩
    rw [results, results, returned, later]

/-- A fresh client and transport over a server in any state. -/
def onServer (server : MemoryServer) (options : ClientOptions) : System where
  client := .new options
  transport := .new server

theorem call_onServer (server : MemoryServer) (options : ClientOptions) (op : ClientOp) :
    ((onServer server options).call op).1 =
      ((Client.new options).perform asTransport (.new server) op).1 := rfl

section Probes

variable {left right : MemoryServer} {options : ClientOptions}
  (same : ∀ op, ((onServer left options).call op).1 = ((onServer right options).call op).1)
include same

/-- Reading one byte shows it. -/
theorem byte_eq_of_results_eq {index : Nat} (below : index < 0x800) :
    left.memory.byte index = right.memory.byte index := by
  let probe : ClientOp := .read (BitVec.ofNat 32 index) 1 1
  have valid : probe.Valid := ⟨by decide, by decide, by decide⟩
  have address : (BitVec.ofNat 32 index).toNat = index := toNat_address (by omega)
  have shown : ∀ server : MemoryServer,
      ((onServer server options).call probe).1.data = [server.memory.byte index] := by
    intro server
    have fresh : (LoopbackTransport.new server).faults = [] := rfl
    have verdict := (perform_faultless (Client.new options) valid fresh).1
    have result := read_data_result (by decide) (by decide) (by omega) verdict
    rw [address] at result
    rw [call_onServer, result]
    rfl
  have data := congrArg OperationResult.data (same probe)
  rw [shown left, shown right] at data
  exact (List.cons.inj data).1

/-- Writing one byte shows how the policy treats its address. -/
theorem answerWrite_eq_of_results_eq {address : Nat} (small : address < 0x100000000) :
    (answerWrite left.policy address 1).status = (answerWrite right.policy address 1).status ∧
      (answerWrite left.policy address 1).payload =
        (answerWrite right.policy address 1).payload := by
  let probe : ClientOp := .write (BitVec.ofNat 32 address) [0#8] 1
  have valid : probe.Valid := ⟨by decide, by decide, by decide⟩
  have shown : ∀ server : MemoryServer,
      ((onServer server options).call probe).1.remoteStatus =
          (answerWrite server.policy address 1).status ∧
        ((onServer server options).call probe).1.data =
          (answerWrite server.policy address 1).payload := by
    intro server
    have fresh : (LoopbackTransport.new server).faults = [] := rfl
    have answered : (LoopbackTransport.new server).server.answer
          (writeRequest (Client.new options).nextRequestId (BitVec.ofNat 32 address) [0#8]) =
        answerWrite server.policy (BitVec.ofNat 32 address).toNat 1 := rfl
    have observed := write_observed (perform_faultless (Client.new options) valid fresh).1
    rw [answered, toNat_address small] at observed
    rw [call_onServer]
    exact observed
  have result := same probe
  constructor
  · rw [← (shown left).1, ← (shown right).1, result]
  · rw [← (shown left).2, ← (shown right).2, result]

end Probes

/-- What a client can observe of a server, over runs of any length with faults queued,
connections opened and closed and traces cleared at any point: two servers in any states give
the same results in all runs exactly when their policies treat every write alike and their
memories agree below `0x800`. Then the traces, the fault queues and the client with its
counters are the same after every run as well. -/
theorem client_observes_server (left right : MemoryServer) (options : ClientOptions) :
    ((∀ ops, (onServer left options).results ops = (onServer right options).results ops) ↔
      AlikeServers left right) ∧
    (AlikeServers left right → ∀ ops,
      ((onServer left options).run ops).client = ((onServer right options).run ops).client ∧
      ((onServer left options).run ops).transport.trace =
        ((onServer right options).run ops).transport.trace ∧
      ((onServer left options).run ops).transport.faults =
        ((onServer right options).run ops).transport.faults) := by
  have systems : AlikeServers left right →
      AlikeSystems (onServer left options) (onServer right options) :=
    fun alike => ⟨rfl, alike, rfl, rfl, rfl, rfl⟩
  refine ⟨⟨fun same => ?_, fun alike ops => (run_alikeSystems (systems alike) ops).1⟩,
    fun alike ops => ?_⟩
  · have single : ∀ op,
        ((onServer left options).call op).1 = ((onServer right options).call op).1 := by
      intro op
      have results := same [.call op]
      exact (List.cons.inj results).1
    exact ⟨alikePolicies_of_answerWrite fun _ small => answerWrite_eq_of_results_eq single small,
      fun _ below => byte_eq_of_results_eq single below⟩
  · have final := (run_alikeSystems (systems alike) ops).2
    exact ⟨final.client, final.transport.trace, final.transport.faults⟩

end System

end Imlp
