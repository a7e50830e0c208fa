import Imlp.Client.Calls
import Imlp.Transport

/-!
# The whole system

One client on a loopback transport over one server, as the demonstration programs and the
tests put it together. Besides the two operations of the client, the transport can be
connected, closed, given faults and have its trace cleared from outside, in any order.
-/

namespace Imlp

/-- A client and the loopback transport it uses; the transport holds the server. -/
structure System where
  client : Client
  transport : LoopbackTransport

/-- The steps of a run. -/
inductive SystemOp where
  | call (op : ClientOp)
  | pushFault (fault : TransportFault)
  | connect
  | close
  | clearTrace
  deriving DecidableEq, Repr

namespace System

/-- A fresh system. -/
def new (policy : ServerPolicy) (options : ClientOptions) : System where
  client := .new options
  transport := .new (.new policy)

/-- Runs one client operation. -/
def call (system : System) (op : ClientOp) : OperationResult × System :=
  let (result, client, transport) :=
    system.client.perform LoopbackTransport.asTransport system.transport op
  (result, { client := client, transport := transport })

/-- Runs one step. -/
def step (system : System) : SystemOp → System
  | .call op => (system.call op).2
  | .pushFault fault => { system with transport := system.transport.pushFault fault }
  | .connect => { system with transport := system.transport.connect.2 }
  | .close => { system with transport := system.transport.close }
  | .clearTrace => { system with transport := system.transport.clearTrace }

/-- Runs a list of steps. -/
def run (system : System) (ops : List SystemOp) : System := ops.foldl step system

end System

end Imlp
