import Imlp.Client.Correlation
import Imlp.Client.Metrics
import Imlp.Server.Delivery
import Imlp.System.Refinement

/-!
# The protocol over an unreliable network

The client takes any `ITransport`. Here it gets one that stands for a network between it and
a server: requests may be lost, delayed, duplicated and reordered, and so may responses, and
either may be damaged in a way that `decode` notices. A script of decisions chooses what
happens at every call, so a statement for every script is one about every such network.

A `Network` keeps what was sent, what reached the server, and what the server produced, with
the facts that tie the three together. Identifiers do the rest: a response that the client
accepts carries the identifier of its operation, and no request sent earlier has that one.
-/

namespace Imlp
open MemoryServer Client IntervalStore

/-- What arrives at the server: one of the requests sent so far, or a damaged one. -/
inductive Packet where
  | sent (index : Nat)
  | damaged (bytes : List Byte)
  deriving DecidableEq, Repr

/-- What comes back from an exchange: nothing, one of the responses produced so far, or a
damaged one. -/
inductive Return where
  | lost (error : TransportError)
  | produced (index : Nat)
  | damaged (bytes : List Byte)
  deriving DecidableEq, Repr

/-- What the network does during one call of a transport method. -/
structure Decision where
  up : Bool := true
  arrivals : List Packet := []
  returns : Return := .lost .timeout
  deriving DecidableEq, Repr

/-- A network in front of a server. -/
structure Network (policy : ServerPolicy) where
  server : MemoryServer
  sent : List (List Byte)
  delivered : List (List Byte)
  produced : List (List Byte)
  script : List Decision
  server_eq : server = (MemoryServer.new policy).handleAll delivered
  produced_eq : produced = ((MemoryServer.new policy).exchanges delivered).map Prod.snd
  delivered_sent : ∀ bytes ∈ delivered, bytes ∈ sent ∨ (decode bytes).frame = none

namespace Network

variable {policy : ServerPolicy}

/-- A network before any traffic. -/
def new (policy : ServerPolicy) (script : List Decision) : Network policy where
  server := .new policy
  sent := []
  delivered := []
  produced := []
  script := script
  server_eq := rfl
  produced_eq := rfl
  delivered_sent := nofun

/-- A request enters the network. -/
def send (network : Network policy) (request : List Byte) : Network policy :=
  { network with
    sent := network.sent ++ [request]
    delivered_sent := fun bytes member =>
      (network.delivered_sent bytes member).imp_left (List.mem_append_left _) }

/-- The server handles some bytes. -/
def arrive (network : Network policy) (bytes : List Byte)
    (known : bytes ∈ network.sent ∨ (decode bytes).frame = none) : Network policy where
  server := (network.server.handle bytes).2
  sent := network.sent
  delivered := network.delivered ++ [bytes]
  produced := network.produced ++ [(network.server.handle bytes).1.response]
  script := network.script
  server_eq := by rw [handleAll_concat, network.server_eq]
  produced_eq := by
    rw [exchanges_concat, List.map_append, ← network.produced_eq, network.server_eq]
    rfl
  delivered_sent := by
    intro other member
    rw [List.mem_append, List.mem_singleton] at member
    rcases member with earlier | rfl
    · exact network.delivered_sent other earlier
    · exact known

/-- A packet arrives, if there is such a packet. -/
def deliver (network : Network policy) : Packet → Network policy
  | .sent index =>
    if inside : index < network.sent.length then
      network.arrive network.sent[index] (.inl (List.getElem_mem inside))
    else network
  | .damaged bytes =>
    if damaged : (decode bytes).frame = none then network.arrive bytes (.inr damaged)
    else network

/-- The next decision of the script; an exhausted script loses everything. -/
def decision (network : Network policy) : Decision := network.script.head?.getD {}

/-- The network after the arrivals of one call. -/
def advance (network : Network policy) : Network policy :=
  network.decision.arrivals.foldl deliver { network with script := network.script.tail }

/-- What an exchange returns. -/
def answer (network : Network policy) : Return → TransportReply
  | .lost error => { error := error }
  | .produced index =>
    match network.produced[index]? with
    | some bytes => { bytes := bytes }
    | none => { error := .timeout }
  | .damaged bytes =>
    if (decode bytes).frame = none then { bytes := bytes } else { error := .timeout }

/-- The network as the client sees it. -/
def asTransport (policy : ServerPolicy) : ITransport (Network policy) where
  connect network := (network.decision.up, network.advance)
  close network := network.advance
  connected network := (network.decision.up, network.advance)
  exchange request _ network :=
    let after := (network.send request).advance
    (after.answer network.decision.returns, after)

/-- Between two states of the network, only copies of one request were sent, and what reached
the server was added to what had reached it before. -/
structure Grows (request : List Byte) (before after : Network policy) : Prop where
  sent : ∀ bytes ∈ after.sent, bytes ∈ before.sent ∨ bytes = request
  delivered : before.delivered <+: after.delivered

theorem Grows.refl (request : List Byte) (network : Network policy) :
    Grows request network network :=
  ⟨fun _ member => .inl member, List.prefix_rfl⟩

theorem Grows.trans {request : List Byte} {first second third : Network policy}
    (grows : Grows request first second) (later : Grows request second third) :
    Grows request first third := by
  refine ⟨?_, grows.delivered.trans later.delivered⟩
  intro bytes member
  rcases later.sent bytes member with earlier | same
  · exact grows.sent bytes earlier
  · exact .inr same

/-- A packet is lost, or the server handles its bytes. -/
theorem deliver_cases (network : Network policy) (packet : Packet) :
    network.deliver packet = network ∨
      ∃ bytes known, network.deliver packet = network.arrive bytes known := by
  cases packet with
  | sent index =>
    by_cases inside : index < network.sent.length
    · exact .inr ⟨_, _, dif_pos inside⟩
    · exact .inl (dif_neg inside)
  | damaged bytes =>
    by_cases damaged : (decode bytes).frame = none
    · exact .inr ⟨_, _, dif_pos damaged⟩
    · exact .inl (dif_neg damaged)

theorem grows_deliver (request : List Byte) (network : Network policy) (packet : Packet) :
    Grows request network (network.deliver packet) := by
  rcases network.deliver_cases packet with same | ⟨bytes, known, arrived⟩
  · rw [same]
    exact .refl request network
  · rw [arrived]
    exact ⟨fun _ member => .inl member, List.prefix_append _ _⟩

theorem grows_deliverAll (request : List Byte) (packets : List Packet)
    (network : Network policy) : Grows request network (packets.foldl deliver network) := by
  induction packets generalizing network with
  | nil => exact .refl request network
  | cons packet packets ih =>
    exact (grows_deliver request network packet).trans (ih (network.deliver packet))

theorem grows_advance (request : List Byte) (network : Network policy) :
    Grows request network network.advance := by
  have arrived := grows_deliverAll request network.decision.arrivals
    { network with script := network.script.tail }
  exact ⟨arrived.sent, arrived.delivered⟩

theorem grows_send (request : List Byte) (network : Network policy) :
    Grows request network (network.send request) := by
  refine ⟨?_, List.prefix_rfl⟩
  intro bytes member
  rwa [send, List.mem_append, List.mem_singleton] at member

/-- Whatever an exchange returns without an error was produced by the server or is damaged. -/
theorem answer_genuine (network : Network policy) (returns : Return)
    (ok : (network.answer returns).error = .none) :
    (network.answer returns).bytes ∈ network.produced ∨
      (decode (network.answer returns).bytes).frame = none := by
  cases returns with
  | lost error => exact .inr decode_nil
  | produced index =>
    simp only [answer] at ok ⊢
    cases found : network.produced[index]? with
    | none =>
      rw [found] at ok
      cases ok
    | some bytes => exact .inl (List.mem_of_getElem? found)
  | damaged bytes =>
    simp only [answer] at ok ⊢
    by_cases damaged : (decode bytes).frame = none
    · rw [if_pos damaged]
      exact .inr damaged
    · rw [if_neg damaged] at ok
      cases ok

end Network

open Network

variable {policy : ServerPolicy}

/-- Opening the network moves it on. -/
theorem opens_network {request : List Byte} {client opened : Client}
    {before ready : Network policy} {opening : List Call}
    (opens : Opens (asTransport policy) client before opening opened ready) :
    Grows request before ready := by
  cases opens with
  | already up =>
    obtain ⟨-, rfl⟩ := Prod.mk.inj up
    exact grows_advance request before
  | reconnected lost answered =>
    obtain ⟨-, rfl⟩ := Prod.mk.inj lost
    obtain ⟨-, rfl⟩ := Prod.mk.inj answered
    exact (grows_advance request before).trans (grows_advance request _)

/-- One exchange sends its request, and its reply is genuine or damaged. -/
theorem exchange_network {request : List Byte} {deadline : Int} {ready after : Network policy}
    {reply : TransportReply}
    (sent : (asTransport policy).exchange request deadline ready = (reply, after)) :
    Grows request ready after ∧ (reply.error = .none →
      reply.bytes ∈ after.produced ∨ (decode reply.bytes).frame = none) := by
  obtain ⟨rfl, rfl⟩ := Prod.mk.inj sent
  exact ⟨(grows_send request ready).trans (grows_advance request _), answer_genuine _ _⟩

/-- The attempts of an operation send copies of its request only, and every reply they were
handed is among the responses at their end, or damaged. -/
theorem Client.Run.network {plan : Plan} {attempt : Nat} {client final : Client}
    {before after : Network policy} {calls : List Call} {result : OperationResult}
    (run : Run (asTransport policy) plan attempt client before calls result final after) :
    Grows (wireBytes plan.request) before after ∧
      ∀ request deadline reply, Call.exchange request deadline reply ∈ calls →
        reply.error = .none →
        reply.bytes ∈ after.produced ∨ (decode reply.bytes).frame = none := by
  induction run with
  | unreachable lost failed =>
    obtain ⟨-, rfl⟩ := Prod.mk.inj lost
    obtain ⟨-, rfl⟩ := Prod.mk.inj failed
    refine ⟨(grows_advance _ _).trans (grows_advance _ _), ?_⟩
    intro request deadline reply member
    simp at member
  | answered opens sent ok =>
    obtain ⟨grows, genuine⟩ := exchange_network sent
    refine ⟨(opens_network opens).trans grows, ?_⟩
    intro request deadline other member _
    rw [List.mem_append, List.mem_singleton] at member
    rcases member with early | same
    · exact absurd early opens.not_exchange
    · rw [(Call.exchange.inj same).2.2]
      exact genuine ok
  | failed opens sent fails =>
    obtain ⟨grows, -⟩ := exchange_network sent
    refine ⟨((opens_network opens).trans grows).trans (grows_advance _ _), ?_⟩
    intro request deadline other member ok
    rw [List.mem_append, List.mem_cons, List.mem_singleton] at member
    rcases member with early | same | close
    · exact absurd early opens.not_exchange
    · rw [(Call.exchange.inj same).2.2] at ok
      exact absurd ok fails
    · cases close
  | retried opens sent fails _ _ ih =>
    obtain ⟨grows, -⟩ := exchange_network sent
    refine ⟨(((opens_network opens).trans grows).trans (grows_advance _ _)).trans ih.1, ?_⟩
    intro request deadline other member ok
    rw [List.mem_append, List.mem_cons, List.mem_cons] at member
    rcases member with early | same | close | later
    · exact absurd early opens.not_exchange
    · rw [(Call.exchange.inj same).2.2] at ok
      exact absurd ok fails
    · cases close
    · exact ih.2 request deadline other later ok

/-- A response that decodes is the server's answer to a request that reached it. -/
theorem produced_answers (network : Network policy) {bytes : List Byte} {frame : Frame}
    (member : bytes ∈ network.produced) (decoded : (decode bytes).frame = some frame) :
    ∃ earlier request later, network.delivered = earlier ++ wireBytes request :: later ∧
      Encodable request ∧ frame =
        responseFrame request (((MemoryServer.new policy).handleAll earlier).answer request) := by
  rw [network.produced_eq, List.mem_map] at member
  obtain ⟨⟨asked, response⟩, member, rfl⟩ := member
  obtain ⟨earlier, later, delivered, answered⟩ := mem_exchanges member
  dsimp only at decoded
  cases found : (decode asked).frame with
  | none =>
    rw [answered, handle_of_rejected _ found] at decoded
    cases decode_nil.symm.trans decoded
  | some request =>
    obtain ⟨valid, rfl⟩ := (decode_ok_iff asked request).mp found
    rw [answered, handle_of_decoded _ found, reply, decode_answer] at decoded
    exact ⟨earlier, request, later, delivered, valid, (Option.some.inj decoded).symm⟩

/-- No request in the network carries this identifier. -/
def Network.Fresh (network : Network policy) (requestId : BitVec 32) : Prop :=
  ∀ frame, wireBytes frame ∈ network.sent → frame.requestId ≠ requestId

/-- The request reached the server after everything in `before`, and found it in this state. -/
def Network.Served (before after : Network policy) (request : Frame) (server : MemoryServer) :
    Prop :=
  ∃ earlier later, after.delivered = before.delivered ++ earlier ++ wireBytes request :: later ∧
    server = (MemoryServer.new policy).handleAll (before.delivered ++ earlier)

/-- An entry that is not in the front of a list stands behind it. -/
theorem append_of_notMem {α : Type} {front more earlier later : List α} {entry : α}
    (same : front ++ more = earlier ++ entry :: later) (absent : entry ∉ front) :
    ∃ middle, earlier = front ++ middle := by
  rcases List.append_eq_append_iff.mp same with ⟨middle, split, -⟩ | ⟨middle, split, rest⟩
  · exact ⟨middle, split⟩
  · cases middle with
    | nil => exact ⟨[], by rw [split, List.append_nil, List.append_nil]⟩
    | cons next middle =>
      obtain ⟨rfl, -⟩ := List.cons.inj rest
      refine absurd ?_ absent
      rw [split]
      exact List.mem_append_right _ List.mem_cons_self

/-- A fresh request has not reached the server yet. -/
theorem Network.Fresh.not_delivered {network : Network policy} {request : Frame}
    (fresh : network.Fresh request.requestId) (valid : Encodable request) :
    wireBytes request ∉ network.delivered := by
  intro member
  rcases network.delivered_sent _ member with sent | damaged
  · exact fresh request sent rfl
  · have decoded := (decode_ok_iff (wireBytes request) request).mpr ⟨valid, rfl⟩
    cases damaged.symm.trans decoded

/-- A response under a fresh identifier is the server's answer to the operation's own request,
given while the operation ran. -/
theorem served_of_answered {plan : Plan} {attempt : Nat} {client final : Client}
    {before after : Network policy} {calls : List Call} {result : OperationResult}
    (run : Run (asTransport policy) plan attempt client before calls result final after)
    (fresh : before.Fresh plan.request.requestId) {frame : Frame}
    (answered : AnsweredBy calls frame) (sameId : frame.requestId = plan.request.requestId) :
    ∃ server, Served before after plan.request server ∧
      frame = responseFrame plan.request (server.answer plan.request) := by
  obtain ⟨grows, genuine⟩ := run.network
  obtain ⟨asked, deadline, reply, member, ok, encoded⟩ := answered
  have decoded := (encode_eq_iff_decode frame reply.bytes).mp encoded
  rcases genuine asked deadline reply member ok with produced | damaged
  · obtain ⟨earlier, request, later, delivered, valid, rfl⟩ :=
      produced_answers after produced decoded
    have sent : wireBytes request ∈ after.sent := by
      have reached : wireBytes request ∈ after.delivered := by
        rw [delivered]
        exact List.mem_append_right _ List.mem_cons_self
      refine (after.delivered_sent _ reached).resolve_right ?_
      rw [(decode_ok_iff (wireBytes request) request).mpr ⟨valid, rfl⟩]
      exact Option.some_ne_none request
    -- an older request has another identifier, so it is the operation's own
    obtain rfl : request = plan.request := by
      rcases grows.sent _ sent with old | own
      · exact absurd sameId (fresh request old)
      · exact wireBytes_injective own
    obtain ⟨more, arrived⟩ := grows.delivered
    obtain ⟨middle, rfl⟩ :=
      append_of_notMem (arrived.trans delivered) (fresh.not_delivered valid)
    exact ⟨_, ⟨middle, later, delivered, rfl⟩, rfl⟩
  · cases damaged.symm.trans decoded

/-! ## Sessions over the network -/

/-- These are the bytes of the request that some operation of a session sends, where `first` is
the identifier of the first operation. -/
def SentBy (first : BitVec 32) (ops : List ClientOp) (bytes : List Byte) : Prop :=
  ∃ (position : Nat) (op : ClientOp), ops[position]? = some op ∧ op.Valid ∧
    bytes = wireBytes (op.request (followingId^[position] first))

/-- An operation sends its own request only. -/
theorem perform_sent (client : Client) (network : Network policy) (op : ClientOp) :
    ∀ bytes ∈ (client.perform (asTransport policy) network op).2.2.sent,
      bytes ∈ network.sent ∨ op.Valid ∧ bytes = wireBytes (op.request client.nextRequestId) := by
  intro bytes member
  obtain ⟨-, -, performed⟩ | ⟨valid, result, final, last, run, performed⟩ :=
    perform_run (asTransport policy) client network op
  · rw [performed] at member
    exact .inl member
  · rw [performed] at member
    refine (run.network.1.sent bytes member).imp_right ?_
    rw [plan_request]
    exact fun same => ⟨valid, same⟩

theorem sessionEnd_sent (client : Client) (network : Network policy) (ops : List ClientOp) :
    ∀ bytes ∈ (sessionEnd (asTransport policy) client network ops).2.sent,
      bytes ∈ network.sent ∨ SentBy client.nextRequestId ops bytes := by
  induction ops generalizing client network with
  | nil => exact fun bytes member => .inl member
  | cons op ops ih =>
    intro bytes member
    have keeps := (perform_keeps (asTransport policy) client network op).2
    rcases ih (client.perform (asTransport policy) network op).2.1
      (client.perform (asTransport policy) network op).2.2 bytes member with
      early | ⟨position, later, found, valid, same⟩
    · rcases perform_sent client network op bytes early with old | ⟨valid, same⟩
      · exact .inl old
      · exact .inr ⟨0, op, rfl, valid, same⟩
    · rw [keeps, ← Function.iterate_succ_apply] at same
      exact .inr ⟨position + 1, later, found, valid, same⟩

/-- Every operation of a session takes one identifier. -/
theorem sessionEnd_nextRequestId {σ : Type} (transport : ITransport σ) (client : Client)
    (state : σ) (ops : List ClientOp) :
    (sessionEnd transport client state ops).1.nextRequestId =
      followingId^[ops.length] client.nextRequestId := by
  induction ops generalizing client state with
  | nil => rfl
  | cons op ops ih =>
    rw [sessionEnd, ih, (perform_keeps transport client state op).2, List.length_cons,
      Function.iterate_succ_apply]

/-- The next identifier of a session that is not too long is fresh. -/
theorem sessionEnd_fresh (policy : ServerPolicy) (options : ClientOptions)
    (script : List Decision) {ops : List ClientOp} (short : ops.length < 0xFFFFFFFF) :
    let ended := sessionEnd (asTransport policy) (Client.new options)
      (Network.new policy script) ops
    ended.2.Fresh ended.1.nextRequestId := by
  intro ended frame member
  have nonzero := (Client.new options).requestId_ne_zero
  rcases sessionEnd_sent _ _ ops _ member with none | ⟨position, op, found, -, same⟩
  · cases none
  · have inside : position < ops.length := (List.getElem?_eq_some_iff.mp found).1
    rw [wireBytes_injective same, request_requestId, sessionEnd_nextRequestId]
    exact iterate_followingId_ne nonzero (by omega) (by omega) (by omega)

/-- What the result of an operation says about the server behind the network. Here `before` and
`after` are the network around the operation. -/
structure Genuine (before after : Network policy) (requestId : BitVec 32) (op : ClientOp)
    (result : OperationResult) : Prop where
  read : ∀ address length deadline, op = .read address length deadline →
    result.error = .none → ∃ server, Served before after (op.request requestId) server ∧
      address.toNat + length ≤ 0x800 ∧
      result.data = (List.range' address.toNat length).map server.memory.byte
  write : ∀ address data deadline, op = .write address data deadline →
    result.error = .none → ∃ server, Served before after (op.request requestId) server ∧
      WriteAuthorised policy address.toNat data.length ∧
      (server.handle (wireBytes (op.request requestId))).2 =
        { server with memory := server.memory.copy address.toNat data }
  refused : result.error = .remoteError →
    ∃ server, Served before after (op.request requestId) server ∧
      (server.answer (op.request requestId)).opcode = .errorResponse ∧
      result.remoteStatus = (server.answer (op.request requestId)).status ∧
      result.data = (server.answer (op.request requestId)).payload

theorem Network.Served.policy_eq {before after : Network policy} {request : Frame}
    {server : MemoryServer} (served : Served before after request server) :
    server.policy = policy := by
  obtain ⟨earlier, later, -, rfl⟩ := served
  exact (handleAll_memory _ _).1

/-- A read that is answered by data is answered by the bytes of the memory. -/
theorem answer_data {server : MemoryServer} {requestId address : BitVec 32} {length : Nat}
    (small : length ≤ maximumPayloadSize)
    (opcode : (server.answer (readRequest requestId address length)).opcode = .dataResponse) :
    address.toNat + length ≤ 0x800 ∧
      (server.answer (readRequest requestId address length)).payload =
        (List.range' address.toNat length).map server.memory.byte := by
  have size := requestedLength_readRequest requestId address small
  have known := answer_case server (readRequest requestId address length)
  generalize server.answer (readRequest requestId address length) = answer at known opcode ⊢
  cases known with
  | refuse => cases opcode
  | data _ _ inside =>
    rw [size] at inside ⊢
    exact ⟨inside, rfl⟩
  | acknowledge => cases opcode

/-- An operation under a fresh identifier is only ever answered for what it asked. -/
theorem perform_genuine (client : Client) (network : Network policy) (op : ClientOp)
    (fresh : network.Fresh client.nextRequestId) :
    Genuine network (client.perform (asTransport policy) network op).2.2 client.nextRequestId op
      (client.perform (asTransport policy) network op).1 := by
  obtain ⟨-, -, performed⟩ | ⟨valid, result, final, last, run, performed⟩ :=
    perform_run (asTransport policy) client network op
  · rw [performed]
    cases op <;> constructor <;> intros <;> contradiction
  · have accepts := perform_accepts (asTransport policy) client network op valid
    have sameId : (plan client.nextRequestId client.options.maximumReadAttempts
        op).request.requestId = client.nextRequestId := by
      rw [plan_request, request_requestId]
    have served := @served_of_answered _ _ _ _ _ _ _ _ _ run (by rwa [sameId])
    rw [performed] at accepts ⊢
    rw [plan_request] at served
    obtain ⟨accepted, remote, -⟩ := accepts
    constructor
    · rintro address length deadline rfl success
      obtain ⟨server, reached, same⟩ := served ((accepted result.data).mp ⟨success, rfl⟩).2 rfl
      refine ⟨server, reached, ?_⟩
      have opcode : Opcode.dataResponse = _ := congrArg Frame.opcode same
      have payload : result.data = _ := congrArg Frame.payload same
      rw [payload]
      exact answer_data valid.2.1 opcode.symm
    · rintro address data deadline rfl success
      obtain ⟨server, reached, same⟩ := served ((accepted result.data).mp ⟨success, rfl⟩).2 rfl
      have opcode : Opcode.writeAcknowledgement = _ := congrArg Frame.opcode same
      obtain ⟨write, authorised⟩ := (answer_acknowledged_iff server _).mp opcode.symm
      have decoded := (decode_ok_iff (wireBytes _) _).mpr
        ⟨valid.encodable client.nextRequestId, rfl⟩
      refine ⟨server, reached, ?_, ?_⟩
      · rw [← reached.policy_eq]
        exact authorised
      · rw [handle_of_decoded server decoded]
        exact after_of_authorised server write authorised
    · intro refused
      obtain ⟨-, answered⟩ := (remote result.remoteStatus result.data).mp ⟨refused, rfl, rfl⟩
      obtain ⟨server, reached, same⟩ := served answered (sameId.trans (request_requestId _ op).symm)
      exact ⟨server, reached, (congrArg Frame.opcode same).symm, congrArg Frame.status same,
        congrArg Frame.payload same⟩

/-- Results are genuine over every network that loses, delays, duplicates, reorders or
detectably damages packets. In every session, a read that succeeds returns the bytes the
memory had at some moment during that very read, a write that succeeds was authorised and
applied during it, and a remote error is the server's own refusal of that request. -/
theorem results_genuine (policy : ServerPolicy) (options : ClientOptions)
    (script : List Decision) (ops : List ClientOp) (op : ClientOp)
    (short : ops.length < 0xFFFFFFFF) :
    let ended := sessionEnd (asTransport policy) (Client.new options)
      (Network.new policy script) ops
    let performed := ended.1.perform (asTransport policy) ended.2 op
    Genuine ended.2 performed.2.2 ended.1.nextRequestId op performed.1 :=
  perform_genuine _ _ op (sessionEnd_fresh policy options script short)

/-- A read whose first response is lost and whose request arrives three times. -/
theorem results_genuine_retried :
    let script : List Decision :=
      [{}, { arrivals := [.sent 0] }, {}, {},
        { arrivals := [.sent 0, .sent 1], returns := .produced 1 }]
    let start := sessionEnd (asTransport {}) (Client.new {}) (Network.new {} script) []
    let performed := start.1.perform (asTransport {}) start.2 (.read 0x40#32 1 50)
    performed.1.error = .none ∧ performed.1.attempts = 2 ∧
      ∃ server, Served start.2 performed.2.2 (readRequest 1#32 0x40#32 1) server ∧
        performed.1.data = [server.memory.byte 0x40] := by
  intro script start performed
  have success : performed.1.error = .none ∧ performed.1.attempts = 2 := by decide +kernel
  have genuine := results_genuine {} {} script [] (.read 0x40#32 1 50) (by decide)
  obtain ⟨server, served, -, data⟩ := genuine.read _ _ _ rfl success.1
  exact ⟨success.1, success.2, server, served, data⟩

/-- An acknowledged write was requested. -/
theorem requested_of_acknowledged {server : MemoryServer} {requests : List (List Byte)}
    {write : Nat × List Byte} (member : write ∈ acknowledgedWrites (server.exchanges requests)) :
    ∃ request, wireBytes request ∈ requests ∧ Encodable request ∧
      request.opcode = .writeRequest ∧ write = (request.address.toNat, request.payload) := by
  rw [acknowledgedWrites, List.mem_filterMap] at member
  obtain ⟨⟨bytes, response⟩, member, acknowledged⟩ := member
  obtain ⟨earlier, later, rfl, rfl⟩ := mem_exchanges member
  cases decoded : (decode bytes).frame with
  | none =>
    rw [acknowledgedWrite, decoded] at acknowledged
    cases acknowledged
  | some request =>
    obtain ⟨valid, rfl⟩ := (decode_ok_iff bytes request).mp decoded
    rw [handle_of_decoded _ decoded, acknowledgedWrite] at acknowledged
    simp only [decoded, reply, decode_answer] at acknowledged
    split at acknowledged
    · rename_i opcode
      refine ⟨request, List.mem_append_right _ List.mem_cons_self, valid, ?_, ?_⟩
      · exact ((answer_acknowledged_iff _ request).mp opcode).1
      · exact (Option.some.inj acknowledged).symm
    · cases acknowledged

/-- Whatever the network does, a byte of the memory that is not the constructor's was put there
by an authorised write of the session. -/
theorem memory_provenance (policy : ServerPolicy) (options : ClientOptions)
    (script : List Decision) (ops : List ClientOp) (index : Nat) :
    let network := (sessionEnd (asTransport policy) (Client.new options)
      (Network.new policy script) ops).2
    network.server.memory.byte index = MemoryMap.initial.byte index ∨
    ∃ address data deadline, .write address data deadline ∈ ops ∧
      WriteAuthorised policy address.toNat data.length ∧
      cell address.toNat data index = some (network.server.memory.byte index) := by
  intro network
  have known := reflects_handleAll policy network.delivered
  rw [← network.server_eq] at known
  have byte := congrFun known.memory index
  rw [replay_apply] at byte
  cases wrote : latest (acknowledgedWrites ((MemoryServer.new policy).exchanges
      network.delivered)) index with
  | none =>
    rw [wrote, Option.getD_none] at byte
    exact .inl byte
  | some value =>
    rw [wrote, Option.getD_some] at byte
    obtain ⟨write, member, put⟩ := exists_of_latest wrote
    have authorised := known.authorised write member
    obtain ⟨request, delivered, valid, opcode, rfl⟩ := requested_of_acknowledged member
    -- a decodable request in the network is one the client sent
    have decoded := (decode_ok_iff (wireBytes request) request).mpr ⟨valid, rfl⟩
    have sent := (network.delivered_sent _ delivered).resolve_right
      (by rw [decoded]; exact Option.some_ne_none request)
    rcases sessionEnd_sent _ _ ops _ sent with none | ⟨position, op, found, -, same⟩
    · cases none
    · obtain rfl := wireBytes_injective same
      cases op with
      | read => cases opcode
      | write address data deadline =>
        rw [byte]
        exact .inr ⟨address, data, deadline, List.mem_of_getElem? found, authorised, put⟩

end Imlp
