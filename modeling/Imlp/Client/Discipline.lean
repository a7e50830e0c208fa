import Imlp.Client.Acceptance

/-!
# The retry discipline

What the client does to any transport, over whole sessions: how many exchanges an operation
makes, what they carry, what comes right before and right after each of them, and what a
transport failure in the result says about them (`docs/adr/0003-retry-policy.md`).
-/

namespace Imlp
namespace Client

variable {σ : Type} {transport : ITransport σ}

/-- Whether a call is an exchange. -/
def isExchange : Call → Bool
  | .exchange _ _ _ => true
  | _ => false

/-- The number of exchanges among some calls. -/
def exchangeCount (calls : List Call) : Nat := calls.countP isExchange

@[simp] theorem exchangeCount_nil : exchangeCount [] = 0 := rfl

@[simp] theorem exchangeCount_exchange (request : List Byte) (deadline : Int)
    (reply : TransportReply) (calls : List Call) :
    exchangeCount (.exchange request deadline reply :: calls) = exchangeCount calls + 1 :=
  List.countP_cons_of_pos rfl

@[simp] theorem exchangeCount_close (calls : List Call) :
    exchangeCount (.close :: calls) = exchangeCount calls :=
  List.countP_cons_of_neg nofun

@[simp] theorem exchangeCount_append (front back : List Call) :
    exchangeCount (front ++ back) = exchangeCount front + exchangeCount back :=
  List.countP_append

section Run

variable {plan : Plan} {attempt : Nat} {client opened final : Client} {state ready last : σ}
  {opening calls : List Call} {result : OperationResult}

theorem Opens.exchangeCount (opens : Opens transport client state opening opened ready) :
    exchangeCount opening = 0 := by
  cases opens <;> rfl

/-- An attempt that gets to its exchange counts for one. -/
theorem Opens.exchangeCount_attempt (opens : Opens transport client state opening opened ready)
    (request : List Byte) (deadline : Int) (reply : TransportReply) (calls : List Call) :
    Client.exchangeCount (opening ++ .exchange request deadline reply :: calls) =
      Client.exchangeCount calls + 1 := by
  rw [exchangeCount_append, opens.exchangeCount, Nat.zero_add, exchangeCount_exchange]

/-- Opening a connection ends with a positive answer. -/
theorem Opens.ends (opens : Opens transport client state opening opened ready) :
    ∃ earlier opener, opening = earlier ++ [opener] ∧
      (opener = .connected true ∨ opener = .connect true) := by
  cases opens with
  | already => exact ⟨[], _, rfl, .inl rfl⟩
  | reconnected => exact ⟨[.connected false], _, rfl, .inr rfl⟩

/-- An exchange after an opening is not part of it. -/
theorem Opens.split (opens : Opens transport client state opening opened ready)
    {tail before after : List Call} {request : List Byte} {deadline : Int} {reply : TransportReply}
    (split : opening ++ tail = before ++ .exchange request deadline reply :: after) :
    ∃ middle, before = opening ++ middle ∧
      tail = middle ++ .exchange request deadline reply :: after := by
  rcases List.append_eq_append_iff.mp split with ⟨middle, rfl, same⟩ | ⟨middle, rfl, same⟩
  · exact ⟨middle, rfl, same⟩
  · cases middle with
    | nil => exact ⟨[], by rw [List.append_nil, List.append_nil], by simpa using same.symm⟩
    | cons call middle =>
      rw [List.cons_append, List.cons.injEq] at same
      obtain ⟨rfl, -⟩ := same
      exact absurd (List.mem_append_right _ List.mem_cons_self) opens.not_exchange

/-- Where an exchange of an operation stands: right after a positive answer to `connected` or
`connect`, with `close` right after it if it failed and nothing after it if it did not. -/
structure Placed (before : List Call) (reply : TransportReply) (after : List Call) : Prop where
  opened : ∃ earlier opener, before = earlier ++ [opener] ∧
    (opener = .connected true ∨ opener = .connect true)
  closed : reply.error ≠ .none → ∃ rest, after = .close :: rest
  final : reply.error = .none → after = []

theorem Run.placed (run : Run transport plan attempt client state calls result final last)
    {before after : List Call} {request : List Byte} {deadline : Int} {reply : TransportReply}
    (split : calls = before ++ .exchange request deadline reply :: after) :
    request = wireBytes plan.request ∧ deadline = plan.deadline ∧ Placed before reply after := by
  induction run generalizing before with
  | unreachable =>
    have member : Call.exchange request deadline reply ∈
        [Call.connected false, Call.connect false] := by
      rw [split]
      exact List.mem_append_right _ List.mem_cons_self
    simp at member
  | answered opens sent ok =>
    obtain ⟨middle, rfl, tail⟩ := opens.split split
    cases middle with
    | nil =>
      rw [List.nil_append, List.cons.injEq, Call.exchange.injEq] at tail
      obtain ⟨⟨rfl, rfl, rfl⟩, rfl⟩ := tail
      refine ⟨rfl, rfl, ?_, fun fails => absurd ok fails, fun _ => rfl⟩
      rw [List.append_nil]
      exact opens.ends
    | cons call middle => simp at tail
  | failed opens sent fails =>
    obtain ⟨middle, rfl, tail⟩ := opens.split split
    cases middle with
    | nil =>
      rw [List.nil_append, List.cons.injEq, Call.exchange.injEq] at tail
      obtain ⟨⟨rfl, rfl, rfl⟩, rfl⟩ := tail
      refine ⟨rfl, rfl, ?_, fun _ => ⟨[], rfl⟩, fun ok => absurd ok fails⟩
      rw [List.append_nil]
      exact opens.ends
    | cons call middle =>
      rw [List.cons_append, List.cons.injEq] at tail
      cases middle with
      | nil => simp at tail
      | cons next middle => simp at tail
  | @retried _ _ _ _ _ _ _ _ opening calls failure _ opens sent fails _ _ ih =>
    obtain ⟨middle, rfl, tail⟩ := opens.split split
    cases middle with
    | nil =>
      rw [List.nil_append, List.cons.injEq, Call.exchange.injEq] at tail
      obtain ⟨⟨rfl, rfl, rfl⟩, rfl⟩ := tail
      refine ⟨rfl, rfl, ?_, fun _ => ⟨calls, rfl⟩, fun ok => absurd ok fails⟩
      rw [List.append_nil]
      exact opens.ends
    | cons call middle =>
      rw [List.cons_append, List.cons.injEq] at tail
      obtain ⟨rfl, tail⟩ := tail
      cases middle with
      | nil => simp at tail
      | cons next middle =>
        rw [List.cons_append, List.cons.injEq] at tail
        obtain ⟨rfl, tail⟩ := tail
        obtain ⟨sameRequest, sameDeadline, ⟨earlier, opener, rfl, positive⟩, closed, final⟩ :=
          ih tail
        refine ⟨sameRequest, sameDeadline, ?_, closed, final⟩
        exact ⟨opening ++ .exchange (wireBytes plan.request) plan.deadline failure :: .close ::
          earlier, opener, by simp, positive⟩

theorem Run.exchangeCount_le (run : Run transport plan attempt client state calls result final last)
    (within : attempt ≤ plan.bound) : exchangeCount calls + attempt ≤ plan.bound + 1 := by
  induction run with
  | @unreachable attempt =>
    have none : exchangeCount [.connected false, .connect false] = 0 := rfl
    omega
  | answered opens =>
    rw [opens.exchangeCount_attempt, exchangeCount_nil]
    omega
  | failed opens =>
    rw [opens.exchangeCount_attempt, exchangeCount_close, exchangeCount_nil]
    omega
  | retried opens _ _ more _ ih =>
    have rest := ih more
    rw [opens.exchangeCount_attempt, exchangeCount_close]
    omega

/-- A run that ends in a transport failure has used all attempts, and its error is the one of
the last exchange. -/
theorem Run.exhausted (run : Run transport plan attempt client state calls result final last)
    (failed : result.error = .timeout ∨ result.error = .disconnected) :
    exchangeCount calls + attempt = plan.bound + 1 ∧
      ∃ before request deadline reply,
        calls = before ++ [.exchange request deadline reply, .close] ∧ reply.error ≠ .none ∧
        (result.error = .timeout ↔ reply.error = .timeout) := by
  induction run with
  | unreachable => rcases failed with impossible | impossible <;> cases impossible
  | @answered attempt _ opened _ _ _ _ reply =>
    have verdict := validateResponse_verdict opened.sending plan.request reply.bytes
      plan.expectedOpcode plan.expectedLength attempt
    generalize (opened.sending.validateResponse plan.request reply.bytes plan.expectedOpcode
      plan.expectedLength attempt).1 = result at verdict failed
    cases verdict <;> rcases failed with impossible | impossible <;> cases impossible
  | @failed attempt _ _ _ _ _ opening reply opens _ fails last =>
    refine ⟨?_, opening, _, _, reply, rfl, fails, ?_⟩
    · rw [opens.exchangeCount_attempt, exchangeCount_close, exchangeCount_nil]
      omega
    · simp only [failureOf]
      split
      · exact ⟨fun _ => by assumption, fun _ => rfl⟩
      · exact ⟨nofun, fun timeout => absurd timeout (by assumption)⟩
  | @retried _ _ _ _ _ _ _ _ opening calls failure _ opens _ _ _ _ ih =>
    obtain ⟨count, before, request, deadline, reply, rfl, fails, reflects⟩ := ih failed
    refine ⟨?_, opening ++ .exchange (wireBytes plan.request) plan.deadline failure :: .close ::
      before, request, deadline, reply, by simp, fails, reflects⟩
    rw [opens.exchangeCount_attempt, exchangeCount_close]
    omega

/-- The three ways a run ends: no connection, a reply that was validated, or a last failure. -/
theorem Run.ending (run : Run transport plan attempt client state calls result final last) :
    (result.error = .connectFailed ∧ result.detail = "transport connect failed") ∨
    (∃ response attempts,
      Verdict plan.request response plan.expectedOpcode plan.expectedLength attempts result) ∨
    (∃ error, result.error = failureOf error ∧ result.detail = plan.describe error) := by
  induction run with
  | unreachable => exact .inl ⟨rfl, rfl⟩
  | answered => exact .inr (.inl ⟨_, _, validateResponse_verdict _ _ _ _ _ _⟩)
  | failed => exact .inr (.inr ⟨_, rfl, rfl⟩)
  | retried _ _ _ _ _ ih => exact ih

theorem validateResponse_keeps (client : Client) (request : Frame) (response : List Byte)
    (opcode : Opcode) (length attempts : Nat) :
    (client.validateResponse request response opcode length attempts).2.options =
        client.options ∧
      (client.validateResponse request response opcode length attempts).2.nextRequestId =
        client.nextRequestId := by
  obtain ⟨result, -, validated⟩ :=
    validateResponse_spec client request response opcode length attempts
  rw [validated]
  simp only [settle]
  split <;> exact ⟨rfl, rfl⟩

theorem countFailure_nextRequestId (client : Client) (error : TransportError) :
    (client.countFailure error).nextRequestId = client.nextRequestId := by
  unfold countFailure
  split <;> rfl

theorem Opens.nextRequestId (opens : Opens transport client state opening opened ready) :
    opened.nextRequestId = client.nextRequestId := by
  cases opens <;> rfl

/-- The attempts of an operation change no option and consume no identifier. -/
theorem Run.keeps (run : Run transport plan attempt client state calls result final last) :
    final.options = client.options ∧ final.nextRequestId = client.nextRequestId := by
  induction run with
  | unreachable => exact ⟨rfl, rfl⟩
  | answered opens =>
    obtain ⟨options, identifier⟩ := validateResponse_keeps _ _ _ _ _ _
    exact ⟨options.trans opens.options, identifier.trans opens.nextRequestId⟩
  | failed opens =>
    exact ⟨(countFailure_options _ _).trans opens.options,
      (countFailure_nextRequestId _ _).trans opens.nextRequestId⟩
  | retried opens _ _ _ _ ih =>
    exact ⟨ih.1.trans ((countFailure_options _ _).trans opens.options),
      ih.2.trans ((countFailure_nextRequestId _ _).trans opens.nextRequestId)⟩

end Run

theorem failureOf_ne_encodingFailed (error : TransportError) :
    failureOf error ≠ .encodingFailed := by
  cases error <;> decide

theorem plan_describe_ne_exhausted (requestId : BitVec 32) (bound : Nat) (op : ClientOp)
    (error : TransportError) :
    (plan requestId bound op).describe error ≠ "read attempts exhausted" := by
  cases op with
  | read =>
    change transportErrorName error ≠ _
    cases error <;> decide
  | write =>
    change "write not retried: " ++ transportErrorName error ≠ _
    cases error <;> decide

theorem codecErrorName_ne_exhausted (error : CodecError) :
    codecErrorName error ≠ "read attempts exhausted" := by
  cases error <;> decide

theorem Verdict.detail_ne_exhausted {request : Frame} {response : List Byte} {opcode : Opcode}
    {length attempts : Nat} {result : OperationResult}
    (verdict : Verdict request response opcode length attempts result) :
    result.detail ≠ "read attempts exhausted" := by
  cases verdict with
  | malformed => exact codecErrorName_ne_exhausted _
  | mismatch =>
    change "response request ID or address did not match" ≠ "read attempts exhausted"
    decide
  | remote =>
    change "remote request rejected" ≠ "read attempts exhausted"
    decide
  | unexpected =>
    change "response opcode or payload length did not match" ≠ "read attempts exhausted"
    decide
  | accepted =>
    change "ok" ≠ "read attempts exhausted"
    decide

/-- An operation changes no option and consumes exactly one identifier. -/
theorem perform_keeps (transport : ITransport σ) (client : Client) (state : σ) (op : ClientOp) :
    (client.perform transport state op).2.1.options = client.options ∧
      (client.perform transport state op).2.1.nextRequestId =
        followingId client.nextRequestId := by
  obtain ⟨-, -, performed⟩ | ⟨-, result, final, last, run, performed⟩ :=
    perform_run transport client state op
  · rw [performed]
    exact ⟨rfl, rfl⟩
  · rw [performed]
    exact run.keeps

/-- An operation of a session with its result and its calls. -/
structure Outcome where
  op : ClientOp
  result : OperationResult
  calls : List Call

/-- The operations of a session, one after the other. -/
def session (transport : ITransport σ) : Client → σ → List ClientOp → List Outcome
  | _, _, [] => []
  | client, state, op :: ops =>
    let (result, next, after) := client.perform transport state op
    { op := op, result := result, calls := client.calls transport state op } ::
      session transport next after ops

/-- A rule for sessions: what holds of every operation of a client with an invariant that
operations keep, holds of all outcomes. -/
theorem session_forall (transport : ITransport σ) (invariant : Client → Prop)
    {property : Outcome → Prop}
    (kept : ∀ client state op, invariant client →
      invariant (client.perform transport state op).2.1)
    (each : ∀ client state op, invariant client →
      property { op := op, result := (client.perform transport state op).1,
                 calls := client.calls transport state op })
    {client : Client} (initially : invariant client) (state : σ) (ops : List ClientOp) :
    ∀ outcome ∈ session transport client state ops, property outcome := by
  induction ops generalizing client state with
  | nil =>
    intro outcome member
    cases List.not_mem_nil member
  | cons op ops ih =>
    intro outcome member
    rw [session, List.mem_cons] at member
    rcases member with rfl | later
    · exact each client state op initially
    · exact ih (kept client state op initially) _ outcome later

/-- What every operation of a client with a given bound of read attempts keeps to. -/
structure Disciplined (bound : Nat) (outcome : Outcome) : Prop where
  rejected : ¬ outcome.op.Valid → outcome.calls = []
  writeOnce : ∀ address data deadline, outcome.op = .write address data deadline →
    exchangeCount outcome.calls ≤ 1
  readBounded : ∀ address length deadline, outcome.op = .read address length deadline →
    exchangeCount outcome.calls ≤ bound
  identical : ∀ request deadline reply, Call.exchange request deadline reply ∈ outcome.calls →
    encode (outcome.op.request outcome.result.requestId) = { bytes := request }
  placed : ∀ before request deadline reply after,
    outcome.calls = before ++ .exchange request deadline reply :: after →
    Placed before reply after
  exhausted : ∀ address length deadline, outcome.op = .read address length deadline →
    outcome.result.error = .timeout ∨ outcome.result.error = .disconnected →
    exchangeCount outcome.calls = bound ∧
      ∃ before request deadline reply,
        outcome.calls = before ++ [.exchange request deadline reply, .close] ∧
        reply.error ≠ .none ∧ (outcome.result.error = .timeout ↔ reply.error = .timeout)
  encoded : outcome.result.error ≠ .encodingFailed
  reachable : outcome.result.detail ≠ "read attempts exhausted"

theorem disciplined_rejection (bound : Nat) (requestId : BitVec 32) (op : ClientOp) :
    Disciplined bound { op := op, result := rejection requestId op, calls := [] } where
  rejected _ := rfl
  writeOnce _ _ _ _ := Nat.zero_le _
  readBounded _ _ _ _ := Nat.zero_le _
  identical _ _ _ member := absurd member List.not_mem_nil
  placed _ _ _ _ _ split := by simp at split
  exhausted _ _ _ _ failed := by
    cases op <;> rcases failed with impossible | impossible <;> cases impossible
  encoded := by cases op <;> nofun
  reachable := by
    cases op with
    | read =>
      change "read length and deadline must be positive and bounded" ≠ "read attempts exhausted"
      decide
    | write =>
      change "write payload and deadline must be positive and bounded" ≠
        "read attempts exhausted"
      decide

theorem disciplined_run {op : ClientOp} (valid : op.Valid) {bound : Nat} (positive : 1 ≤ bound)
    {requestId : BitVec 32} {client final : Client} {state last : σ} {calls : List Call}
    {result : OperationResult}
    (run : Run transport (plan requestId bound op) 1 client state calls result final last) :
    Disciplined bound { op := op, result := result, calls := calls } := by
  have sameId : result.requestId = requestId := by
    rw [run.requestId, plan_request, request_requestId]
  have within : 1 ≤ (plan requestId bound op).bound := by
    cases op
    · exact positive
    · exact Nat.le_refl 1
  have count := run.exchangeCount_le within
  refine ⟨fun invalid => absurd valid invalid, ?_, ?_, ?_, ?_, ?_, ?_, ?_⟩
  · rintro address data deadline rfl
    simpa [plan] using count
  · rintro address length deadline rfl
    simpa [plan] using count
  · intro request deadline reply member
    obtain ⟨before, after, split⟩ := List.append_of_mem member
    rw [(run.placed split).1, plan_request, sameId]
    exact encode_eq_of_encodable (valid.encodable requestId)
  · intro before request deadline reply after split
    exact (run.placed split).2.2
  · rintro address length deadline rfl failed
    obtain ⟨all, reflects⟩ := run.exhausted failed
    exact ⟨by simpa [plan] using all, reflects⟩
  · rcases run.ending with ⟨failed, -⟩ | ⟨response, attempts, verdict⟩ | ⟨error, failed, -⟩
    · simp [failed]
    · intro impossible
      cases verdict <;> cases impossible
    · simp only [failed]
      exact failureOf_ne_encodingFailed error
  · rcases run.ending with ⟨-, detail⟩ | ⟨response, attempts, verdict⟩ | ⟨error, -, detail⟩
    · simp only [detail]
      decide
    · exact verdict.detail_ne_exhausted
    · simp only [detail]
      exact plan_describe_ne_exhausted _ _ _ _

theorem perform_disciplined (transport : ITransport σ) (client : Client) (state : σ)
    (op : ClientOp) :
    Disciplined client.options.maximumReadAttempts
      { op := op
        result := (client.perform transport state op).1
        calls := client.calls transport state op } := by
  obtain ⟨-, none, performed⟩ | ⟨valid, result, final, last, run, performed⟩ :=
    perform_run transport client state op
  · rw [none, performed]
    exact disciplined_rejection _ _ op
  · rw [performed]
    exact disciplined_run valid client.attempts_pos run

/-- The retry discipline against any transport, over every session of a client constructed
with any options. -/
theorem retry_discipline (transport : ITransport σ) (options : ClientOptions) (state : σ)
    (ops : List ClientOp) :
    ∀ outcome ∈ session transport (Client.new options) state ops,
      Disciplined (max 1 options.maximumReadAttempts) outcome := by
  have initially : (Client.new options).options.maximumReadAttempts =
      max 1 options.maximumReadAttempts := rfl
  refine session_forall transport
    (fun client => client.options.maximumReadAttempts = max 1 options.maximumReadAttempts)
    ?_ ?_ initially state ops
  · intro client state op bound
    rw [(perform_keeps transport client state op).1, bound]
  · intro client state op bound
    rw [← bound]
    exact perform_disciplined transport client state op

/-- A transport that is always connected and never answers. -/
def unresponsive : ITransport Unit where
  connect state := (true, state)
  close state := state
  connected state := (true, state)
  exchange _ _ state := ({ error := .timeout }, state)

/-- A read over an unresponsive transport, with the bound clamped from zero to one attempt. -/
theorem retry_discipline_unresponsive :
    ∃ outcome ∈ session unresponsive (Client.new { maximumReadAttempts := 0 }) ()
        [.read 0x100#32 4 50],
      outcome.calls = [.connected true,
        .exchange (wireBytes (readRequest 1#32 0x100#32 4)) 50 { error := .timeout }, .close] ∧
      Disciplined 1 outcome := by
  have disciplined := retry_discipline unresponsive { maximumReadAttempts := 0 } ()
    [.read 0x100#32 4 50]
  refine ⟨_, List.mem_cons_self, ?_, disciplined _ List.mem_cons_self⟩
  have encoded := encode_eq_of_encodable (readRequest_encodable 1#32 0x100#32 4)
  simp [calls, perform, read, executeRead, readAttempts, ensureConnected, encoded, unresponsive,
    ITransport.logged, EncodeResult.toBool, TransportReply.toBool, allocateRequestId, new, count,
    countFailure, maximumPayloadSize]

end Client

end Imlp
