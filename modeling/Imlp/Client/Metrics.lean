import Mathlib.Algebra.GroupWithZero.Nat
import Imlp.Client.Discipline

/-!
# The metrics account for what happened

The six counters of `ClientMetrics` are bumped at scattered points of `src/client.cpp`. Here
each operation has one entry, read off its calls and its result alone, and `Client.Run` shows
that the counters move by exactly that entry on every path of the retry loop. Over a session
the counters are the sums of the entries, modulo `2 ^ 64` as `std::uint64_t` counts.
-/

namespace Imlp
namespace Client

variable {σ : Type}

/-- Whether a call opens the transport. -/
def isConnect : Call → Bool
  | .connect _ => true
  | _ => false

/-- Whether a call is an exchange that timed out. -/
def isTimeout : Call → Bool
  | .exchange _ _ reply => reply.error = .timeout
  | _ => false

/-- Whether an operation failed because of the content of a reply. -/
def isProtocolError (error : ClientError) : Bool :=
  error = .malformedResponse || error = .correlationMismatch || error = .unexpectedResponse

/-- The counters after attempts that made some calls, started some retries and ended with an
error. -/
def charge (metrics : ClientMetrics) (calls : List Call) (retries : Nat) (error : ClientError) :
    ClientMetrics where
  operations := metrics.operations
  transportAttempts := metrics.transportAttempts + BitVec.ofNat 64 (exchangeCount calls)
  reconnects := metrics.reconnects + BitVec.ofNat 64 (calls.countP isConnect)
  retries := metrics.retries + BitVec.ofNat 64 retries
  timeouts := metrics.timeouts + BitVec.ofNat 64 (calls.countP isTimeout)
  protocolErrors := metrics.protocolErrors + BitVec.ofNat 64 (isProtocolError error).toNat

/-- Attempts that go on are charged piece by piece. -/
theorem charge_charge (metrics : ClientMetrics) (calls more : List Call) (retries later : Nat)
    (error : ClientError) :
    charge (charge metrics calls retries .none) more later error =
      charge metrics (calls ++ more) (retries + later) error := by
  have nothing : (isProtocolError .none).toNat = 0 := rfl
  simp only [charge, exchangeCount_append, List.countP_append, BitVec.ofNat_add, nothing,
    BitVec.add_assoc]
  simp

theorem settle_metrics (client : Client) (error : ClientError) :
    (client.settle error).metrics = charge client.metrics [] 0 error := by
  cases error <;> simp [settle, charge, count, isProtocolError]

theorem Verdict.attempts_eq {request : Frame} {response : List Byte} {opcode : Opcode}
    {length attempts : Nat} {result : OperationResult}
    (verdict : Verdict request response opcode length attempts result) :
    result.attempts = attempts := by
  cases verdict <;> rfl

theorem Verdict.error_ne_connectFailed {request : Frame} {response : List Byte} {opcode : Opcode}
    {length attempts : Nat} {result : OperationResult}
    (verdict : Verdict request response opcode length attempts result) :
    result.error ≠ .connectFailed := by
  cases verdict <;> nofun

theorem failureOf_ne_connectFailed (error : TransportError) :
    failureOf error ≠ .connectFailed := by
  cases error <;> decide

section Run

variable {transport : ITransport σ} {plan : Plan} {attempt : Nat}
  {client opened final : Client} {state ready last : σ} {opening calls : List Call}
  {result : OperationResult}

theorem Opens.metrics (opens : Opens transport client state opening opened ready) :
    opened.metrics = charge client.metrics opening 0 .none := by
  rw [charge, opens.exchangeCount]
  cases opens with
  | already => simp [isConnect, isTimeout, isProtocolError]
  | reconnected => simp [count, isConnect, isTimeout, isProtocolError]

/-- The counters of an attempt with its exchange: a timeout is counted, nothing else is. -/
theorem Opens.exchange_metrics (opens : Opens transport client state opening opened ready)
    (request : List Byte) (deadline : Int) (reply : TransportReply) :
    (opened.sending.countFailure reply.error).metrics =
      charge client.metrics (opening ++ [.exchange request deadline reply]) 0 .none := by
  have exchanged : (opened.sending.countFailure reply.error).metrics =
      charge opened.metrics [.exchange request deadline reply] 0 .none := by
    by_cases timeout : reply.error = .timeout
    · simp [countFailure, timeout, sending, count, charge, isConnect, isTimeout, isProtocolError]
    · simp [countFailure, timeout, sending, count, charge, isConnect, isTimeout, isProtocolError]
  rw [exchanged, opens.metrics, charge_charge]

/-- Closing the transport costs nothing. -/
theorem charge_close (metrics : ClientMetrics) (calls : List Call) (retries : Nat)
    (error : ClientError) :
    charge metrics (calls ++ [.close]) retries error = charge metrics calls retries error := by
  simp [charge, isConnect, isTimeout]

/-- A transport failure is no protocol error. -/
theorem charge_failureOf (metrics : ClientMetrics) (calls : List Call) (retries : Nat)
    (error : TransportError) :
    charge metrics calls retries (failureOf error) = charge metrics calls retries .none := by
  cases error <;> rfl

/-- The counters move by what the attempts did, on every path through the loop. -/
theorem Run.metrics (run : Run transport plan attempt client state calls result final last) :
    attempt ≤ result.attempts ∧
      final.metrics = charge client.metrics calls (result.attempts - attempt) result.error := by
  induction run with
  | unreachable =>
    refine ⟨Nat.le_refl _, ?_⟩
    rw [Nat.sub_self]
    simp [charge, count, exchangeCount, isExchange, isConnect, isTimeout, isProtocolError]
  | @answered attempt client opened _ _ _ opening reply opens sent ok =>
    obtain ⟨result, verdict, validated⟩ := validateResponse_spec opened.sending plan.request
      reply.bytes plan.expectedOpcode plan.expectedLength attempt
    have exchanged := opens.exchange_metrics (wireBytes plan.request) plan.deadline reply
    have counted : opened.sending.countFailure reply.error = opened.sending := by
      rw [countFailure, ok]
      rfl
    rw [counted] at exchanged
    rw [validated, verdict.attempts_eq, Nat.sub_self, settle_metrics, exchanged, charge_charge,
      List.append_nil]
    exact ⟨Nat.le_refl _, rfl⟩
  | @failed attempt _ _ _ _ _ opening reply opens =>
    refine ⟨Nat.le_refl _, ?_⟩
    rw [opens.exchange_metrics (wireBytes plan.request) plan.deadline reply, Nat.sub_self,
      charge_failureOf, ← charge_close, List.append_assoc]
    rfl
  | @retried attempt client opened _ _ _ _ _ opening calls reply result opens _ _ _ _ ih =>
    obtain ⟨later, metrics⟩ := ih
    have retry : (opened.retrying reply.error).metrics = charge client.metrics
        (opening ++ [.exchange (wireBytes plan.request) plan.deadline reply] ++ [.close]) 1 .none := by
      rw [charge_close, retrying, count,
        opens.exchange_metrics (wireBytes plan.request) plan.deadline reply]
      simp [charge]
    refine ⟨by omega, ?_⟩
    rw [metrics, retry, charge_charge, show 1 + (result.attempts - (attempt + 1)) =
      result.attempts - attempt by omega]
    simp only [List.append_assoc, List.cons_append, List.nil_append]

/-- Attempts are numbered: the last one has made no exchange only if it could not connect. -/
theorem Run.attempts_eq (run : Run transport plan attempt client state calls result final last) :
    exchangeCount calls + attempt + (decide (result.error = .connectFailed)).toNat =
      result.attempts + 1 := by
  induction run with
  | unreachable => simp [exchangeCount, isExchange]
  | @answered attempt _ opened _ _ _ _ reply opens =>
    have verdict := validateResponse_verdict opened.sending plan.request reply.bytes
      plan.expectedOpcode plan.expectedLength attempt
    rw [verdict.attempts_eq, decide_eq_false verdict.error_ne_connectFailed]
    rw [opens.exchangeCount_attempt, exchangeCount_nil, Bool.toNat_false]
    omega
  | @failed attempt _ _ _ _ _ _ reply opens =>
    rw [opens.exchangeCount_attempt, exchangeCount_close, exchangeCount_nil,
      decide_eq_false (failureOf_ne_connectFailed reply.error), Bool.toNat_false]
    dsimp only
    omega
  | retried opens _ _ _ _ ih =>
    rw [opens.exchangeCount_attempt, exchangeCount_close]
    omega

end Run

/-- The counters after an operation, from its calls and its result. -/
def enter (metrics : ClientMetrics) (outcome : Outcome) : ClientMetrics :=
  charge { metrics with operations := metrics.operations + 1#64 } outcome.calls
    (outcome.result.attempts - 1) outcome.result.error

theorem perform_metrics (transport : ITransport σ) (client : Client) (state : σ) (op : ClientOp) :
    (client.perform transport state op).2.1.metrics =
      enter client.metrics
        { op := op
          result := (client.perform transport state op).1
          calls := client.calls transport state op } := by
  obtain ⟨-, none, performed⟩ | ⟨-, result, final, last, run, performed⟩ :=
    perform_run transport client state op
  · rw [none, performed]
    cases op <;> simp [enter, charge, rejection, begin, count, allocateRequestId, isProtocolError]
  · rw [performed]
    exact run.metrics.2

/-- The exchanges of an operation are its attempts, without one that could not connect. -/
theorem perform_attempts (transport : ITransport σ) (client : Client) (state : σ)
    (op : ClientOp) :
    exchangeCount (client.calls transport state op) +
        (decide ((client.perform transport state op).1.error = .connectFailed)).toNat =
      (client.perform transport state op).1.attempts := by
  obtain ⟨-, none, performed⟩ | ⟨-, result, final, last, run, performed⟩ :=
    perform_run transport client state op
  · rw [none, performed]
    cases op <;> rfl
  · have attempts := run.attempts_eq
    rw [performed]
    dsimp only
    omega

/-- The client and the transport state at the end of a session. -/
def sessionEnd (transport : ITransport σ) : Client → σ → List ClientOp → Client × σ
  | client, state, [] => (client, state)
  | client, state, op :: ops =>
    let (_, next, after) := client.perform transport state op
    sessionEnd transport next after ops

theorem session_cons (transport : ITransport σ) (client : Client) (state : σ) (op : ClientOp)
    (ops : List ClientOp) :
    session transport client state (op :: ops) =
      { op := op
        result := (client.perform transport state op).1
        calls := client.calls transport state op } ::
      session transport (client.perform transport state op).2.1
        (client.perform transport state op).2.2 ops := rfl

theorem session_length (transport : ITransport σ) (client : Client) (state : σ)
    (ops : List ClientOp) : (session transport client state ops).length = ops.length := by
  induction ops generalizing client state with
  | nil => rfl
  | cons op ops ih => rw [session_cons, List.length_cons, ih, List.length_cons]

/-- The entries of a session, one after the other. -/
theorem sessionEnd_metrics (transport : ITransport σ) (client : Client) (state : σ)
    (ops : List ClientOp) :
    (sessionEnd transport client state ops).1.metrics =
      (session transport client state ops).foldl enter client.metrics := by
  induction ops generalizing client state with
  | nil => rfl
  | cons op ops ih =>
    rw [sessionEnd, ih, perform_metrics, session, List.foldl_cons]

/-- The counters are the sums of what the outcomes show. The retries of an operation are its
attempts after the first one; the subtraction of natural numbers stops at zero. -/
structure Accounts (metrics : ClientMetrics) (outcomes : List Outcome) : Prop where
  operations : metrics.operations = BitVec.ofNat 64 outcomes.length
  exchanges : metrics.transportAttempts =
    BitVec.ofNat 64 (outcomes.map (fun outcome => exchangeCount outcome.calls)).sum
  attempts : metrics.transportAttempts =
    BitVec.ofNat 64 (outcomes.map (fun outcome => outcome.result.attempts)).sum -
      BitVec.ofNat 64 (outcomes.countP (fun outcome => outcome.result.error = .connectFailed))
  retries : metrics.retries =
    BitVec.ofNat 64 (outcomes.map (fun outcome => outcome.result.attempts - 1)).sum
  reconnects : metrics.reconnects =
    BitVec.ofNat 64 (outcomes.map (fun outcome => outcome.calls.countP isConnect)).sum
  timeouts : metrics.timeouts =
    BitVec.ofNat 64 (outcomes.map (fun outcome => outcome.calls.countP isTimeout)).sum
  protocolErrors : metrics.protocolErrors =
    BitVec.ofNat 64 (outcomes.countP (fun outcome => isProtocolError outcome.result.error))

/-- Folding the entries adds up every counter. -/
theorem foldl_enter (metrics : ClientMetrics) (outcomes : List Outcome) :
    outcomes.foldl enter metrics =
      { operations := metrics.operations + BitVec.ofNat 64 outcomes.length
        transportAttempts := metrics.transportAttempts +
          BitVec.ofNat 64 (outcomes.map (fun outcome => exchangeCount outcome.calls)).sum
        reconnects := metrics.reconnects +
          BitVec.ofNat 64 (outcomes.map (fun outcome => outcome.calls.countP isConnect)).sum
        retries := metrics.retries +
          BitVec.ofNat 64 (outcomes.map (fun outcome => outcome.result.attempts - 1)).sum
        timeouts := metrics.timeouts +
          BitVec.ofNat 64 (outcomes.map (fun outcome => outcome.calls.countP isTimeout)).sum
        protocolErrors := metrics.protocolErrors +
          BitVec.ofNat 64 (outcomes.countP
            (fun outcome => isProtocolError outcome.result.error)) } := by
  induction outcomes generalizing metrics with
  | nil => simp
  | cons outcome outcomes ih =>
    have errors : (outcome :: outcomes).countP (fun outcome => isProtocolError outcome.result.error) =
        (isProtocolError outcome.result.error).toNat +
          outcomes.countP (fun outcome => isProtocolError outcome.result.error) := by
      rw [List.countP_cons, Nat.add_comm]
      cases isProtocolError outcome.result.error <;> rfl
    rw [List.foldl_cons, ih, errors]
    simp only [enter, charge, List.length_cons, List.map_cons, List.sum_cons, BitVec.ofNat_add,
      BitVec.add_assoc]
    rw [BitVec.add_comm 1#64]

/-- The exchanges of a session are the attempts it reports, without those that could not
connect. -/
theorem session_attempts (transport : ITransport σ) (client : Client) (state : σ)
    (ops : List ClientOp) :
    ((session transport client state ops).map (fun outcome => exchangeCount outcome.calls)).sum +
        (session transport client state ops).countP
          (fun outcome => outcome.result.error = .connectFailed) =
      ((session transport client state ops).map (fun outcome => outcome.result.attempts)).sum := by
  induction ops generalizing client state with
  | nil => rfl
  | cons op ops ih =>
    have first := perform_attempts transport client state op
    have others := ih (client.perform transport state op).2.1 (client.perform transport state op).2.2
    rw [session_cons, List.map_cons, List.map_cons, List.sum_cons, List.sum_cons,
      List.countP_cons, ← others, ← first]
    dsimp only
    split
    · rename_i refused
      rw [refused, Bool.toNat_true]
      omega
    · rename_i connected
      rw [Bool.not_eq_true] at connected
      rw [connected, Bool.toNat_false]
      omega

/-- The metrics account exactly for what happened, over every session of a fresh client. -/
theorem metrics_account (transport : ITransport σ) (options : ClientOptions) (state : σ)
    (ops : List ClientOp) :
    (session transport (Client.new options) state ops).length = ops.length ∧
      Accounts (sessionEnd transport (Client.new options) state ops).1.metrics
        (session transport (Client.new options) state ops) := by
  have metrics := sessionEnd_metrics transport (Client.new options) state ops
  have attempts := session_attempts transport (Client.new options) state ops
  rw [foldl_enter] at metrics
  refine ⟨session_length transport (Client.new options) state ops, ?_⟩
  rw [metrics]
  refine ⟨BitVec.zero_add _, BitVec.zero_add _, ?_, BitVec.zero_add _, BitVec.zero_add _,
    BitVec.zero_add _, BitVec.zero_add _⟩
  rw [← attempts, BitVec.ofNat_add, BitVec.add_sub_cancel]
  exact BitVec.zero_add _

end Client

end Imlp
