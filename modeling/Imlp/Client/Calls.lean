import Imlp.Client
import Imlp.Codec.RoundTrip

/-!
# What an operation does to its transport

The transport is an adversary: it chooses every answer. `ITransport.logged` is the same
transport with a log of all calls and their answers, so that the calls of an operation can be
spoken of. Once its arguments are checked, a write is a read loop of one attempt with another
expected reply. `Run` describes both: one constructor for each way an attempt can end.
`perform_cases` is the specification of the two operations that all results about the client
rest on.
-/

namespace Imlp

/-- A call of a transport method with its answer. -/
inductive Call where
  | connected (answer : Bool)
  | connect (answer : Bool)
  | close
  | exchange (request : List Byte) (deadline : Int) (reply : TransportReply)
  deriving DecidableEq, Repr

/-- A transport that also keeps a log of its calls. -/
def ITransport.logged {σ : Type} (transport : ITransport σ) : ITransport (σ × List Call) where
  connect state :=
    let (answer, next) := transport.connect state.1
    (answer, next, state.2 ++ [.connect answer])
  close state := (transport.close state.1, state.2 ++ [.close])
  connected state :=
    let (answer, next) := transport.connected state.1
    (answer, next, state.2 ++ [.connected answer])
  exchange request deadline state :=
    let (reply, next) := transport.exchange request deadline state.1
    (reply, next, state.2 ++ [.exchange request deadline reply])

/-- The two operations of a client with their arguments. -/
inductive ClientOp where
  | read (address : BitVec 32) (length : Nat) (deadline : Int)
  | write (address : BitVec 32) (data : List Byte) (deadline : Int)
  deriving DecidableEq, Repr

/-- The arguments the client accepts. -/
def ClientOp.Valid : ClientOp → Prop
  | .read _ length deadline => 0 < length ∧ length ≤ maximumPayloadSize ∧ 0 < deadline
  | .write _ data deadline => data ≠ [] ∧ data.length ≤ maximumPayloadSize ∧ 0 < deadline

instance (op : ClientOp) : Decidable op.Valid := by
  cases op <;> exact inferInstanceAs (Decidable (_ ∧ _))

/-- The request frame of an operation. -/
def ClientOp.request (requestId : BitVec 32) : ClientOp → Frame
  | .read address length _ => Client.readRequest requestId address length
  | .write address data _ => Client.writeRequest requestId address data

theorem readRequest_encodable (requestId address : BitVec 32) (length : Nat) :
    Encodable (Client.readRequest requestId address length) where
  version := rfl
  opcode := rfl
  payload := by simp [Client.readRequest, maximumPayloadSize]
  semantics := (hasValidSemantics_iff _).mpr (.readRequest rfl rfl rfl rfl)

theorem writeRequest_encodable (requestId address : BitVec 32) {data : List Byte}
    (nonempty : data ≠ []) (small : data.length ≤ maximumPayloadSize) :
    Encodable (Client.writeRequest requestId address data) where
  version := rfl
  opcode := rfl
  payload := small
  semantics := (hasValidSemantics_iff _).mpr
    (.writeRequest rfl rfl rfl (List.length_pos_iff.mpr nonempty))

/-- Every request the client builds from valid arguments can be encoded. -/
theorem ClientOp.Valid.encodable {op : ClientOp} (valid : op.Valid) (requestId : BitVec 32) :
    Encodable (op.request requestId) := by
  cases op with
  | read address length deadline => exact readRequest_encodable requestId address length
  | write address data deadline => exact writeRequest_encodable requestId address valid.1 valid.2.1

namespace Client

/-- The attempts an operation may make, and the reply it waits for. -/
structure Plan where
  request : Frame
  expectedOpcode : Opcode
  expectedLength : Nat
  deadline : Int
  bound : Nat
  describe : TransportError → String

/-- The plan of an operation of a client that allows `bound` read attempts. -/
def plan (requestId : BitVec 32) (bound : Nat) : ClientOp → Plan
  | .read address length deadline =>
    { request := readRequest requestId address length
      expectedOpcode := .dataResponse
      expectedLength := length
      deadline := deadline
      bound := bound
      describe := transportErrorName }
  | .write address data deadline =>
    { request := writeRequest requestId address data
      expectedOpcode := .writeAcknowledgement
      expectedLength := 0
      deadline := deadline
      bound := 1
      describe := fun error => "write not retried: " ++ transportErrorName error }

theorem plan_request (requestId : BitVec 32) (bound : Nat) (op : ClientOp) :
    (plan requestId bound op).request = op.request requestId := by
  cases op <;> rfl

variable {σ : Type} (transport : ITransport σ)

/-- Runs one operation. -/
def perform (client : Client) (state : σ) : ClientOp → OperationResult × Client × σ
  | .read address length deadline => client.read transport state address length deadline
  | .write address data deadline => client.write transport state address data deadline

/-- The client after the first two statements of `read` and `write`. -/
def begin (client : Client) : Client :=
  (client.count fun m => { m with operations := m.operations + 1#64 }).allocateRequestId.2

/-- The result of an operation with invalid arguments. -/
def rejection (requestId : BitVec 32) : ClientOp → OperationResult
  | .read _ _ _ =>
    { error := .invalidArgument
      requestId := requestId
      detail := "read length and deadline must be positive and bounded" }
  | .write _ _ _ =>
    { error := .invalidArgument
      requestId := requestId
      detail := "write payload and deadline must be positive and bounded" }

/-- A successful `ensure_connected`. -/
inductive Opens (client : Client) (state : σ) : List Call → Client → σ → Prop
  | already {ready : σ} (up : transport.connected state = (true, ready)) :
      Opens client state [.connected true] client ready
  | reconnected {down ready : σ} (lost : transport.connected state = (false, down))
      (opened : transport.connect down = (true, ready)) :
      Opens client state [.connected false, .connect true]
        (client.count fun m => { m with reconnects := m.reconnects + 1#64 }) ready

/-- The client at the moment of an exchange. -/
def sending (opened : Client) : Client :=
  opened.count fun m => { m with transportAttempts := m.transportAttempts + 1#64 }

/-- The client at the start of the next attempt after a failed exchange. -/
def retrying (opened : Client) (error : TransportError) : Client :=
  (opened.sending.countFailure error).count fun m => { m with retries := m.retries + 1#64 }

/-- The attempts of an operation from number `attempt` on: the calls made, the result, and the
client and the transport state they leave. -/
inductive Run (plan : Plan) :
    Nat → Client → σ → List Call → OperationResult → Client → σ → Prop
  | unreachable {attempt : Nat} {client : Client} {state down refused : σ}
      (lost : transport.connected state = (false, down))
      (failed : transport.connect down = (false, refused)) :
      Run plan attempt client state [.connected false, .connect false]
        { error := .connectFailed
          requestId := plan.request.requestId
          attempts := attempt
          detail := "transport connect failed" }
        (client.count fun m => { m with reconnects := m.reconnects + 1#64 }) refused
  | answered {attempt : Nat} {client opened : Client} {state ready after : σ}
      {opening : List Call} {reply : TransportReply}
      (opens : Opens transport client state opening opened ready)
      (sent : transport.exchange (wireBytes plan.request) plan.deadline ready = (reply, after))
      (ok : reply.error = .none) :
      Run plan attempt client state
        (opening ++ [.exchange (wireBytes plan.request) plan.deadline reply])
        (opened.sending.validateResponse plan.request reply.bytes plan.expectedOpcode
          plan.expectedLength attempt).1
        (opened.sending.validateResponse plan.request reply.bytes plan.expectedOpcode
          plan.expectedLength attempt).2 after
  | failed {attempt : Nat} {client opened : Client} {state ready after : σ}
      {opening : List Call} {reply : TransportReply}
      (opens : Opens transport client state opening opened ready)
      (sent : transport.exchange (wireBytes plan.request) plan.deadline ready = (reply, after))
      (fails : reply.error ≠ .none) (last : attempt = plan.bound) :
      Run plan attempt client state
        (opening ++ [.exchange (wireBytes plan.request) plan.deadline reply, .close])
        { error := failureOf reply.error
          requestId := plan.request.requestId
          attempts := attempt
          detail := plan.describe reply.error }
        (opened.sending.countFailure reply.error) (transport.close after)
  | retried {attempt : Nat} {client opened final : Client} {state ready after last : σ}
      {opening calls : List Call} {reply : TransportReply} {result : OperationResult}
      (opens : Opens transport client state opening opened ready)
      (sent : transport.exchange (wireBytes plan.request) plan.deadline ready = (reply, after))
      (fails : reply.error ≠ .none) (more : attempt < plan.bound)
      (rest : Run plan (attempt + 1) (opened.retrying reply.error) (transport.close after) calls
        result final last) :
      Run plan attempt client state
        (opening ++ .exchange (wireBytes plan.request) plan.deadline reply :: .close :: calls)
        result final last

/-! ## Every operation is a run -/

section Logged

variable (state : σ) (log : List Call)

@[simp] theorem logged_connected : transport.logged.connected (state, log) =
    ((transport.connected state).1, (transport.connected state).2,
      log ++ [.connected (transport.connected state).1]) := rfl

@[simp] theorem logged_connect : transport.logged.connect (state, log) =
    ((transport.connect state).1, (transport.connect state).2,
      log ++ [.connect (transport.connect state).1]) := rfl

@[simp] theorem logged_close : transport.logged.close (state, log) =
    (transport.close state, log ++ [.close]) := rfl

@[simp] theorem logged_exchange (request : List Byte) (deadline : Int) :
    transport.logged.exchange request deadline (state, log) =
      ((transport.exchange request deadline state).1, (transport.exchange request deadline state).2,
        log ++ [.exchange request deadline (transport.exchange request deadline state).1]) := rfl

end Logged

/-- `ensure_connected` succeeds as in `Opens`, or asks twice in vain. -/
theorem ensureConnected_cases (client : Client) (state : σ) :
    (∃ opening opened ready, Opens transport client state opening opened ready ∧
      client.ensureConnected transport state = (true, opened, ready) ∧
      ∀ log, client.ensureConnected transport.logged (state, log) =
        (true, opened, ready, log ++ opening)) ∨
    (∃ down refused, transport.connected state = (false, down) ∧
      transport.connect down = (false, refused) ∧
      client.ensureConnected transport state =
        (false, client.count fun m => { m with reconnects := m.reconnects + 1#64 }, refused) ∧
      ∀ log, client.ensureConnected transport.logged (state, log) =
        (false, client.count fun m => { m with reconnects := m.reconnects + 1#64 }, refused,
          log ++ [.connected false, .connect false])) := by
  rcases asked : transport.connected state with ⟨up, ready⟩
  cases up with
  | true =>
    left
    refine ⟨_, client, ready, .already asked, ?_, ?_⟩
    · simp [ensureConnected, asked]
    · intro log
      simp [ensureConnected, asked]
  | false =>
    rcases opened : transport.connect ready with ⟨answer, after⟩
    cases answer with
    | true =>
      left
      refine ⟨_, _, after, .reconnected asked opened, ?_, ?_⟩
      · simp [ensureConnected, asked, opened]
      · intro log
        simp [ensureConnected, asked, opened]
    | false =>
      right
      refine ⟨ready, after, rfl, opened, ?_, ?_⟩
      · simp [ensureConnected, asked, opened]
      · intro log
        simp [ensureConnected, asked, opened]

@[simp] theorem count_options (client : Client) (update : ClientMetrics → ClientMetrics) :
    (client.count update).options = client.options := rfl

@[simp] theorem sending_options (client : Client) : client.sending.options = client.options := rfl

@[simp] theorem countFailure_options (client : Client) (error : TransportError) :
    (client.countFailure error).options = client.options := by
  unfold countFailure
  split <;> rfl

theorem Opens.options {transport : ITransport σ} {client opened : Client} {state ready : σ}
    {opening : List Call} (opens : Opens transport client state opening opened ready) :
    opened.options = client.options := by
  cases opens <;> rfl

/-- Every error of an exchange is one the read loop retries. -/
theorem retryable {error : TransportError} (fails : error ≠ .none) :
    error = .timeout ∨ error = .disconnected ∨ error = .notConnected := by
  cases error with
  | none => exact absurd rfl fails
  | notConnected => exact .inr (.inr rfl)
  | timeout => exact .inl rfl
  | disconnected => exact .inr (.inl rfl)

/-- A computation is a run of a plan: some calls lead to its end, and the same computation over
the logged transport ends alike and adds exactly these calls to the log. -/
def IsRun (plan : Plan) (attempt : Nat) (client : Client) (state : σ)
    (plain : OperationResult × Client × σ)
    (logged : List Call → OperationResult × Client × σ × List Call) : Prop :=
  ∃ calls, Run transport plan attempt client state calls plain.1 plain.2.1 plain.2.2 ∧
    ∀ log, logged log = (plain.1, plain.2.1, plain.2.2, log ++ calls)

theorem Run.isRun {transport : ITransport σ} {plan : Plan} {attempt : Nat}
    {client final : Client} {state last : σ} {calls : List Call} {result : OperationResult}
    (run : Run transport plan attempt client state calls result final last)
    {plain : OperationResult × Client × σ}
    {logged : List Call → OperationResult × Client × σ × List Call}
    (ends : plain = (result, final, last))
    (endsLogged : ∀ log, logged log = (result, final, last, log ++ calls)) :
    IsRun transport plan attempt client state plain logged := by
  subst ends
  exact ⟨calls, run, endsLogged⟩

/-- The read loop of a plan. -/
def loop (plan : Plan) : Nat → Nat → Client → σ → OperationResult × Client × σ :=
  readAttempts transport plan.request (wireBytes plan.request) plan.expectedLength plan.deadline

/-- One round of the read loop: it ends the run, or it goes on after a failed exchange. -/
theorem loop_round (plan : Plan) (opcode : plan.expectedOpcode = .dataResponse)
    (text : plan.describe = transportErrorName) (remaining attempt : Nat) (client : Client)
    (state : σ) (bound : plan.bound = client.options.maximumReadAttempts)
    (within : attempt ≤ plan.bound) :
    IsRun transport plan attempt client state
      (loop transport plan (remaining + 1) attempt client state)
      (fun log => loop transport.logged plan (remaining + 1) attempt client (state, log)) ∨
    (∃ opening opened ready reply after, Opens transport client state opening opened ready ∧
      transport.exchange (wireBytes plan.request) plan.deadline ready = (reply, after) ∧
      reply.error ≠ .none ∧ attempt < plan.bound ∧
      loop transport plan (remaining + 1) attempt client state =
        loop transport plan remaining (attempt + 1) (opened.retrying reply.error)
          (transport.close after) ∧
      ∀ log, loop transport.logged plan (remaining + 1) attempt client (state, log) =
        loop transport.logged plan remaining (attempt + 1) (opened.retrying reply.error)
          (transport.close after, log ++ (opening ++
            [.exchange (wireBytes plan.request) plan.deadline reply, .close]))) := by
  rcases ensureConnected_cases transport client state with
    ⟨opening, opened, ready, opens, plain, logged⟩ | ⟨down, refused, lost, failed, plain, logged⟩
  · rcases sent : transport.exchange (wireBytes plan.request) plan.deadline ready with
      ⟨reply, after⟩
    by_cases ok : reply.error = .none
    · left
      refine Run.isRun (.answered opens sent ok) ?_ ?_
      · simp [loop, readAttempts, plain, sent, TransportReply.toBool, ok, sending, opcode]
      · intro log
        simp [loop, readAttempts, logged, sent, TransportReply.toBool, ok, sending, opcode]
    · have options : opened.options.maximumReadAttempts = plan.bound := by
        rw [opens.options, bound]
      by_cases more : attempt < plan.bound
      · right
        refine ⟨opening, opened, ready, reply, after, opens, sent, ok, more, ?_, ?_⟩
        · simp [loop, readAttempts, plain, sent, TransportReply.toBool, ok, retrying, sending,
            options, more, retryable ok]
        · intro log
          simp [loop, readAttempts, logged, sent, TransportReply.toBool, ok, retrying, sending,
            options, more, retryable ok]
      · left
        refine Run.isRun (.failed opens sent ok (by omega)) ?_ ?_
        · simp [loop, readAttempts, plain, sent, TransportReply.toBool, ok, sending, options, more,
            text]
        · intro log
          simp [loop, readAttempts, logged, sent, TransportReply.toBool, ok, sending, options,
            more, text]
  · left
    refine Run.isRun (.unreachable lost failed) ?_ ?_
    · simp [loop, readAttempts, plain]
    · intro log
      simp [loop, readAttempts, logged]

/-- The read loop is a run, with `remaining` attempts left after the current one. -/
theorem loop_isRun (plan : Plan) (opcode : plan.expectedOpcode = .dataResponse)
    (text : plan.describe = transportErrorName) (remaining attempt : Nat) (client : Client)
    (state : σ) (bound : plan.bound = client.options.maximumReadAttempts)
    (within : attempt + remaining = plan.bound) :
    IsRun transport plan attempt client state
      (loop transport plan (remaining + 1) attempt client state)
      (fun log => loop transport.logged plan (remaining + 1) attempt client (state, log)) := by
  induction remaining generalizing attempt client state with
  | zero =>
    rcases loop_round transport plan opcode text 0 attempt client state bound (by omega)
      with done | ⟨_, _, _, _, _, _, _, _, more, _⟩
    · exact done
    · omega
  | succ remaining ih =>
    rcases loop_round transport plan opcode text (remaining + 1) attempt client state
      bound (by omega) with done | ⟨opening, opened, ready, reply, after, opens, sent, fails, more,
        plain, logged⟩
    · exact done
    · have kept : plan.bound = (opened.retrying reply.error).options.maximumReadAttempts := by
        rw [retrying, count_options, countFailure_options, sending_options, opens.options, bound]
      obtain ⟨calls, rest, loggedRest⟩ :=
        ih (attempt + 1) (opened.retrying reply.error) (transport.close after) kept (by omega)
      refine Run.isRun (.retried opens sent fails more rest) plain ?_
      intro log
      refine (logged log).trans ((loggedRest _).trans ?_)
      rw [List.append_assoc log, List.append_assoc opening]
      rfl

/-- A write is a run of a single attempt. -/
theorem executeWrite_isRun (requestId address : BitVec 32) {data : List Byte} (deadline : Int)
    (bound : Nat) (client : Client) (state : σ)
    (valid : Encodable (writeRequest requestId address data)) :
    IsRun transport (plan requestId bound (.write address data deadline)) 1 client state
      (executeWrite transport (writeRequest requestId address data) deadline client state)
      (fun log => executeWrite transport.logged (writeRequest requestId address data) deadline
        client (state, log)) := by
  have encoded := encode_eq_of_encodable valid
  rcases ensureConnected_cases transport client state with
    ⟨opening, opened, ready, opens, plain, logged⟩ | ⟨down, refused, lost, failed, plain, logged⟩
  · rcases sent : transport.exchange
      (wireBytes (plan requestId bound (.write address data deadline)).request)
      (plan requestId bound (.write address data deadline)).deadline ready with ⟨reply, after⟩
    have exchanged : transport.exchange (wireBytes (writeRequest requestId address data)) deadline
        ready = (reply, after) := sent
    by_cases ok : reply.error = .none
    · refine Run.isRun (.answered opens sent ok) ?_ ?_
      · simp [executeWrite, encoded, EncodeResult.toBool, plain, exchanged, TransportReply.toBool,
          ok, sending, plan]
      · intro log
        simp [executeWrite, encoded, EncodeResult.toBool, logged, exchanged,
          TransportReply.toBool, ok, sending, plan]
    · refine Run.isRun (.failed opens sent ok rfl) ?_ ?_
      · simp [executeWrite, encoded, EncodeResult.toBool, plain, exchanged, TransportReply.toBool,
          ok, sending, plan]
      · intro log
        simp [executeWrite, encoded, EncodeResult.toBool, logged, exchanged,
          TransportReply.toBool, ok, sending, plan]
  · refine Run.isRun (.unreachable lost failed) ?_ ?_
    · simp [executeWrite, encoded, EncodeResult.toBool, plain, plan]
    · intro log
      simp [executeWrite, encoded, EncodeResult.toBool, logged, plan]

theorem executeRead_isRun (requestId address : BitVec 32) (length : Nat) (deadline : Int)
    (client : Client) (state : σ) :
    IsRun transport
      (plan requestId client.options.maximumReadAttempts (.read address length deadline)) 1
      client state
      (executeRead transport (readRequest requestId address length) length deadline client state)
      (fun log => executeRead transport.logged (readRequest requestId address length) length
        deadline client (state, log)) := by
  have encoded := encode_eq_of_encodable (readRequest_encodable requestId address length)
  obtain ⟨remaining, attempts⟩ := Nat.exists_eq_add_of_le' client.attempts_pos
  have run := loop_isRun transport
    (plan requestId client.options.maximumReadAttempts (.read address length deadline)) rfl rfl
    remaining 1 client state rfl (by rw [plan, attempts, Nat.add_comm])
  simp only [executeRead, encoded, EncodeResult.toBool, attempts] at run ⊢
  exact run

/-- An operation with invalid arguments makes no call; every other one is a run. -/
theorem perform_cases (client : Client) (state : σ) (op : ClientOp) :
    (¬ op.Valid ∧
      client.perform transport state op =
        (rejection client.nextRequestId op, client.begin, state) ∧
      ∀ log, client.perform transport.logged (state, log) op =
        (rejection client.nextRequestId op, client.begin, state, log)) ∨
    (op.Valid ∧ IsRun transport
      (plan client.nextRequestId client.options.maximumReadAttempts op) 1 client.begin state
      (client.perform transport state op)
      (fun log => client.perform transport.logged (state, log) op)) := by
  by_cases valid : op.Valid
  · right
    refine ⟨valid, ?_⟩
    cases op with
    | read address length deadline =>
      have accepted : ¬ (length = 0 ∨ length > maximumPayloadSize ∨ deadline ≤ 0) := by
        obtain ⟨nonempty, small, positive⟩ := valid
        omega
      simp only [perform, read, if_neg accepted]
      exact executeRead_isRun transport client.nextRequestId address length deadline client.begin
        state
    | write address data deadline =>
      have accepted : ¬ (data = [] ∨ data.length > maximumPayloadSize ∨ deadline ≤ 0) := by
        obtain ⟨nonempty, small, positive⟩ := valid
        rintro (empty | large | expired)
        · exact nonempty empty
        · omega
        · omega
      simp only [perform, write, if_neg accepted]
      exact executeWrite_isRun transport client.nextRequestId address deadline
        client.options.maximumReadAttempts client.begin state (valid.encodable _)
  · left
    refine ⟨valid, ?_⟩
    cases op with
    | read address length deadline =>
      have rejected : length = 0 ∨ length > maximumPayloadSize ∨ deadline ≤ 0 := by
        by_contra accepted
        exact valid ⟨by omega, by omega, by omega⟩
      simp only [perform, read, if_pos rejected]
      exact ⟨rfl, fun _ => rfl⟩
    | write address data deadline =>
      have rejected : data = [] ∨ data.length > maximumPayloadSize ∨ deadline ≤ 0 := by
        by_contra accepted
        rw [not_or] at accepted
        exact valid ⟨accepted.1, by omega, by omega⟩
      simp only [perform, write, if_pos rejected]
      exact ⟨rfl, fun _ => rfl⟩

/-- The calls an operation makes. -/
def calls (client : Client) (state : σ) (op : ClientOp) : List Call :=
  (client.perform transport.logged (state, []) op).2.2.2

/-- `perform_cases` in terms of `calls`. -/
theorem perform_run (client : Client) (state : σ) (op : ClientOp) :
    (¬ op.Valid ∧ client.calls transport state op = [] ∧
      client.perform transport state op =
        (rejection client.nextRequestId op, client.begin, state)) ∨
    (op.Valid ∧ ∃ result final last,
      Run transport (plan client.nextRequestId client.options.maximumReadAttempts op) 1
        client.begin state (client.calls transport state op) result final last ∧
      client.perform transport state op = (result, final, last)) := by
  obtain ⟨invalid, plain, logged⟩ | ⟨valid, made, run, logged⟩ :=
    perform_cases transport client state op
  · left
    refine ⟨invalid, ?_, plain⟩
    rw [calls, logged]
  · right
    have same : client.calls transport state op = made :=
      congrArg (fun ended => ended.2.2.2) (logged [])
    rw [same]
    exact ⟨valid, _, _, _, run, rfl⟩

end Client

end Imlp
