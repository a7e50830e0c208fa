import Imlp.Client.Calls

/-!
# Which replies the client accepts

`validate_response` decodes a reply and applies three checks in order. `Verdict` lists its
outcomes. Because a byte string decodes to a frame only if it is that frame's one wire form,
success and a remote error each determine the reply to the last bit. A run validates at most
one reply, the first that came without a transport error (`Run.verdict`), so this carries over
to the operations whatever the transport answers.
-/

namespace Imlp
namespace Client

/-- What `validate_response` makes of a reply. -/
inductive Verdict (request : Frame) (response : List Byte) (opcode : Opcode)
    (length attempts : Nat) : OperationResult → Prop
  | malformed (rejected : (decode response).frame = none) :
      Verdict request response opcode length attempts
        { error := .malformedResponse
          requestId := request.requestId
          attempts := attempts
          detail := codecErrorName (decode response).error }
  | mismatch {frame : Frame} (decoded : (decode response).frame = some frame)
      (other : frame.requestId ≠ request.requestId ∨ frame.address ≠ request.address) :
      Verdict request response opcode length attempts
        { error := .correlationMismatch
          remoteStatus := frame.status
          requestId := request.requestId
          attempts := attempts
          detail := "response request ID or address did not match" }
  | remote {frame : Frame} (decoded : (decode response).frame = some frame)
      (sameId : frame.requestId = request.requestId) (sameAddress : frame.address = request.address)
      (error : frame.opcode = .errorResponse) :
      Verdict request response opcode length attempts
        { error := .remoteError
          remoteStatus := frame.status
          requestId := request.requestId
          attempts := attempts
          data := frame.payload
          detail := "remote request rejected" }
  | unexpected {frame : Frame} (decoded : (decode response).frame = some frame)
      (sameId : frame.requestId = request.requestId) (sameAddress : frame.address = request.address)
      (noError : frame.opcode ≠ .errorResponse)
      (wrong : frame.opcode ≠ opcode ∨ frame.payload.length ≠ length) :
      Verdict request response opcode length attempts
        { error := .unexpectedResponse
          remoteStatus := frame.status
          requestId := request.requestId
          attempts := attempts
          detail := "response opcode or payload length did not match" }
  | accepted {frame : Frame} (decoded : (decode response).frame = some frame)
      (sameId : frame.requestId = request.requestId) (sameAddress : frame.address = request.address)
      (noError : frame.opcode ≠ .errorResponse)
      (expected : frame.opcode = opcode) (size : frame.payload.length = length) :
      Verdict request response opcode length attempts
        { error := .none
          remoteStatus := frame.status
          requestId := request.requestId
          attempts := attempts
          data := frame.payload
          detail := "ok" }

/-- The counters after a verdict. -/
def settle (client : Client) (error : ClientError) : Client :=
  if error = .malformedResponse ∨ error = .correlationMismatch ∨ error = .unexpectedResponse then
    client.count fun m => { m with protocolErrors := m.protocolErrors + 1#64 }
  else client

theorem validateResponse_spec (client : Client) (request : Frame) (response : List Byte)
    (opcode : Opcode) (length attempts : Nat) :
    ∃ result, Verdict request response opcode length attempts result ∧
      client.validateResponse request response opcode length attempts =
        (result, client.settle result.error) := by
  unfold validateResponse
  cases decoded : (decode response).frame with
  | none =>
    have rejected : (decode response).toBool = false := by
      rw [DecodeResult.toBool, decoded, Option.isSome_none, Bool.and_false]
    simp only [rejected]
    exact ⟨_, .malformed decoded, rfl⟩
  | some frame =>
    simp only [decode_toBool decoded, decoded]
    by_cases other : frame.requestId ≠ request.requestId ∨ frame.address ≠ request.address
    · rw [if_pos other]
      exact ⟨_, .mismatch decoded other, rfl⟩
    rw [if_neg other]
    rw [not_or, not_not, not_not] at other
    by_cases error : frame.opcode = .errorResponse
    · rw [if_pos error]
      exact ⟨_, .remote decoded other.1 other.2 error, rfl⟩
    rw [if_neg error]
    by_cases wrong : frame.opcode ≠ opcode ∨ frame.payload.length ≠ length
    · rw [if_pos wrong]
      exact ⟨_, .unexpected decoded other.1 other.2 error wrong, rfl⟩
    · rw [if_neg wrong]
      rw [not_or, not_not, not_not] at wrong
      exact ⟨_, .accepted decoded other.1 other.2 error wrong.1 wrong.2, rfl⟩

theorem validateResponse_verdict (client : Client) (request : Frame) (response : List Byte)
    (opcode : Opcode) (length attempts : Nat) :
    Verdict request response opcode length attempts
      (client.validateResponse request response opcode length attempts).1 := by
  obtain ⟨result, verdict, validated⟩ :=
    validateResponse_spec client request response opcode length attempts
  rwa [validated]

/-- A response frame to a request. -/
def responseTo (requestId address : BitVec 32) (opcode : Opcode) (status : Status)
    (payload : List Byte) : Frame where
  opcode := opcode
  flags := responseFlag
  requestId := requestId
  address := address
  status := status
  payload := payload

/-- A byte string decodes to a frame exactly when it is what the frame encodes to. -/
theorem encode_eq_iff_decode (frame : Frame) (bytes : List Byte) :
    encode frame = { bytes := bytes } ↔ (decode bytes).frame = some frame := by
  rw [decode_ok_iff, ← encode_ok_iff]
  constructor
  · intro encoded
    rw [encoded]
    exact ⟨rfl, rfl⟩
  · rintro ⟨accepted, same⟩
    rcases encoded : encode frame with ⟨found, error⟩
    rw [encoded] at accepted same
    obtain rfl : error = .none := accepted
    obtain rfl : found = bytes := same
    rfl

/-- A decoded frame of a response opcode with status zero has no field left open. -/
theorem eq_responseTo_ok {bytes : List Byte} {frame : Frame} {opcode : Opcode}
    (decoded : (decode bytes).frame = some frame) (expected : frame.opcode = opcode)
    (response : opcode = .dataResponse ∨ opcode = .writeAcknowledgement) :
    frame = responseTo frame.requestId frame.address opcode .ok frame.payload := by
  obtain ⟨valid, -⟩ := (decode_ok_iff bytes frame).mp decoded
  have version := valid.version
  have rule := opcodeRule_of_valid valid.semantics
  rcases frame with ⟨_, _, flags, requestId, address, status, payload⟩
  obtain rfl : _ = protocolVersion := version
  obtain rfl := expected
  rcases response with rfl | rfl
  · cases rule with
    | dataResponse _ sameFlags sameStatus =>
      obtain rfl : flags = responseFlag := sameFlags
      obtain rfl : status = .ok := sameStatus
      rfl
    | _ other => cases other
  · cases rule with
    | writeAcknowledgement _ sameFlags sameStatus =>
      obtain rfl : flags = responseFlag := sameFlags
      obtain rfl : status = .ok := sameStatus
      rfl
    | _ other => cases other

theorem eq_responseTo_error {bytes : List Byte} {frame : Frame}
    (decoded : (decode bytes).frame = some frame) (error : frame.opcode = .errorResponse) :
    frame.status ≠ .ok ∧
      frame = responseTo frame.requestId frame.address .errorResponse frame.status
        frame.payload := by
  obtain ⟨valid, -⟩ := (decode_ok_iff bytes frame).mp decoded
  have version := valid.version
  have rule := opcodeRule_of_valid valid.semantics
  rcases frame with ⟨_, _, flags, requestId, address, status, payload⟩
  obtain rfl : _ = protocolVersion := version
  obtain rfl := error
  cases rule with
  | errorResponse _ sameFlags failure =>
    obtain rfl : flags = responseFlag := sameFlags
    exact ⟨failure, rfl⟩
  | _ other => cases other

section Verdict

variable {request : Frame} {response : List Byte} {opcode : Opcode} {length attempts : Nat}
  {result : OperationResult}

/-- Success determines the reply. -/
theorem Verdict.accepted_iff (verdict : Verdict request response opcode length attempts result)
    (expected : opcode = .dataResponse ∨ opcode = .writeAcknowledgement) (data : List Byte) :
    result.error = .none ∧ result.data = data ↔ data.length = length ∧
      (decode response).frame =
        some (responseTo request.requestId request.address opcode .ok data) := by
  have noError : opcode ≠ .errorResponse := by
    rcases expected with rfl | rfl <;> decide
  constructor
  · rintro ⟨none, rfl⟩
    cases verdict with
    | accepted decoded sameId sameAddress _ same size =>
      refine ⟨size, ?_⟩
      rw [decoded, ← sameId, ← sameAddress]
      exact congrArg some (eq_responseTo_ok decoded same expected)
    | _ => cases none
  · rintro ⟨size, found⟩
    cases verdict with
    | malformed rejected => cases rejected.symm.trans found
    | mismatch decoded other =>
      obtain rfl := Option.some.inj (decoded.symm.trans found)
      rcases other with other | other <;> exact absurd rfl other
    | remote decoded _ _ error =>
      obtain rfl := Option.some.inj (decoded.symm.trans found)
      exact absurd error noError
    | unexpected decoded _ _ _ wrong =>
      obtain rfl := Option.some.inj (decoded.symm.trans found)
      rcases wrong with wrong | wrong
      · exact absurd rfl wrong
      · exact absurd size wrong
    | accepted decoded =>
      obtain rfl := Option.some.inj (decoded.symm.trans found)
      exact ⟨rfl, rfl⟩

/-- A remote error determines the reply. -/
theorem Verdict.remote_iff (verdict : Verdict request response opcode length attempts result)
    (status : Status) (data : List Byte) :
    result.error = .remoteError ∧ result.remoteStatus = status ∧ result.data = data ↔
      status ≠ .ok ∧ (decode response).frame =
        some (responseTo request.requestId request.address .errorResponse status data) := by
  constructor
  · rintro ⟨remote, rfl, rfl⟩
    cases verdict with
    | remote decoded sameId sameAddress error =>
      obtain ⟨failure, same⟩ := eq_responseTo_error decoded error
      refine ⟨failure, ?_⟩
      rw [decoded, ← sameId, ← sameAddress]
      exact congrArg some same
    | _ => cases remote
  · rintro ⟨failure, found⟩
    cases verdict with
    | malformed rejected => cases rejected.symm.trans found
    | mismatch decoded other =>
      obtain rfl := Option.some.inj (decoded.symm.trans found)
      rcases other with other | other <;> exact absurd rfl other
    | remote decoded =>
      obtain rfl := Option.some.inj (decoded.symm.trans found)
      exact ⟨rfl, rfl, rfl⟩
    | unexpected decoded _ _ noError =>
      obtain rfl := Option.some.inj (decoded.symm.trans found)
      exact absurd rfl noError
    | accepted decoded _ _ noError =>
      obtain rfl := Option.some.inj (decoded.symm.trans found)
      exact absurd rfl noError

theorem Verdict.of_rejected (verdict : Verdict request response opcode length attempts result)
    (rejected : (decode response).frame = none) : result.error = .malformedResponse := by
  cases verdict with
  | malformed => rfl
  | mismatch decoded | remote decoded | unexpected decoded | accepted decoded =>
    cases rejected.symm.trans decoded

theorem Verdict.of_other_id (verdict : Verdict request response opcode length attempts result)
    {frame : Frame} (decoded : (decode response).frame = some frame)
    (other : frame.requestId ≠ request.requestId) : result.error = .correlationMismatch := by
  cases verdict with
  | malformed rejected => cases rejected.symm.trans decoded
  | mismatch => rfl
  | remote found same | unexpected found same | accepted found same =>
    obtain rfl := Option.some.inj (decoded.symm.trans found)
    exact absurd same other

/-- The text that comes with the verdict on a reply. -/
def verdictDetail (response : List Byte) : ClientError → String
  | .none => "ok"
  | .remoteError => "remote request rejected"
  | .correlationMismatch => "response request ID or address did not match"
  | .unexpectedResponse => "response opcode or payload length did not match"
  | _ => codecErrorName (decode response).error

theorem Verdict.detail_eq (verdict : Verdict request response opcode length attempts result) :
    result.detail = verdictDetail response result.error := by
  cases verdict <;> rfl

/-- Only success and a remote error return data. -/
theorem Verdict.data_eq_nil (verdict : Verdict request response opcode length attempts result)
    (failed : result.error ≠ .none) (notRemote : result.error ≠ .remoteError) :
    result.data = [] := by
  cases verdict with
  | remote => exact absurd rfl notRemote
  | accepted => exact absurd rfl failed
  | _ => rfl

theorem Verdict.requestId (verdict : Verdict request response opcode length attempts result) :
    result.requestId = request.requestId := by
  cases verdict <;> rfl

end Verdict

/-! ## A whole operation -/

variable {σ : Type} {transport : ITransport σ}

section Run

variable {plan : Plan} {attempt : Nat} {client opened final : Client} {state ready last : σ}
  {opening calls : List Call} {result : OperationResult}

theorem Opens.not_exchange (opens : Opens transport client state opening opened ready)
    {request : List Byte} {deadline : Int} {reply : TransportReply} :
    Call.exchange request deadline reply ∉ opening := by
  cases opens <;> simp

/-- A run validates the one reply that came without a transport error, if there is one. -/
theorem Run.verdict (run : Run transport plan attempt client state calls result final last) :
    (result.data = [] ∧ result.error ≠ .none ∧ result.error ≠ .remoteError ∧
      ∀ request deadline reply, Call.exchange request deadline reply ∈ calls →
        reply.error ≠ .none) ∨
    (∃ reply attempts, reply.error = .none ∧
      Call.exchange (wireBytes plan.request) plan.deadline reply ∈ calls ∧
      Verdict plan.request reply.bytes plan.expectedOpcode plan.expectedLength attempts result ∧
      ∀ request deadline other, Call.exchange request deadline other ∈ calls →
        other.error = .none → other = reply) := by
  induction run with
  | unreachable =>
    left
    refine ⟨rfl, nofun, nofun, ?_⟩
    intro request deadline reply member
    simp at member
  | @answered attempt _ opened _ _ _ opening reply opens sent ok =>
    right
    refine ⟨reply, attempt, ok, List.mem_concat_self, validateResponse_verdict _ _ _ _ _ _, ?_⟩
    intro request deadline other member _
    rw [List.mem_append, List.mem_singleton] at member
    rcases member with early | same
    · exact absurd early opens.not_exchange
    · exact (Call.exchange.inj same).2.2
  | @failed _ _ _ _ _ _ opening reply opens sent fails _ =>
    left
    have failure : failureOf reply.error ≠ .none ∧ failureOf reply.error ≠ .remoteError := by
      unfold failureOf
      split <;> exact ⟨nofun, nofun⟩
    refine ⟨rfl, failure.1, failure.2, ?_⟩
    intro request deadline other member
    rw [List.mem_append, List.mem_cons, List.mem_singleton] at member
    rcases member with early | same | close
    · exact absurd early opens.not_exchange
    · rwa [(Call.exchange.inj same).2.2]
    · cases close
  | @retried _ _ _ _ _ _ _ _ opening calls reply _ opens sent fails _ rest ih =>
    -- The failed exchange adds nothing to what the rest of the run says.
    have later : ∀ request deadline other,
        Call.exchange request deadline other ∈
          opening ++ .exchange (wireBytes plan.request) plan.deadline reply :: .close :: calls →
        other.error = .none → Call.exchange request deadline other ∈ calls := by
      intro request deadline other member ok
      rw [List.mem_append, List.mem_cons, List.mem_cons] at member
      rcases member with early | same | close | later
      · exact absurd early opens.not_exchange
      · rw [(Call.exchange.inj same).2.2] at ok
        exact absurd ok fails
      · cases close
      · exact later
    rcases ih with ⟨data, failed, notRemote, none⟩ | ⟨found, attempts, ok, member, verdict, only⟩
    · left
      refine ⟨data, failed, notRemote, ?_⟩
      intro request deadline other member ok
      exact none request deadline other (later request deadline other member ok) ok
    · right
      refine ⟨found, attempts, ok, ?_, verdict, ?_⟩
      · exact List.mem_append_right _ (List.mem_cons_of_mem _ (List.mem_cons_of_mem _ member))
      · intro request deadline other member ok
        exact only request deadline other (later request deadline other member ok) ok

/-- Every result names the request identifier of its request. -/
theorem Run.requestId (run : Run transport plan attempt client state calls result final last) :
    result.requestId = plan.request.requestId := by
  induction run with
  | unreachable => rfl
  | answered => exact (validateResponse_verdict _ _ _ _ _ _).requestId
  | failed => rfl
  | retried _ _ _ _ _ ih => exact ih

end Run

theorem request_requestId (requestId : BitVec 32) (op : ClientOp) :
    (op.request requestId).requestId = requestId := by
  cases op <;> rfl

/-- The request identifier of a result is the one the client had in store. -/
theorem perform_requestId (transport : ITransport σ) (client : Client) (state : σ)
    (op : ClientOp) :
    (client.perform transport state op).1.requestId = client.nextRequestId := by
  obtain ⟨-, -, performed⟩ | ⟨-, result, final, last, run, performed⟩ :=
    perform_run transport client state op
  · rw [performed]
    cases op <;> rfl
  · rw [performed, run.requestId, plan_request, request_requestId]

/-- One of the calls is an exchange that was answered, without a transport error, by exactly
the bytes of a frame. -/
def AnsweredBy (calls : List Call) (frame : Frame) : Prop :=
  ∃ request deadline reply, Call.exchange request deadline reply ∈ calls ∧
    reply.error = .none ∧ encode frame = { bytes := reply.bytes }

/-- The results of a valid operation and the replies that lead to them. -/
theorem perform_accepts (transport : ITransport σ) (client : Client) (state : σ) (op : ClientOp)
    (valid : op.Valid) :
    let plan := plan client.nextRequestId client.options.maximumReadAttempts op
    let result := (client.perform transport state op).1
    (∀ data, result.error = .none ∧ result.data = data ↔ data.length = plan.expectedLength ∧
      AnsweredBy (client.calls transport state op)
        (responseTo plan.request.requestId plan.request.address plan.expectedOpcode .ok data)) ∧
    (∀ status data, result.error = .remoteError ∧ result.remoteStatus = status ∧
        result.data = data ↔ status ≠ .ok ∧
      AnsweredBy (client.calls transport state op)
        (responseTo plan.request.requestId plan.request.address .errorResponse status data)) ∧
    (result.error ≠ .none → result.error ≠ .remoteError → result.data = []) := by
  intro plan result
  obtain ⟨invalid, -⟩ | ⟨-, found, final, last, run, performed⟩ :=
    perform_run transport client state op
  · exact absurd valid invalid
  have sameResult : result = found := congrArg Prod.fst performed
  have expected : plan.expectedOpcode = .dataResponse ∨
      plan.expectedOpcode = .writeAcknowledgement := by
    cases op
    · exact .inl rfl
    · exact .inr rfl
  rw [sameResult]
  generalize client.calls transport state op = made at run ⊢
  rcases run.verdict with
    ⟨data, failed, notRemote, none⟩ | ⟨reply, attempts, ok, member, verdict, only⟩
  · have unanswered : ∀ frame, ¬ AnsweredBy made frame := by
      rintro frame ⟨request, deadline, reply, member, ok, -⟩
      exact none request deadline reply member ok
    refine ⟨?_, ?_, fun _ _ => data⟩
    · intro data
      exact ⟨fun h => absurd h.1 failed, fun h => absurd h.2 (unanswered _)⟩
    · intro status data
      exact ⟨fun h => absurd h.1 notRemote, fun h => absurd h.2 (unanswered _)⟩
  · have answered : ∀ frame, AnsweredBy made frame ↔ (decode reply.bytes).frame = some frame := by
      intro frame
      rw [← encode_eq_iff_decode]
      constructor
      · rintro ⟨request, deadline, other, member, ok, encoded⟩
        rwa [only request deadline other member ok] at encoded
      · exact fun encoded => ⟨_, _, reply, member, ok, encoded⟩
    refine ⟨?_, ?_, verdict.data_eq_nil⟩
    · intro data
      rw [answered]
      exact verdict.accepted_iff expected data
    · intro status data
      rw [answered]
      exact verdict.remote_iff status data

/-- Exact acceptance. Whatever the transport answers, a valid read succeeds with `data` exactly
when one of its exchanges was answered by the wire form of the matching data response, a valid
write succeeds exactly when its exchange was answered by the matching acknowledgement, and
either reports a remote error exactly for the matching error response. No other outcome
returns data. -/
theorem accepts_exactly (transport : ITransport σ) (client : Client) (state : σ)
    (address : BitVec 32) (deadline : Int) :
    (∀ length, 0 < length → length ≤ maximumPayloadSize → 0 < deadline →
      let result := (client.read transport state address length deadline).1
      let calls := client.calls transport state (.read address length deadline)
      result.requestId = client.nextRequestId ∧
      (∀ data, result.error = .none ∧ result.data = data ↔ data.length = length ∧
        AnsweredBy calls (responseTo client.nextRequestId address .dataResponse .ok data)) ∧
      (∀ status data, result.error = .remoteError ∧ result.remoteStatus = status ∧
          result.data = data ↔ status ≠ .ok ∧
        AnsweredBy calls (responseTo client.nextRequestId address .errorResponse status data)) ∧
      (result.error ≠ .none → result.error ≠ .remoteError → result.data = [])) ∧
    (∀ data, data ≠ [] → data.length ≤ maximumPayloadSize → 0 < deadline →
      let result := (client.write transport state address data deadline).1
      let calls := client.calls transport state (.write address data deadline)
      result.requestId = client.nextRequestId ∧
      (result.error = .none ↔
        AnsweredBy calls (responseTo client.nextRequestId address .writeAcknowledgement .ok [])) ∧
      (∀ status data, result.error = .remoteError ∧ result.remoteStatus = status ∧
          result.data = data ↔ status ≠ .ok ∧
        AnsweredBy calls (responseTo client.nextRequestId address .errorResponse status data)) ∧
      (result.error ≠ .remoteError → result.data = [])) := by
  constructor
  · intro length nonempty small positive
    exact ⟨perform_requestId transport client state (.read address length deadline),
      perform_accepts transport client state (.read address length deadline)
        ⟨nonempty, small, positive⟩⟩
  · intro data nonempty small positive result calls
    obtain ⟨accepted, remote, otherwise⟩ := perform_accepts transport client state
      (.write address data deadline) ⟨nonempty, small, positive⟩
    have empty : result.error = .none → result.data = [] := fun success =>
      List.eq_nil_of_length_eq_zero ((accepted result.data).mp ⟨success, rfl⟩).1
    refine ⟨perform_requestId transport client state (.write address data deadline), ⟨?_, ?_⟩,
      remote, ?_⟩
    · exact fun success => ((accepted []).mp ⟨success, empty success⟩).2
    · exact fun answered => ((accepted []).mpr ⟨rfl, answered⟩).1
    · intro notRemote
      by_cases success : result.error = .none
      · exact empty success
      · exact otherwise success notRemote

/-- A peer that answers every request with the same bytes. -/
def constantPeer (bytes : List Byte) : ITransport Unit where
  connect state := (true, state)
  close state := state
  connected state := (true, state)
  exchange _ _ state := ({ bytes := bytes }, state)

/-- A reply that a peer happens to get right is accepted, with its payload. -/
theorem accepts_exactly_data_response :
    let peer := constantPeer (wireBytes (responseTo 1#32 0x40#32 .dataResponse .ok [0x01#8]))
    let result := ((Client.new {}).read peer () 0x40#32 1 50).1
    result.error = .none ∧ result.data = [0x01#8] := by
  intro peer result
  obtain ⟨-, accepted, -⟩ := (accepts_exactly peer (Client.new {}) () 0x40#32 50).1 1 (by decide)
    (by decide) (by decide)
  refine (accepted [0x01#8]).mpr ⟨rfl, ?_⟩
  have sent := encode_eq_of_encodable (readRequest_encodable 1#32 0x40#32 1)
  have called : (Client.new {}).calls peer () (.read 0x40#32 1 50) =
      [.connected true, .exchange (wireBytes (readRequest 1#32 0x40#32 1)) 50
        { bytes := wireBytes (responseTo 1#32 0x40#32 .dataResponse .ok [0x01#8]) }] := by
    simp [calls, perform, read, executeRead, readAttempts, ensureConnected, sent, peer,
      constantPeer, ITransport.logged, EncodeResult.toBool, TransportReply.toBool,
      allocateRequestId, new, count, maximumPayloadSize]
  rw [called]
  refine ⟨_, _, _, List.mem_cons_of_mem _ List.mem_cons_self, rfl, ?_⟩
  exact encode_eq_of_encodable ⟨rfl, rfl, by decide, rfl⟩

end Client

end Imlp
