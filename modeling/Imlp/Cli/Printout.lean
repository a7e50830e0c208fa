import Imlp.Cli.Inspect
import Imlp.System.Audit

/-!
# What the printed trace tells

`print_trace` writes one line for each record. The directions and outcomes that a transport
ever records are words, so the lines of any run can be read back, and with them everything
that happened to the server.
-/

namespace Imlp
open MemoryServer Client LoopbackTransport
namespace Cli
open TextFields

/-- The directions in a trace. -/
def directions : List String := ["client_to_server", "server_to_client"]

/-- The outcomes in the trace of a client's operations. -/
def outcomes : List String :=
  ["sent", "timeout", "disconnected", "read_ok", "read_rejected", "write_ok", "write_disabled",
    "outside_write_allowlist", "memory_write_rejected", "request_opcode_required"]

/-- Records as a client's operations leave them. -/
def Named (record : TraceRecord) : Prop :=
  record.direction ∈ directions ∧ record.outcome ∈ outcomes

/-- The line of a record without its end. -/
def traceText (record : TraceRecord) : List CChar :=
  chars "trace=" ++ (decimal record.sequence.toNat ++ (chars " direction=" ++
    (chars record.direction ++ (chars " outcome=" ++ (chars record.outcome ++
      (chars " bytes=" ++ bytesToHex record.bytes))))))

theorem traceLine_eq (record : TraceRecord) :
    traceLine record = traceText record ++ [ascii '\n'] := by
  simp only [traceLine, traceText, List.append_assoc]
  rfl

theorem printTrace_eq (trace : List TraceRecord) :
    printTrace trace = trace.flatMap fun record => traceText record ++ [ascii '\n'] := by
  rw [printTrace, ← List.flatMap_eq_foldl]
  exact congrArg trace.flatMap (funext traceLine_eq)

theorem not_mem_bytesToHex {char : CChar} (other : hexNibble char = none) (bytes : List Byte) :
    char ∉ bytesToHex bytes := by
  intro member
  have noDigit : ¬ IsHexDigit char := by
    rw [← hexNibble_isSome_iff, other]
    decide
  have read := (fromPairs_eq_some_iff _ bytes).mpr (map_lowerLetter_bytesToHex bytes)
  cases (fromPairs_eq_none member noDigit).symm.trans read

theorem newline_not_mem_traceText {record : TraceRecord} (named : Named record) :
    ascii '\n' ∉ traceText record := by
  have inDirections : ∀ name ∈ directions, ascii '\n' ∉ chars name := by decide
  have inOutcomes : ∀ name ∈ outcomes, ascii '\n' ∉ chars name := by decide
  have inNumber : ascii '\n' ∉ decimal record.sequence.toNat :=
    not_mem_toDigits (.inl rfl) rfl record.sequence.toNat
  have inBytes : ascii '\n' ∉ bytesToHex record.bytes :=
    not_mem_bytesToHex rfl record.bytes
  have inKeys : ∀ key ∈ ["trace=", " direction=", " outcome=", " bytes="],
      ascii '\n' ∉ chars key := by decide
  simp only [traceText, List.mem_append, not_or]
  exact ⟨inKeys _ (by decide), inNumber, inKeys _ (by decide), inDirections _ named.1,
    inKeys _ (by decide), inOutcomes _ named.2, inKeys _ (by decide), inBytes⟩

/-- Lines that read the same are lines of the same record. -/
theorem traceText_injective {left right : TraceRecord} (named : Named left)
    (named' : Named right) (same : traceText left = traceText right) : left = right := by
  have solid : ∀ name ∈ directions ++ outcomes, ascii ' ' ∉ chars name := by decide
  have distinct : ∀ left ∈ directions ++ outcomes, ∀ right ∈ directions ++ outcomes,
      chars left = chars right → left = right := by decide
  have inDirections : ∀ {name}, name ∈ directions → name ∈ directions ++ outcomes :=
    List.mem_append_left outcomes
  have inOutcomes : ∀ {name}, name ∈ outcomes → name ∈ directions ++ outcomes :=
    List.mem_append_right directions
  replace same := List.append_cancel_left same
  obtain ⟨sequence, same⟩ := split_at_key rfl (solid_decimal _) (solid_decimal _) same
  obtain ⟨direction, same⟩ := split_at_key rfl (solid _ (inDirections named.1))
    (solid _ (inDirections named'.1)) same
  obtain ⟨outcome, same⟩ := split_at_key rfl (solid _ (inOutcomes named.2))
    (solid _ (inOutcomes named'.2)) same
  have sameSequence := BitVec.eq_of_toNat_eq (decimal_injective sequence)
  have sameDirection := distinct _ (inDirections named.1) _ (inDirections named'.1) direction
  have sameOutcome := distinct _ (inOutcomes named.2) _ (inOutcomes named'.2) outcome
  have sameBytes := bytesToHex_injective same
  cases left
  cases right
  simp_all

theorem printTrace_injective {trace trace' : List TraceRecord}
    (named : ∀ record ∈ trace, Named record) (named' : ∀ record ∈ trace', Named record)
    (same : printTrace trace = printTrace trace') : trace = trace' := by
  rw [printTrace_eq, printTrace_eq] at same
  exact lines_injective (fun _ => newline_not_mem_traceText)
    (fun _ _ => traceText_injective) named named' same

/-- The outcome and the bytes of the reply in the record of an exchange. -/
inductive Outcome (request : Frame) : String → List Byte → Prop
  | timeout : Outcome request "timeout" []
  | disconnected : Outcome request "disconnected" []
  | answered (server : MemoryServer) (fault : Option TransportFault) :
      Outcome request (server.answer request).detail
        (mutate fault (wireBytes (responseFrame request (server.answer request))))

/-- One of the two records of an exchange of a request. -/
def RecordOf (request : Frame) (record : TraceRecord) : Prop :=
  ∃ sequence outcome bytes, Outcome request outcome bytes ∧
    record ∈ exchangeRecords sequence (wireBytes request) outcome bytes

/-- Some attempts of an operation only added records of its request to the trace. -/
def Adds (request : Frame) (before after : LoopbackTransport) : Prop :=
  ∃ records, after.trace = before.trace ++ records ∧ ∀ record ∈ records, RecordOf request record

theorem adds_refl (request : Frame) (transport : LoopbackTransport) :
    Adds request transport transport :=
  ⟨[], (List.append_nil _).symm, fun _ absent => absurd absent List.not_mem_nil⟩

/-- The records of one exchange come before those of the later attempts. -/
theorem adds_exchange {client opened : Client}
    {transport ready after closed last : LoopbackTransport} {opening : List Call} {request : Frame}
    {deadline : Int} {reply : TransportReply}
    (opens : Opens asTransport client transport opening opened ready)
    (valid : Encodable request) (positive : 0 < deadline)
    (sent : asTransport.exchange (wireBytes request) deadline ready = (reply, after))
    (same : closed.trace = after.trace ∧ closed.server = after.server)
    (rest : Adds request closed last) : Adds request transport last := by
  obtain ⟨records, recorded, named⟩ := rest
  have made : ∃ outcome bytes, Outcome request outcome bytes ∧ after.trace = transport.trace ++
      exchangeRecords transport.nextSequence (wireBytes request) outcome bytes := by
    rcases opened_exchange_cases opens valid positive sent with
      ⟨-, -, rfl⟩ | ⟨-, -, rfl⟩ | ⟨-, -, -, bytes, rfl⟩
    · exact ⟨_, _, .timeout, traced_trace_eq _ _ _ _⟩
    · exact ⟨_, _, .disconnected, traced_trace_eq _ _ _ _⟩
    · rw [bytes]
      exact ⟨_, _, .answered transport.server _, traced_trace_eq _ _ _ _⟩
  obtain ⟨outcome, bytes, made, extended⟩ := made
  refine ⟨exchangeRecords transport.nextSequence (wireBytes request) outcome bytes ++ records,
    by rw [recorded, same.1, extended, List.append_assoc], ?_⟩
  intro record member
  rcases List.mem_append.mp member with first | later
  · exact ⟨_, outcome, bytes, made, first⟩
  · exact named record later

theorem adds_run {plan : Plan} (valid : Encodable plan.request)
    (positive : 0 < plan.deadline) {attempt : Nat} {client final : Client}
    {before after : LoopbackTransport} {calls : List Call} {result : OperationResult}
    (run : Run asTransport plan attempt client before calls result final after) :
    Adds plan.request before after :=
  run.along (adds_refl _) fun opens sent => adds_exchange opens valid positive sent

/-- A record of some client request. -/
def Traced (record : TraceRecord) : Prop :=
  ∃ request, Encodable request ∧
    (request.opcode = .readRequest ∨ request.opcode = .writeRequest) ∧ RecordOf request record

theorem call_traced (system : System) (op : ClientOp) :
    ∃ records, (system.call op).2.transport.trace = system.transport.trace ++ records ∧
      ∀ record ∈ records, Traced record := by
  rw [System.call]
  obtain ⟨-, -, performed⟩ | ⟨valid, result, final, last, run, performed⟩ :=
    perform_run asTransport system.client system.transport op
  · rw [performed]
    exact ⟨[], (List.append_nil _).symm, fun _ absent => absurd absent List.not_mem_nil⟩
  · rw [performed]
    have encodable := valid.encodable system.client.nextRequestId
    obtain ⟨records, trace, named⟩ :=
      adds_run (by rwa [plan_request]) (valid.deadline_pos _ _) run
    rw [plan_request] at named
    refine ⟨records, trace, fun record member => ⟨_, encodable, ?_, named record member⟩⟩
    cases op with
    | read => exact .inl rfl
    | write => exact .inr rfl

theorem step_traced {system : System} (traced : ∀ record ∈ system.transport.trace, Traced record)
    (op : SystemOp) : ∀ record ∈ (system.step op).transport.trace, Traced record := by
  cases op with
  | call op =>
    obtain ⟨records, trace, fresh⟩ := call_traced system op
    intro record member
    rw [System.step, trace] at member
    rcases List.mem_append.mp member with old | new
    · exact traced record old
    · exact fresh record new
  | pushFault | connect | close => exact traced
  | clearTrace => exact fun _ absent => absurd absent List.not_mem_nil

theorem run_traced {system : System} (traced : ∀ record ∈ system.transport.trace, Traced record)
    (ops : List SystemOp) : ∀ record ∈ (system.run ops).transport.trace, Traced record := by
  induction ops generalizing system with
  | nil => exact traced
  | cons op ops ih => exact ih (step_traced traced op)

theorem new_run_traced (policy : ServerPolicy) (options : ClientOptions) (ops : List SystemOp) :
    ∀ record ∈ ((System.new policy options).run ops).transport.trace, Traced record :=
  run_traced (fun _ absent => absurd absent List.not_mem_nil) ops

/-- The two records of an exchange. -/
theorem Traced.cases {record : TraceRecord} (traced : Traced record) :
    (∃ request, Encodable request ∧
      (request.opcode = .readRequest ∨ request.opcode = .writeRequest) ∧
      record.direction = "client_to_server" ∧ record.outcome = "sent" ∧
      record.bytes = wireBytes request) ∨
    (∃ request, record.direction = "server_to_client" ∧
      Outcome request record.outcome record.bytes) := by
  obtain ⟨request, valid, opcode, sequence, outcome, bytes, made, member⟩ := traced
  rcases List.mem_cons.mp member with rfl | member
  · exact .inl ⟨request, valid, opcode, rfl, rfl, rfl⟩
  · obtain rfl := List.mem_singleton.mp member
    exact .inr ⟨request, rfl, made⟩

theorem Outcome.mem {request : Frame} {outcome : String} {bytes : List Byte}
    (made : Outcome request outcome bytes) : outcome ∈ outcomes := by
  cases made with
  | timeout | disconnected => decide
  | answered server =>
    exact List.mem_append_right ["sent", "timeout", "disconnected"]
      (answer_detail_mem server request)

theorem Traced.named {record : TraceRecord} (traced : Traced record) : Named record := by
  rcases traced.cases with ⟨request, -, -, direction, outcome, -⟩ | ⟨request, direction, made⟩
  · rw [Named, direction, outcome]
    decide
  · rw [Named, direction]
    exact ⟨by decide, made.mem⟩

/-- The printed trace says all. Over all runs of fresh systems, under any policies, faults and
client options, two printed traces are the same text exactly when the traces are the same; and
where no record was cleared away, servers that started alike and have the same printed trace
are in the same state. -/
theorem printed_trace_determines_server (policy policy' : ServerPolicy)
    (options options' : ClientOptions) (ops ops' : List SystemOp) :
    let system := (System.new policy options).run ops
    let system' := (System.new policy' options').run ops'
    (printTrace system.transport.trace = printTrace system'.transport.trace ↔
      system.transport.trace = system'.transport.trace) ∧
    (printTrace system.transport.trace = printTrace system'.transport.trace →
      policy = policy' → .clearTrace ∉ ops → .clearTrace ∉ ops' →
      system.transport.server = system'.transport.server) := by
  intro system system'
  have readBack : printTrace system.transport.trace = printTrace system'.transport.trace →
      system.transport.trace = system'.transport.trace :=
    printTrace_injective
      (fun record member => (new_run_traced policy options ops record member).named)
      (fun record member => (new_run_traced policy' options' ops' record member).named)
  refine ⟨⟨readBack, congrArg printTrace⟩, ?_⟩
  rintro same rfl kept kept'
  have trace : system.transport.trace = (System.new policy options).log ops :=
    System.run_trace _ kept
  have trace' : system'.transport.trace = (System.new policy options').log ops' :=
    System.run_trace _ kept'
  have audited := (System.new policy options).run_audited ops
  have audited' := (System.new policy options').run_audited ops'
  rw [← trace] at audited
  rw [← trace', ← readBack same] at audited'
  exact audited.replayTrace_eq.symm.trans audited'.replayTrace_eq

theorem wireBytes_length_le {frame : Frame} (valid : Encodable frame) :
    (wireBytes frame).length ≤ maximumFrameSize := by
  have small := valid.payload
  have maximum : maximumFrameSize = 278 := rfl
  rw [maximumPayloadSize] at small
  rw [wireBytes_length]
  omega

/-- No fault makes a response longer than a frame can be. -/
theorem mutate_length_le {response : Frame} (valid : Encodable response)
    (fault : Option TransportFault) :
    (mutate fault (wireBytes response)).length ≤ maximumFrameSize := by
  have small := wireBytes_length_le valid
  have nonempty := List.length_pos_iff.mpr (wireBytes_ne_nil response)
  by_cases renumbered : fault = some .wrongRequestId
  · have other := valid.renumber (response.requestId + 1#32)
    have found : (decode (wireBytes response)).frame = some response :=
      (decode_ok_iff _ _).mpr ⟨valid, rfl⟩
    rw [renumbered, mutate, if_neg (by simp), if_neg (by simp), if_pos rfl]
    simp only [decode_toBool found, found, encode_eq_of_encodable other, EncodeResult.toBool,
      decide_true, if_true]
    exact wireBytes_length_le other
  · unfold mutate
    rw [if_neg renumbered]
    split
    · rw [List.length_dropLast]
      omega
    split
    · rw [List.length_append, List.length_dropLast, List.length_singleton]
      omega
    · exact small

/-- Bytes of at most a frame's size are read back from their hexadecimal text. -/
theorem bytesFromHex_bytesToHex {bytes : List Byte} (small : bytes.length ≤ maximumFrameSize) :
    bytesFromHex (bytesToHex bytes) = some bytes :=
  (bytesFromHex_eq_some_iff _ bytes).mpr
    ⟨small, bytesToHex_length bytes, map_lowerLetter_bytesToHex bytes⟩

/-- What reaches the client is no frame or a response. -/
theorem Outcome.decoded {request frame : Frame} {outcome : String} {bytes : List Byte}
    (made : Outcome request outcome bytes) (found : (decode bytes).frame = some frame) :
    frame.flags = responseFlag := by
  cases made with
  | timeout | disconnected => cases found
  | answered server fault =>
    rw [decode_mutate (answer_encodable server request)] at found
    split at found
    · cases found
    split at found
    · cases found
    split at found
    · obtain rfl := Option.some.inj found
      rfl
    · obtain rfl := Option.some.inj found
      rfl

theorem Outcome.length_le {request : Frame} {outcome : String} {bytes : List Byte}
    (made : Outcome request outcome bytes) : bytes.length ≤ maximumFrameSize := by
  cases made with
  | timeout | disconnected => exact Nat.zero_le _
  | answered server fault => exact mutate_length_le (answer_encodable server request) fault

/-- The hexadecimal fields of every trace can be inspected. Over all runs of a fresh system,
under any faults, `inspect` on the bytes of a sent record reports the request that was sent;
on the bytes of a received record it reports a response, or fails with exit code 3, never
with 2. -/
theorem printed_bytes_inspect (policy : ServerPolicy) (options : ClientOptions)
    (ops : List SystemOp) :
    ∀ record ∈ ((System.new policy options).run ops).transport.trace,
      (record.direction = "client_to_server" → ∃ request, Encodable request ∧
        (request.opcode = .readRequest ∨ request.opcode = .writeRequest) ∧
        record.bytes = wireBytes request ∧
        runInspect (bytesToHex record.bytes) =
          { exitCode := 0, stdout := inspectReport request }) ∧
      (record.direction ≠ "client_to_server" →
        (runInspect (bytesToHex record.bytes)).exitCode = 3 ∨
        ∃ response, Encodable response ∧ response.flags = responseFlag ∧
          runInspect (bytesToHex record.bytes) =
            { exitCode := 0, stdout := inspectReport response }) := by
  intro record member
  rcases (new_run_traced policy options ops record member).cases with
    ⟨request, valid, opcode, direction, -, bytes⟩ | ⟨request, direction, made⟩
  · refine ⟨fun _ => ⟨request, valid, opcode, bytes, ?_⟩, fun other => absurd direction other⟩
    rw [bytes]
    exact runInspect_of_frame valid (bytesFromHex_bytesToHex (wireBytes_length_le valid))
  · refine ⟨fun sent => ?_, fun _ => ?_⟩
    · rw [direction] at sent
      exact absurd sent (by decide)
    have read := bytesFromHex_bytesToHex made.length_le
    rcases runInspect_cases (bytesToHex record.bytes) with
      ⟨unread, -⟩ | ⟨_, -, -, -, ran⟩ | ⟨response, valid, found, ran⟩
    · cases unread.symm.trans read
    · exact .inl (by rw [ran])
    · have same := Option.some.inj (read.symm.trans found)
      have decoded := (decode_ok_iff record.bytes response).mpr ⟨valid, same⟩
      exact .inr ⟨response, valid, made.decoded decoded, ran⟩

/-- A read whose response is corrupted: the damaged bytes in its trace are no frame or a
response. -/
theorem printed_bytes_inspect_corrupted :
    ∃ record ∈ ((System.new {} {}).run
        [.pushFault .corruptResponse, .call (.read 0#32 4 100)]).transport.trace,
      record.direction = "server_to_client" ∧
      ((runInspect (bytesToHex record.bytes)).exitCode = 3 ∨
        ∃ response, Encodable response ∧ response.flags = responseFlag ∧
          runInspect (bytesToHex record.bytes) =
            { exitCode := 0, stdout := inspectReport response }) := by
  have received : "server_to_client" ∈ ((System.new {} {}).run
      [.pushFault .corruptResponse, .call (.read 0#32 4 100)]).transport.trace.map
        TraceRecord.direction := by decide +kernel
  obtain ⟨record, member, direction⟩ := List.mem_map.mp received
  refine ⟨record, member, direction, (printed_bytes_inspect {} {} _ record member).2 ?_⟩
  rw [direction]
  decide

end Cli

end Imlp
