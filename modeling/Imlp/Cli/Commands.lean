import Imlp.Cli.Inspect
import Imlp.System.Faultless

/-!
# What the commands print

`read` and `write` run one operation of a fresh client against a fresh server, without faults.
Such an operation makes one exchange, so its result and its trace are given by the server's
answer, and the output of the commands can be written down for all arguments.
-/

namespace Imlp
open MemoryServer Client LoopbackTransport

namespace Cli

/-- One operation of a fresh client on a fresh server, as `run_read` and `run_write` make it. -/
def runOperation (policy : ServerPolicy) (op : ClientOp) : Console :=
  let (result, _, transport) :=
    (Client.new {}).perform asTransport (LoopbackTransport.new (.new policy)) op
  finish result transport

/-- The trace of an exchange with a fresh server. -/
def printExchange (policy : ServerPolicy) (request : Frame) : List CChar :=
  let answer := (MemoryServer.new policy).answer request
  printTrace (exchangeRecords 1#64 (wireBytes request) answer.detail
    (wireBytes (responseFrame request answer)))

/-- An operation of a fresh client with valid arguments: the verdict on the server's answer is
printed, and then the exchange. -/
theorem runOperation_valid (policy : ServerPolicy) {op : ClientOp} (valid : op.Valid) :
    ∃ result, Verdict (op.request 1#32)
        (wireBytes (responseFrame (op.request 1#32)
          ((MemoryServer.new policy).answer (op.request 1#32))))
        (plan 1#32 2 op).expectedOpcode (plan 1#32 2 op).expectedLength 1 result ∧
      runOperation policy op =
        { exitCode := if result.toBool then 0 else 4
          stdout := printResult result ++ printExchange policy (op.request 1#32) } := by
  have fresh : (LoopbackTransport.new (.new policy)).faults = [] := rfl
  obtain ⟨verdict, trace⟩ := perform_faultless (Client.new {}) valid fresh
  refine ⟨_, verdict, ?_⟩
  rw [runOperation]
  simp only [finish, trace]
  rfl

/-- An operation with invalid arguments sends nothing. -/
theorem runOperation_invalid (policy : ServerPolicy) {op : ClientOp} (invalid : ¬ op.Valid) :
    runOperation policy op = { exitCode := 4, stdout := printResult (rejection 1#32 op) } := by
  obtain ⟨-, -, performed⟩ | ⟨valid, -⟩ :=
    perform_run asTransport (Client.new {}) (LoopbackTransport.new (.new policy)) op
  · rw [runOperation, performed]
    cases op <;> simp [finish, printTrace, LoopbackTransport.new, rejection, OperationResult.toBool,
      Client.new]
  · exact absurd valid invalid

/-- Without two numbers nothing runs. -/
theorem runRead_of_none {addressText lengthText : List CChar}
    (failed : parseU32 addressText = none ∨ parseU32 lengthText = none) :
    runRead addressText lengthText =
      { exitCode := 2, stderr := chars "error=invalid_address_or_length\n" } := by
  rcases failed with failed | failed
  · rw [runRead, failed]
  · rw [runRead, failed]
    cases parseU32 addressText <;> rfl

/-- What `read` leaves for two numbers. -/
def readConsole (address length : BitVec 32) : Console :=
  let request := readRequest 1#32 address length.toNat
  if length.toNat = 0 ∨ maximumPayloadSize < length.toNat then
    { exitCode := 4
      stdout := printResult {
        error := .invalidArgument
        requestId := 1#32
        detail := "read length and deadline must be positive and bounded" } }
  else if address.toNat + length.toNat ≤ 0x800 then
    { exitCode := 0
      stdout := printResult {
        requestId := 1#32
        attempts := 1
        data := (List.range' address.toNat length.toNat).map MemoryMap.initial.byte
        detail := "ok" } ++ printExchange {} request }
  else
    { exitCode := 4
      stdout := printResult {
        error := .remoteError
        remoteStatus :=
          if 4096 < address.toNat + length.toNat then .outOfRange else .accessDenied
        requestId := 1#32
        attempts := 1
        data := textPayload "read_rejected"
        detail := "remote request rejected" } ++ printExchange {} request }

theorem runRead_of_some {addressText lengthText : List CChar} {address length : BitVec 32}
    (parsedAddress : parseU32 addressText = some address)
    (parsedLength : parseU32 lengthText = some length) :
    runRead addressText lengthText = readConsole address length := by
  have ran : runRead addressText lengthText =
      runOperation {} (.read address length.toNat 100) := by
    rw [runRead, parsedAddress, parsedLength]
    rfl
  rw [ran, readConsole]
  by_cases refused : length.toNat = 0 ∨ maximumPayloadSize < length.toNat
  · have invalid : ¬ (ClientOp.read address length.toNat 100).Valid := by
      rintro ⟨positive, small, -⟩
      omega
    rw [if_pos refused]
    exact runOperation_invalid {} invalid
  · have positive : 0 < length.toNat := by omega
    have small : length.toNat ≤ maximumPayloadSize := by omega
    have valid : (ClientOp.read address length.toNat 100).Valid :=
      ⟨positive, small, by decide⟩
    obtain ⟨result, verdict, printed⟩ := runOperation_valid {} valid
    rw [if_neg refused, printed]
    by_cases inside : address.toNat + length.toNat ≤ 0x800
    · rw [if_pos inside, read_data_result positive small inside verdict]
      rfl
    · rw [if_neg inside, read_refused_result positive small (by omega) verdict]
      rfl

/-- The `read` command for all arguments. Texts that are no numbers are exit code 2. A length
the client refuses sends nothing. Otherwise one exchange is made and printed, and the exit
code is 0 exactly when the interval is readable; then the constructor's bytes are printed. -/
theorem read_command_exact (addressText lengthText : List CChar) :
    (parseU32 addressText = none ∨ parseU32 lengthText = none →
      runRead addressText lengthText =
        { exitCode := 2, stderr := chars "error=invalid_address_or_length\n" }) ∧
    (∀ address length, parseU32 addressText = some address → parseU32 lengthText = some length →
      runRead addressText lengthText = readConsole address length) :=
  ⟨runRead_of_none, fun _ _ parsedAddress parsedLength =>
    runRead_of_some parsedAddress parsedLength⟩

/-- What a writable server with the default allowlist answers: the allowlist is exactly the
read/write region, so the address map is never asked to refuse. -/
theorem answerWrite_enabled {start length : Nat} (positive : 0 < length) :
    answerWrite { writesEnabled := true } start length =
      if 0x100 ≤ start ∧ start + length ≤ 0x800 then
        { opcode := .writeAcknowledgement, status := .ok, payload := [], detail := "write_ok" }
      else .refuse .accessDenied "outside_write_allowlist" := by
  have allowlist : InAllowlist { writesEnabled := true } start length ↔
      0x100 ≤ start ∧ start + length ≤ 0x800 := by
    show 0x100 ≤ start ∧ start + length - 1 ≤ 0x7FF ↔ _
    omega
  rw [answerWrite, if_neg (by decide)]
  by_cases inside : 0x100 ≤ start ∧ start + length ≤ 0x800
  · rw [if_neg (not_not.mpr (allowlist.mpr inside)), if_neg (by omega), if_neg (by omega),
      if_pos inside]
  · rw [if_pos (fun h => inside (allowlist.mp h)), if_neg inside]

/-- The verdict on the answer to a write. -/
theorem write_result {address : BitVec 32} {data : List Byte} {result : OperationResult}
    (nonempty : data ≠ [])
    (verdict : Verdict (writeRequest 1#32 address data)
      (wireBytes (responseFrame (writeRequest 1#32 address data)
        ((MemoryServer.new { writesEnabled := true }).answer (writeRequest 1#32 address data))))
      .writeAcknowledgement 0 1 result) :
    result =
      if 0x100 ≤ address.toNat ∧ address.toNat + data.length ≤ 0x800 then
        { requestId := 1#32, attempts := 1, detail := "ok" }
      else
        { error := .remoteError
          remoteStatus := .accessDenied
          requestId := 1#32
          attempts := 1
          data := textPayload "outside_write_allowlist"
          detail := "remote request rejected" } := by
  have decoded := decode_answer (MemoryServer.new { writesEnabled := true })
    (writeRequest 1#32 address data)
  have answered : (MemoryServer.new { writesEnabled := true }).answer
        (writeRequest 1#32 address data) =
      answerWrite { writesEnabled := true } address.toNat data.length := rfl
  rw [answered, answerWrite_enabled (List.length_pos_iff.mpr nonempty)] at verdict decoded
  split at verdict
  · rename_i inside
    rw [if_pos inside] at decoded ⊢
    refine verdict.eq_accepted decoded rfl rfl ?_ rfl rfl
    intro error
    cases error
  · rename_i outside
    rw [if_neg outside] at decoded ⊢
    exact verdict.eq_remote decoded rfl rfl rfl

/-- Without a number, a nonempty payload and the exact confirmation nothing runs. -/
theorem runWrite_refused {addressText payloadText confirmation : List CChar}
    (refused : parseU32 addressText = none ∨ bytesFromHex payloadText = none ∨
      bytesFromHex payloadText = some [] ∨ confirmation ≠ chars "--allow-writes") :
    runWrite addressText payloadText confirmation =
      { exitCode := 2, stderr := chars "error=invalid_write_or_missing_explicit_opt_in\n" } := by
  rw [runWrite]
  cases parsed : parseU32 addressText with
  | none => rfl
  | some address =>
    cases read : bytesFromHex payloadText with
    | none => rfl
    | some payload =>
      have stops : payload = [] ∨ confirmation ≠ chars "--allow-writes" := by
        rw [parsed, read] at refused
        simpa using refused
      exact if_pos stops

/-- What a confirmed `write` leaves for a number and a nonempty payload. -/
def writeConsole (address : BitVec 32) (payload : List Byte) : Console :=
  let request := writeRequest 1#32 address payload
  if maximumPayloadSize < payload.length then
    { exitCode := 4
      stdout := printResult {
        error := .invalidArgument
        requestId := 1#32
        detail := "write payload and deadline must be positive and bounded" } }
  else if 0x100 ≤ address.toNat ∧ address.toNat + payload.length ≤ 0x800 then
    { exitCode := 0
      stdout := printResult { requestId := 1#32, attempts := 1, detail := "ok" } ++
        printExchange { writesEnabled := true } request }
  else
    { exitCode := 4
      stdout := printResult {
        error := .remoteError
        remoteStatus := .accessDenied
        requestId := 1#32
        attempts := 1
        data := textPayload "outside_write_allowlist"
        detail := "remote request rejected" } ++ printExchange { writesEnabled := true } request }

theorem runWrite_confirmed {addressText payloadText : List CChar} {address : BitVec 32}
    {payload : List Byte} (parsed : parseU32 addressText = some address)
    (read : bytesFromHex payloadText = some payload) (nonempty : payload ≠ []) :
    runWrite addressText payloadText (chars "--allow-writes") = writeConsole address payload := by
  have ran : runWrite addressText payloadText (chars "--allow-writes") =
      runOperation { writesEnabled := true } (.write address payload 100) := by
    rw [runWrite, parsed, read]
    exact if_neg (not_or.mpr ⟨nonempty, not_not.mpr rfl⟩)
  rw [ran, writeConsole]
  by_cases large : maximumPayloadSize < payload.length
  · have invalid : ¬ (ClientOp.write address payload 100).Valid := by
      rintro ⟨-, small, -⟩
      omega
    rw [if_pos large]
    exact runOperation_invalid _ invalid
  · have valid : (ClientOp.write address payload 100).Valid := ⟨nonempty, by omega, by decide⟩
    obtain ⟨result, verdict, printed⟩ := runOperation_valid { writesEnabled := true } valid
    rw [if_neg large, printed, write_result nonempty verdict]
    by_cases inside : 0x100 ≤ address.toNat ∧ address.toNat + payload.length ≤ 0x800
    · rw [if_pos inside, if_pos inside]
      rfl
    · rw [if_neg inside, if_neg inside]
      rfl

/-- The `write` command for all arguments. Without the exact confirmation, a number and a
nonempty payload in hexadecimal nothing runs. A payload over the bound sends nothing.
Otherwise one exchange is made and printed, and the exit code is 0 exactly when the interval
lies in the read/write region. -/
theorem write_command_exact (addressText payloadText confirmation : List CChar) :
    (parseU32 addressText = none ∨ bytesFromHex payloadText = none ∨
        bytesFromHex payloadText = some [] ∨ confirmation ≠ chars "--allow-writes" →
      runWrite addressText payloadText confirmation =
        { exitCode := 2, stderr := chars "error=invalid_write_or_missing_explicit_opt_in\n" }) ∧
    (∀ address payload, parseU32 addressText = some address →
      bytesFromHex payloadText = some payload → payload ≠ [] →
      confirmation = chars "--allow-writes" →
      runWrite addressText payloadText confirmation = writeConsole address payload) := by
  refine ⟨runWrite_refused, ?_⟩
  rintro address payload parsed read nonempty rfl
  exact runWrite_confirmed parsed read nonempty

end Cli

end Imlp
