import Imlp.Client

/-!
# The command line

Rendering of `apps/cli_main.cpp`. A command is a function of its arguments, the strings after
the program's name, and leaves an exit code and what it wrote to the two output streams. The
server, the transport and the client of a command live only as long as the command.

`std::from_chars` and the formatted output of unsigned integers are the standard library's.
They are rendered from their documented behaviour: no sign, no white space and no prefix is
read, all leading digits are consumed, and a value that does not fit is an error.
-/

namespace Imlp

/-- What a command leaves behind. -/
structure Console where
  exitCode : Nat
  stdout : List CChar := []
  stderr : List CChar := []
  deriving DecidableEq, Repr

namespace Cli

/-- The characters of a string. -/
def chars (text : String) : List CChar := text.toList.map ascii

/-- An unsigned integer as `operator<<` writes it. -/
def decimal (value : Nat) : List CChar := (Nat.toDigits 10 value).map ascii

/-- An unsigned integer as `operator<<` writes it after `std::hex`. -/
def hexadecimal (value : Nat) : List CChar := (Nat.toDigits 16 value).map ascii

/-- The value of a digit as `std::from_chars` reads it: the decimal digits, then the letters of
    either case from ten on, as far as the base goes. -/
def digitValue (base : Nat) (char : CChar) : Option Nat :=
  let code := char.toNat
  let digit :=
    if '0'.toNat ≤ code ∧ code ≤ '9'.toNat then some (code - '0'.toNat)
    else if 'a'.toNat ≤ code ∧ code ≤ 'z'.toNat then some (code - 'a'.toNat + 10)
    else if 'A'.toNat ≤ code ∧ code ≤ 'Z'.toNat then some (code - 'A'.toNat + 10)
    else none
  digit.filter (· < base)

/-- `std::errc` as `std::from_chars` returns it. -/
inductive Errc where
  | none
  | invalidArgument
  | resultOutOfRange
  deriving DecidableEq, Repr

/-- `std::from_chars_result` with the value that was stored, if one was; `stop` is the
    position of the first character that is not part of the number. -/
structure FromCharsResult where
  stop : Nat := 0
  error : Errc := Errc.none
  value : Option (BitVec 32) := Option.none
  deriving DecidableEq, Repr

/-- `std::from_chars` for a `std::uint32_t`. -/
def fromChars (text : List CChar) (base : Nat) : FromCharsResult :=
  let digits := text.takeWhile fun char => (digitValue base char).isSome
  if digits = [] then { error := .invalidArgument }
  else
    let value := digits.foldl (fun value char => value * base + (digitValue base char).getD 0) 0
    if value < 0x100000000 then { stop := digits.length, value := some (BitVec.ofNat 32 value) }
    else { stop := digits.length, error := .resultOutOfRange }

/-- `parse_u32` (`cli_main.cpp:38-47`): the value that was stored when it returns true. -/
def parseU32 (text : List CChar) : Option (BitVec 32) :=
  let hexPrefixed := text.length > 2 ∧ text.take 2 = chars "0x"
  let base := if hexPrefixed then 16 else 10
  let text := if hexPrefixed then text.drop 2 else text
  if text = [] then none
  else
    let parsed := fromChars text base
    if parsed.error = .none ∧ parsed.stop = text.length then parsed.value else none

/-- `print_usage` (`cli_main.cpp:27-35`). -/
def usage : List CChar :=
  chars ("Industrial Memory Protocol Workbench (synthetic simulator only)\n" ++
    "usage:\n" ++
    "  imlp-cli inspect <frame-hex>\n" ++
    "  imlp-cli encode-read <address> <length>\n" ++
    "  imlp-cli read <address> <length>\n" ++
    "  imlp-cli write <address> <payload-hex> --allow-writes\n" ++
    "  imlp-cli demo\n")

/-- `status_name` (`cli_main.cpp:50-66`). -/
def statusName (status : Status) : String :=
  if status = .ok then "ok"
  else if status = .badRequest then "bad_request"
  else if status = .outOfRange then "out_of_range"
  else if status = .writeDisabled then "write_disabled"
  else if status = .accessDenied then "access_denied"
  else if status = .internalError then "internal_error"
  else "unknown"

/-- `print_result` (`cli_main.cpp:69-76`). -/
def printResult (result : OperationResult) : List CChar :=
  chars "request_id=" ++ decimal result.requestId.toNat ++
    chars " client_error=" ++ chars (clientErrorName result.error) ++
    chars " remote_status=" ++ chars (statusName result.remoteStatus) ++
    chars " attempts=" ++ decimal result.attempts ++ chars " detail=" ++ chars result.detail ++
    (if result.data ≠ [] then chars " data=" ++ bytesToHex result.data else []) ++ chars "\n"

/-- The line of one record (`cli_main.cpp:81-83`). -/
def traceLine (record : TraceRecord) : List CChar :=
  chars "trace=" ++ decimal record.sequence.toNat ++ chars " direction=" ++
    chars record.direction ++ chars " outcome=" ++ chars record.outcome ++ chars " bytes=" ++
    bytesToHex record.bytes ++ chars "\n"

/-- `print_trace` (`cli_main.cpp:79-85`). -/
def printTrace (trace : List TraceRecord) : List CChar :=
  trace.foldl (fun output record => output ++ traceLine record) []

/-- What `run_inspect` writes about a frame (`cli_main.cpp:100-105`). -/
def inspectReport (frame : Frame) : List CChar :=
  chars "version=" ++ decimal frame.version.toNat ++ chars " opcode=0x" ++
    hexadecimal frame.opcode.toByte.toNat ++ chars " flags=" ++ decimal frame.flags.toNat ++
    chars " request_id=" ++ decimal frame.requestId.toNat ++ chars " address=" ++
    decimal frame.address.toNat ++ chars " status=" ++ chars (statusName frame.status) ++
    chars " payload=" ++ bytesToHex frame.payload ++ chars "\n"

/-- `run_inspect` (`cli_main.cpp:88-107`). -/
def runInspect (text : List CChar) : Console :=
  match bytesFromHex text with
  | none => { exitCode := 2, stderr := chars "error=invalid_hex\n" }
  | some bytes =>
    let decoded := decode bytes
    match decoded.toBool, decoded.frame with
    | true, some frame => { exitCode := 0, stdout := inspectReport frame }
    | _, _ =>
      { exitCode := 3
        stderr := chars "error=" ++ chars (codecErrorName decoded.error) ++ chars "\n" }

/-- `run_encode_read` (`cli_main.cpp:110-134`). -/
def runEncodeRead (addressText lengthText : List CChar) : Console :=
  match parseU32 addressText, parseU32 lengthText with
  | some address, some length =>
    if length = 0#32 ∨ length.toNat > maximumPayloadSize then
      { exitCode := 2, stderr := chars "error=invalid_address_or_length\n" }
    else
      let wireLength := length.setWidth 16
      let request : Frame := {
        opcode := .readRequest
        requestId := 1#32
        address := address
        payload := [((wireLength >>> 8) &&& 0xFF#16).setWidth 8,
          (wireLength &&& 0xFF#16).setWidth 8] }
      let encoded := encode request
      if !encoded.toBool then
        { exitCode := 3
          stderr := chars "error=" ++ chars (codecErrorName encoded.error) ++ chars "\n" }
      else { exitCode := 0, stdout := bytesToHex encoded.bytes ++ chars "\n" }
  | _, _ => { exitCode := 2, stderr := chars "error=invalid_address_or_length\n" }

/-- The end of `run_read` and of `run_write`: the result, the trace and the exit code. -/
def finish (result : OperationResult) (transport : LoopbackTransport) : Console where
  exitCode := if result.toBool then 0 else 4
  stdout := printResult result ++ printTrace transport.trace

/-- `run_read` (`cli_main.cpp:137-152`). -/
def runRead (addressText lengthText : List CChar) : Console :=
  match parseU32 addressText, parseU32 lengthText with
  | some address, some length =>
    let transport := LoopbackTransport.new (.new {})
    let (result, _, transport) :=
      (Client.new {}).read LoopbackTransport.asTransport transport address length.toNat 100
    finish result transport
  | _, _ => { exitCode := 2, stderr := chars "error=invalid_address_or_length\n" }

/-- `run_write` (`cli_main.cpp:156-173`). -/
def runWrite (addressText payloadText confirmation : List CChar) : Console :=
  let payload := bytesFromHex payloadText
  match parseU32 addressText, payload with
  | some address, some payload =>
    if payload = [] ∨ confirmation ≠ chars "--allow-writes" then
      { exitCode := 2, stderr := chars "error=invalid_write_or_missing_explicit_opt_in\n" }
    else
      let transport := LoopbackTransport.new (.new { writesEnabled := true })
      let (result, _, transport) :=
        (Client.new {}).write LoopbackTransport.asTransport transport address payload 100
      finish result transport
  | _, _ => { exitCode := 2, stderr := chars "error=invalid_write_or_missing_explicit_opt_in\n" }

/-- `run_demo` (`cli_main.cpp:177-202`). -/
def runDemo : Console :=
  let sample : List Byte := [0x12#8, 0x34#8]
  let loopback := LoopbackTransport.asTransport
  let transport := LoopbackTransport.new (.new {})
  let (plainRead, client, transport) := (Client.new {}).read loopback transport 0x0000#32 12 100
  let (deniedWrite, client, transport) := client.write loopback transport 0x0100#32 sample 100
  let transport := transport.pushFault .timeout
  let (retriedRead, client, transport) := client.read loopback transport 0x0040#32 1 100
  let transport := transport.pushFault .corruptResponse
  let (corruptedRead, _, transport) := client.read loopback transport 0x0000#32 4 100
  let writable := LoopbackTransport.new (.new { writesEnabled := true })
  let (allowedWrite, client, writable) :=
    (Client.new {}).write loopback writable 0x0100#32 sample 100
  let (readBack, _, _) := client.read loopback writable 0x0100#32 sample.length 100
  { exitCode := 0
    stdout := chars "scenario=read_only_default\n" ++ printResult plainRead ++
      printResult deniedWrite ++ chars "scenario=transient_read_timeout\n" ++
      printResult retriedRead ++ chars "scenario=corrupted_response\n" ++
      printResult corruptedRead ++ printTrace transport.trace ++
      chars "scenario=explicit_write_opt_in\n" ++ printResult allowedWrite ++
      printResult readBack }

/-- `main` (`cli_main.cpp:208-221`) on the arguments after the program's name. -/
def main (arguments : List (List CChar)) : Console :=
  match arguments with
  | [] => { exitCode := 1, stdout := usage }
  | command :: rest =>
    if command = chars "inspect" ∧ rest.length = 1 then runInspect (rest.getD 0 [])
    else if command = chars "encode-read" ∧ rest.length = 2 then
      runEncodeRead (rest.getD 0 []) (rest.getD 1 [])
    else if command = chars "read" ∧ rest.length = 2 then
      runRead (rest.getD 0 []) (rest.getD 1 [])
    else if command = chars "write" ∧ rest.length = 3 then
      runWrite (rest.getD 0 []) (rest.getD 1 []) (rest.getD 2 [])
    else if command = chars "demo" ∧ rest.length = 0 then runDemo
    else { exitCode := 1, stdout := usage }

end Cli

end Imlp
