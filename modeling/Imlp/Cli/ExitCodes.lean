import Imlp.Cli.Commands

/-!
# Exit codes and streams

`docs/cli.md` gives the meaning of the five exit codes. `Exit` says for every list of arguments
which of them it leads to, in terms of the texts alone, and `Reports` which stream is written.

The document counts a missing write opt-in under code 2 and shows `write 0x100 deadbeef` as the
command that fails for it. The program (`cli_main.cpp:217-220`) takes a `write` only with three
arguments: with another opt-in text it exits with 2, but with the opt-in left out it prints its
usage and exits with 1 (`main_write_without_opt_in`).
-/

namespace Imlp
namespace Cli

/-- The commands of `main` with the number of their arguments. -/
def commands : List (String × Nat) :=
  [("inspect", 1), ("encode-read", 2), ("read", 2), ("write", 3), ("demo", 0)]

/-- The arguments are those of a command. -/
def Recognised (arguments : List (List CChar)) : Prop :=
  ∃ command ∈ commands, ∃ rest, rest.length = command.2 ∧
    arguments = chars command.1 :: rest

/-- A read length the client accepts. -/
def ReadLength (length : BitVec 32) : Prop :=
  0 < length.toNat ∧ length.toNat ≤ maximumPayloadSize

instance (length : BitVec 32) : Decidable (ReadLength length) :=
  inferInstanceAs (Decidable (_ ∧ _))

/-- The exit code that a list of arguments leads to. -/
inductive Exit : List (List CChar) → Nat → Prop
  | usage {arguments : List (List CChar)} (unknown : ¬ Recognised arguments) : Exit arguments 1
  | demo : Exit [chars "demo"] 0
  | inspected {text : List CChar} {bytes : List Byte} {frame : Frame}
      (read : bytesFromHex text = some bytes) (decoded : (decode bytes).frame = some frame) :
      Exit [chars "inspect", text] 0
  | notHexadecimal {text : List CChar} (unread : bytesFromHex text = none) :
      Exit [chars "inspect", text] 2
  | notFrame {text : List CChar} {bytes : List Byte} (read : bytesFromHex text = some bytes)
      (rejected : (decode bytes).frame = none) : Exit [chars "inspect", text] 3
  | encoded {addressText lengthText : List CChar} {address length : BitVec 32}
      (parsedAddress : parseU32 addressText = some address)
      (parsedLength : parseU32 lengthText = some length) (accepted : ReadLength length) :
      Exit [chars "encode-read", addressText, lengthText] 0
  | notEncoded {addressText lengthText : List CChar}
      (refused : ∀ address length, parseU32 addressText = some address →
        parseU32 lengthText = some length → ¬ ReadLength length) :
      Exit [chars "encode-read", addressText, lengthText] 2
  | readable {addressText lengthText : List CChar} {address length : BitVec 32}
      (parsedAddress : parseU32 addressText = some address)
      (parsedLength : parseU32 lengthText = some length) (accepted : ReadLength length)
      (inside : address.toNat + length.toNat ≤ 0x800) :
      Exit [chars "read", addressText, lengthText] 0
  | unreadable {addressText lengthText : List CChar} {address length : BitVec 32}
      (parsedAddress : parseU32 addressText = some address)
      (parsedLength : parseU32 lengthText = some length)
      (refused : ¬ (ReadLength length ∧ address.toNat + length.toNat ≤ 0x800)) :
      Exit [chars "read", addressText, lengthText] 4
  | noInterval {addressText lengthText : List CChar}
      (unparsed : parseU32 addressText = none ∨ parseU32 lengthText = none) :
      Exit [chars "read", addressText, lengthText] 2
  | written {addressText payloadText : List CChar} {address : BitVec 32} {payload : List Byte}
      (parsed : parseU32 addressText = some address)
      (read : bytesFromHex payloadText = some payload) (nonempty : payload ≠ [])
      (small : payload.length ≤ maximumPayloadSize)
      (inside : 0x100 ≤ address.toNat ∧ address.toNat + payload.length ≤ 0x800) :
      Exit [chars "write", addressText, payloadText, chars "--allow-writes"] 0
  | unwritten {addressText payloadText : List CChar} {address : BitVec 32} {payload : List Byte}
      (parsed : parseU32 addressText = some address)
      (read : bytesFromHex payloadText = some payload) (nonempty : payload ≠ [])
      (refused : ¬ (payload.length ≤ maximumPayloadSize ∧ 0x100 ≤ address.toNat ∧
        address.toNat + payload.length ≤ 0x800)) :
      Exit [chars "write", addressText, payloadText, chars "--allow-writes"] 4
  | noWrite {addressText payloadText confirmation : List CChar}
      (refused : parseU32 addressText = none ∨ bytesFromHex payloadText = none ∨
        bytesFromHex payloadText = some [] ∨ confirmation ≠ chars "--allow-writes") :
      Exit [chars "write", addressText, payloadText, confirmation] 2

/-- A command either writes one line with an error to the error stream, or whole lines to the
standard output. -/
inductive Reports : Console → Prop
  | error {code : Nat} (failure : code = 2 ∨ code = 3) (name : String)
      (oneLine : ascii '\n' ∉ chars name) :
      Reports { exitCode := code, stderr := chars "error=" ++ chars name ++ chars "\n" }
  | output {code : Nat} (other : code = 0 ∨ code = 1 ∨ code = 4) (text : List CChar) :
      Reports { exitCode := code, stdout := text ++ chars "\n" }

theorem main_inspect (text : List CChar) : main [chars "inspect", text] = runInspect text := by
  simp [main]

theorem main_encode_read (addressText lengthText : List CChar) :
    main [chars "encode-read", addressText, lengthText] =
      runEncodeRead addressText lengthText := by
  simp [main]

theorem main_read (addressText lengthText : List CChar) :
    main [chars "read", addressText, lengthText] = runRead addressText lengthText := by
  have other : chars "read" ≠ chars "encode-read" := by decide
  simp [main, other]

theorem main_write (addressText payloadText confirmation : List CChar) :
    main [chars "write", addressText, payloadText, confirmation] =
      runWrite addressText payloadText confirmation := by
  simp [main]

theorem main_demo : main [chars "demo"] = runDemo := by
  simp [main]

theorem main_of_not_recognised {arguments : List (List CChar)}
    (unknown : ¬ Recognised arguments) : main arguments = { exitCode := 1, stdout := usage } := by
  cases arguments with
  | nil => rfl
  | cons command rest =>
    have other : ∀ known ∈ commands, ¬ (command = chars known.1 ∧ rest.length = known.2) := by
      rintro known member ⟨rfl, count⟩
      exact unknown ⟨known, member, rest, count, rfl⟩
    rw [main, if_neg (other ("inspect", 1) (by decide)),
      if_neg (other ("encode-read", 2) (by decide)), if_neg (other ("read", 2) (by decide)),
      if_neg (other ("write", 3) (by decide)), if_neg (other ("demo", 0) (by decide))]

theorem main_write_without_opt_in (addressText payloadText : List CChar) :
    main [chars "write", addressText, payloadText] = { exitCode := 1, stdout := usage } := by
  apply main_of_not_recognised
  rintro ⟨command, member, rest, count, same⟩
  obtain ⟨named, rfl⟩ := List.cons.inj same
  have short : ∀ command ∈ commands, chars "write" = chars command.1 → command.2 ≠ 2 := by decide
  exact short command member named count.symm

theorem readConsole_exitCode (address length : BitVec 32) :
    (readConsole address length).exitCode =
      if ReadLength length ∧ address.toNat + length.toNat ≤ 0x800 then 0 else 4 := by
  unfold readConsole ReadLength
  dsimp only
  repeat' split
  all_goals first | rfl | omega

theorem writeConsole_exitCode (address : BitVec 32) (payload : List Byte) :
    (writeConsole address payload).exitCode =
      if payload.length ≤ maximumPayloadSize ∧ 0x100 ≤ address.toNat ∧
          address.toNat + payload.length ≤ 0x800 then 0 else 4 := by
  unfold writeConsole
  dsimp only
  repeat' split
  all_goals first | rfl | omega

theorem runEncodeRead_refused {addressText lengthText : List CChar}
    (refused : ∀ address length, parseU32 addressText = some address →
      parseU32 lengthText = some length → ¬ ReadLength length) :
    runEncodeRead addressText lengthText =
      { exitCode := 2, stderr := chars "error=invalid_address_or_length\n" } := by
  rw [runEncodeRead_eq]
  split
  · rename_i address length parsedAddress parsedLength
    exact if_neg (refused address length parsedAddress parsedLength)
  · rfl

theorem runEncodeRead_accepted {addressText lengthText : List CChar}
    {address length : BitVec 32} (parsedAddress : parseU32 addressText = some address)
    (parsedLength : parseU32 lengthText = some length) (accepted : ReadLength length) :
    runEncodeRead addressText lengthText =
      { exitCode := 0
        stdout := bytesToHex (wireBytes (Client.readRequest 1#32 address length.toNat)) ++
          chars "\n" } := by
  rw [runEncodeRead_eq, parsedAddress, parsedLength]
  exact if_pos accepted

/-- The demonstration ends with the result of reading back what was written. -/
theorem runDemo_ends : ∃ text result,
    runDemo = { exitCode := 0, stdout := text ++ printResult result } := by
  unfold runDemo
  extract_lets
  repeat' split
  exact ⟨_, _, rfl⟩

theorem Exit.exitCode_eq {arguments : List (List CChar)} {code : Nat}
    (exit : Exit arguments code) : (main arguments).exitCode = code := by
  cases exit with
  | usage unknown => rw [main_of_not_recognised unknown]
  | demo =>
    obtain ⟨_, _, ran⟩ := runDemo_ends
    rw [main_demo, ran]
  | inspected read decoded =>
    obtain ⟨valid, rfl⟩ := (decode_ok_iff _ _).mp decoded
    rw [main_inspect, runInspect_of_frame valid read]
  | @notHexadecimal text unread =>
    rw [main_inspect]
    rcases runInspect_cases text with ⟨-, ran⟩ | ⟨_, read, -⟩ | ⟨_, -, read, -⟩
    · rw [ran]
    · cases unread.symm.trans read
    · cases unread.symm.trans read
  | @notFrame text bytes read rejected =>
    rw [main_inspect]
    rcases runInspect_cases text with ⟨unread, -⟩ | ⟨_, -, -, -, ran⟩ | ⟨frame, valid, found, -⟩
    · cases unread.symm.trans read
    · rw [ran]
    · obtain rfl := Option.some.inj (read.symm.trans found)
      cases rejected.symm.trans ((decode_ok_iff _ frame).mpr ⟨valid, rfl⟩)
  | encoded parsedAddress parsedLength accepted =>
    rw [main_encode_read, runEncodeRead_accepted parsedAddress parsedLength accepted]
  | notEncoded refused => rw [main_encode_read, runEncodeRead_refused refused]
  | readable parsedAddress parsedLength accepted inside =>
    rw [main_read, runRead_of_some parsedAddress parsedLength, readConsole_exitCode,
      if_pos ⟨accepted, inside⟩]
  | unreadable parsedAddress parsedLength refused =>
    rw [main_read, runRead_of_some parsedAddress parsedLength, readConsole_exitCode,
      if_neg refused]
  | noInterval unparsed => rw [main_read, runRead_of_none unparsed]
  | written parsed read nonempty small inside =>
    rw [main_write, runWrite_confirmed parsed read nonempty, writeConsole_exitCode,
      if_pos ⟨small, inside⟩]
  | unwritten parsed read nonempty refused =>
    rw [main_write, runWrite_confirmed parsed read nonempty, writeConsole_exitCode,
      if_neg refused]
  | noWrite refused => rw [main_write, runWrite_refused refused]

theorem exit_inspect (text : List CChar) : ∃ code, Exit [chars "inspect", text] code := by
  cases read : bytesFromHex text with
  | none => exact ⟨2, .notHexadecimal read⟩
  | some bytes =>
    cases decoded : (decode bytes).frame with
    | none => exact ⟨3, .notFrame read decoded⟩
    | some frame => exact ⟨0, .inspected read decoded⟩

theorem exit_encode_read (addressText lengthText : List CChar) :
    ∃ code, Exit [chars "encode-read", addressText, lengthText] code := by
  by_cases accepted : ∃ address length, parseU32 addressText = some address ∧
      parseU32 lengthText = some length ∧ ReadLength length
  · obtain ⟨address, length, parsedAddress, parsedLength, accepted⟩ := accepted
    exact ⟨0, .encoded parsedAddress parsedLength accepted⟩
  · refine ⟨2, .notEncoded fun address length parsedAddress parsedLength valid => accepted ?_⟩
    exact ⟨address, length, parsedAddress, parsedLength, valid⟩

theorem exit_read (addressText lengthText : List CChar) :
    ∃ code, Exit [chars "read", addressText, lengthText] code := by
  cases parsedAddress : parseU32 addressText with
  | none => exact ⟨2, .noInterval (.inl parsedAddress)⟩
  | some address =>
    cases parsedLength : parseU32 lengthText with
    | none => exact ⟨2, .noInterval (.inr parsedLength)⟩
    | some length =>
      by_cases inside : ReadLength length ∧ address.toNat + length.toNat ≤ 0x800
      · exact ⟨0, .readable parsedAddress parsedLength inside.1 inside.2⟩
      · exact ⟨4, .unreadable parsedAddress parsedLength inside⟩

theorem exit_write (addressText payloadText confirmation : List CChar) :
    ∃ code, Exit [chars "write", addressText, payloadText, confirmation] code := by
  by_cases refused : parseU32 addressText = none ∨ bytesFromHex payloadText = none ∨
      bytesFromHex payloadText = some [] ∨ confirmation ≠ chars "--allow-writes"
  · exact ⟨2, .noWrite refused⟩
  · simp only [not_or, not_not] at refused
    obtain ⟨someAddress, somePayload, nonempty, rfl⟩ := refused
    obtain ⟨address, parsed⟩ := Option.ne_none_iff_exists'.mp someAddress
    obtain ⟨payload, read⟩ := Option.ne_none_iff_exists'.mp somePayload
    have filled : payload ≠ [] := fun empty => nonempty (by rw [read, empty])
    by_cases inside : payload.length ≤ maximumPayloadSize ∧ 0x100 ≤ address.toNat ∧
        address.toNat + payload.length ≤ 0x800
    · exact ⟨0, .written parsed read filled inside.1 inside.2⟩
    · exact ⟨4, .unwritten parsed read filled inside⟩

/-- The five shapes of arguments with a command. -/
theorem Recognised.cases {arguments : List (List CChar)} (known : Recognised arguments) :
    (∃ text, arguments = [chars "inspect", text]) ∨
    (∃ addressText lengthText, arguments = [chars "encode-read", addressText, lengthText]) ∨
    (∃ addressText lengthText, arguments = [chars "read", addressText, lengthText]) ∨
    (∃ addressText payloadText confirmation,
      arguments = [chars "write", addressText, payloadText, confirmation]) ∨
    arguments = [chars "demo"] := by
  obtain ⟨command, member, rest, count, rfl⟩ := known
  simp only [commands, List.mem_cons, List.not_mem_nil, or_false] at member
  rcases member with rfl | rfl | rfl | rfl | rfl
  · obtain ⟨text, rfl⟩ := List.length_eq_one_iff.mp count
    exact .inl ⟨text, rfl⟩
  · obtain ⟨addressText, lengthText, rfl⟩ := List.length_eq_two.mp count
    exact .inr (.inl ⟨addressText, lengthText, rfl⟩)
  · obtain ⟨addressText, lengthText, rfl⟩ := List.length_eq_two.mp count
    exact .inr (.inr (.inl ⟨addressText, lengthText, rfl⟩))
  · obtain ⟨addressText, payloadText, confirmation, rfl⟩ := List.length_eq_three.mp count
    exact .inr (.inr (.inr (.inl ⟨addressText, payloadText, confirmation, rfl⟩)))
  · obtain rfl := List.length_eq_zero_iff.mp count
    exact .inr (.inr (.inr (.inr rfl)))

theorem exists_exit (arguments : List (List CChar)) : ∃ code, Exit arguments code := by
  by_cases known : Recognised arguments
  · rcases known.cases with ⟨_, rfl⟩ | ⟨_, _, rfl⟩ | ⟨_, _, rfl⟩ | ⟨_, _, _, rfl⟩ | rfl
    · exact exit_inspect _
    · exact exit_encode_read _ _
    · exact exit_read _ _
    · exact exit_write _ _ _
    · exact ⟨0, .demo⟩
  · exact ⟨1, .usage known⟩

/-- Texts that end with the end of a line. -/
def Lines (text : List CChar) : Prop := ∃ front, text = front ++ chars "\n"

theorem Lines.append {text : List CChar} (lines : Lines text) (front : List CChar) :
    Lines (front ++ text) := by
  obtain ⟨middle, rfl⟩ := lines
  exact ⟨front ++ middle, (List.append_assoc _ _ _).symm⟩

theorem lines_usage : Lines usage := by
  have last : Lines (chars "  imlp-cli demo\n") := ⟨chars "  imlp-cli demo", rfl⟩
  rw [usage, chars, String.toList_append, List.map_append]
  exact last.append _

theorem lines_printResult (result : OperationResult) : Lines (printResult result) := ⟨_, rfl⟩

/-- The trace of an exchange is its two lines. -/
theorem lines_printExchange (policy : ServerPolicy) (request : Frame) :
    Lines (printExchange policy request) := by
  have line : ∀ record, Lines (traceLine record) := fun record => ⟨_, rfl⟩
  exact (line _).append _

theorem Lines.reports {text : List CChar} (lines : Lines text) {code : Nat}
    (other : code = 0 ∨ code = 1 ∨ code = 4) : Reports { exitCode := code, stdout := text } := by
  obtain ⟨front, rfl⟩ := lines
  exact .output other front

/-- The error line of a command, written as one string. -/
theorem reports_error {code : Nat} (failure : code = 2 ∨ code = 3) {line name : String}
    (spelled : line = "error=" ++ name ++ "\n") (oneLine : ascii '\n' ∉ chars name) :
    Reports { exitCode := code, stderr := chars line } := by
  have parts : chars line = chars "error=" ++ chars name ++ chars "\n" := by
    simp [chars, spelled]
  rw [parts]
  exact .error failure name oneLine

theorem codecErrorName_one_line (error : CodecError) :
    ascii '\n' ∉ chars (codecErrorName error) := by
  cases error <;> decide

theorem reports_readConsole (address length : BitVec 32) :
    Reports (readConsole address length) := by
  unfold readConsole
  dsimp only
  split
  · exact (lines_printResult _).reports (.inr (.inr rfl))
  split
  · exact ((lines_printExchange _ _).append _).reports (.inl rfl)
  · exact ((lines_printExchange _ _).append _).reports (.inr (.inr rfl))

theorem reports_writeConsole (address : BitVec 32) (payload : List Byte) :
    Reports (writeConsole address payload) := by
  unfold writeConsole
  dsimp only
  split
  · exact (lines_printResult _).reports (.inr (.inr rfl))
  split
  · exact ((lines_printExchange _ _).append _).reports (.inl rfl)
  · exact ((lines_printExchange _ _).append _).reports (.inr (.inr rfl))

theorem reports_inspect (text : List CChar) : Reports (runInspect text) := by
  rcases runInspect_cases text with ⟨-, ran⟩ | ⟨bytes, -, -, -, ran⟩ | ⟨frame, -, -, ran⟩
  · rw [ran]
    exact reports_error (.inl rfl) (show _ = "error=" ++ "invalid_hex" ++ "\n" from rfl)
      (by decide)
  · rw [ran]
    exact .error (.inr rfl) _ (codecErrorName_one_line _)
  · rw [ran]
    exact .output (.inl rfl) _

theorem Exit.reports {arguments : List (List CChar)} {code : Nat}
    (exit : Exit arguments code) : Reports (main arguments) := by
  cases exit with
  | usage unknown =>
    rw [main_of_not_recognised unknown]
    exact lines_usage.reports (.inr (.inl rfl))
  | demo =>
    obtain ⟨text, result, ran⟩ := runDemo_ends
    rw [main_demo, ran]
    exact ((lines_printResult result).append text).reports (.inl rfl)
  | inspected | notHexadecimal | notFrame =>
    rw [main_inspect]
    exact reports_inspect _
  | encoded parsedAddress parsedLength accepted =>
    rw [main_encode_read, runEncodeRead_accepted parsedAddress parsedLength accepted]
    exact .output (.inl rfl) _
  | notEncoded refused =>
    rw [main_encode_read, runEncodeRead_refused refused]
    exact reports_error (.inl rfl)
      (show _ = "error=" ++ "invalid_address_or_length" ++ "\n" from rfl) (by decide)
  | readable parsedAddress parsedLength | unreadable parsedAddress parsedLength =>
    rw [main_read, runRead_of_some parsedAddress parsedLength]
    exact reports_readConsole _ _
  | noInterval unparsed =>
    rw [main_read, runRead_of_none unparsed]
    exact reports_error (.inl rfl)
      (show _ = "error=" ++ "invalid_address_or_length" ++ "\n" from rfl) (by decide)
  | written parsed read nonempty | unwritten parsed read nonempty =>
    rw [main_write, runWrite_confirmed parsed read nonempty]
    exact reports_writeConsole _ _
  | noWrite refused =>
    rw [main_write, runWrite_refused refused]
    exact reports_error (.inl rfl)
      (show _ = "error=" ++ "invalid_write_or_missing_explicit_opt_in" ++ "\n" from rfl) (by decide)

/-- The contract of the program for every list of arguments: its exit code is exactly the one
`Exit` gives, and it writes one error line to the error stream for exit codes 2 and 3, and
whole lines to the standard output for all others. -/
theorem main_exit_contract (arguments : List (List CChar)) :
    (∀ code, (main arguments).exitCode = code ↔ Exit arguments code) ∧
      Reports (main arguments) := by
  obtain ⟨actual, exit⟩ := exists_exit arguments
  refine ⟨fun code => ⟨?_, Exit.exitCode_eq⟩, exit.reports⟩
  intro same
  rw [← same, exit.exitCode_eq]
  exact exit

end Cli

end Imlp
