import Imlp.Cli.Numerals
import Imlp.Client.Calls
import Imlp.Codec.Hex

/-!
# Inspecting frames

`inspect` and `encode-read` are the codec seen from the command line. The report of `inspect`
is a line of fields separated by blanks, and no field contains one, so the report tells the
frame up to the statuses that have no name.
-/

namespace Imlp
namespace Cli
open TextFields

/-- Texts without a blank. -/
def Solid (text : List CChar) : Prop := ascii ' ' ∉ text

/-- A numeral has no other characters than digits. -/
theorem not_mem_toDigits {base : Nat} (known : base = 10 ∨ base = 16) {char : CChar}
    (other : digitValue base char = none) (number : Nat) :
    char ∉ (Nat.toDigits base number).map ascii := by
  intro member
  obtain ⟨letter, written, rfl⟩ := List.mem_map.mp member
  obtain ⟨digit, small, rfl⟩ := mem_toDigits (show 1 < base by omega) written
  cases other.symm.trans (digitValue_ascii known small)

theorem solid_toDigits {base : Nat} (known : base = 10 ∨ base = 16) (number : Nat) :
    Solid ((Nat.toDigits base number).map ascii) :=
  not_mem_toDigits known rfl number

theorem solid_decimal (number : Nat) : Solid (decimal number) := solid_toDigits (.inl rfl) number

theorem solid_hexadecimal (number : Nat) : Solid (hexadecimal number) :=
  solid_toDigits (.inr rfl) number

/-- The names of the statuses. -/
def statusNames : List String :=
  ["ok", "bad_request", "out_of_range", "write_disabled", "access_denied", "internal_error",
    "unknown"]

theorem statusName_mem (status : Status) : statusName status ∈ statusNames := by
  unfold statusName
  repeat' split
  all_goals simp [statusNames]

theorem solid_statusName (status : Status) : Solid (chars (statusName status)) := by
  have solid : ∀ name ∈ statusNames, ascii ' ' ∉ chars name := by decide
  exact solid _ (statusName_mem status)

theorem statusName_of_chars {left right : Status}
    (same : chars (statusName left) = chars (statusName right)) :
    statusName left = statusName right := by
  have distinct : ∀ left ∈ statusNames, ∀ right ∈ statusNames,
      chars left = chars right → left = right := by decide
  exact distinct _ (statusName_mem left) _ (statusName_mem right) same

/-- Numbers that are written alike are the same. -/
theorem toDigits_injective {base : Nat} (known : base = 10 ∨ base = 16) {left right : Nat}
    (same : (Nat.toDigits base left).map ascii = (Nat.toDigits base right).map ascii) :
    left = right := by
  have first := (numeral_toDigits known 0 left).2
  have second := (numeral_toDigits known 0 right).2
  rw [← first, ← second, same]

theorem decimal_injective {left right : Nat} (same : decimal left = decimal right) :
    left = right :=
  toDigits_injective (.inl rfl) same

theorem bytesToHex_injective {left right : List Byte} (same : bytesToHex left = bytesToHex right) :
    left = right := by
  have first := (fromPairs_eq_some_iff _ left).mpr (map_lowerLetter_bytesToHex left)
  have second := (fromPairs_eq_some_iff _ right).mpr (map_lowerLetter_bytesToHex right)
  rw [same] at first
  exact Option.some.inj (first.symm.trans second)

/-- Two frames have the same report exactly when they agree in all fields, the status by its
name. -/
theorem inspectReport_eq_iff (left right : Frame) :
    inspectReport left = inspectReport right ↔
      left = { right with status := left.status } ∧
        statusName left.status = statusName right.status := by
  constructor
  · intro same
    simp only [inspectReport, List.append_assoc] at same
    replace same := List.append_cancel_left same
    obtain ⟨version, same⟩ := split_at_key rfl (solid_decimal _) (solid_decimal _) same
    obtain ⟨opcode, same⟩ := split_at_key rfl (solid_hexadecimal _) (solid_hexadecimal _) same
    obtain ⟨flags, same⟩ := split_at_key rfl (solid_decimal _) (solid_decimal _) same
    obtain ⟨requestId, same⟩ := split_at_key rfl (solid_decimal _) (solid_decimal _) same
    obtain ⟨address, same⟩ := split_at_key rfl (solid_decimal _) (solid_decimal _) same
    obtain ⟨status, same⟩ := split_at_key rfl (solid_statusName _) (solid_statusName _) same
    have payload := bytesToHex_injective (List.append_cancel_right same)
    refine ⟨?_, statusName_of_chars status⟩
    rcases left with ⟨_, ⟨_⟩, _, _, _, _, _⟩
    rcases right with ⟨_, ⟨_⟩, _, _, _, _, _⟩
    obtain rfl := BitVec.eq_of_toNat_eq (decimal_injective version)
    obtain rfl := BitVec.eq_of_toNat_eq (toDigits_injective (.inr rfl) opcode)
    obtain rfl := BitVec.eq_of_toNat_eq (decimal_injective flags)
    obtain rfl := BitVec.eq_of_toNat_eq (decimal_injective requestId)
    obtain rfl := BitVec.eq_of_toNat_eq (decimal_injective address)
    obtain rfl : _ = _ := payload
    rfl
  · rintro ⟨same, status⟩
    rw [inspectReport, inspectReport, status, same]

/-- `inspect` on the text of a frame. -/
theorem runInspect_of_frame {text : List CChar} {frame : Frame} (valid : Encodable frame)
    (read : bytesFromHex text = some (wireBytes frame)) :
    runInspect text = { exitCode := 0, stdout := inspectReport frame } := by
  have decoded := (decode_ok_iff (wireBytes frame) frame).mpr ⟨valid, rfl⟩
  unfold runInspect
  simp only [read, decode_toBool decoded, decoded]

/-- The three ends of `inspect`. -/
theorem runInspect_cases (text : List CChar) :
    (bytesFromHex text = none ∧
      runInspect text = { exitCode := 2, stderr := chars "error=invalid_hex\n" }) ∨
    (∃ bytes, bytesFromHex text = some bytes ∧ (decode bytes).frame = none ∧
      (decode bytes).error ≠ .none ∧
      runInspect text =
        { exitCode := 3
          stderr := chars "error=" ++ chars (codecErrorName (decode bytes).error) ++
            chars "\n" }) ∨
    (∃ frame, Encodable frame ∧ bytesFromHex text = some (wireBytes frame) ∧
      runInspect text = { exitCode := 0, stdout := inspectReport frame }) := by
  cases read : bytesFromHex text with
  | none =>
    refine .inl ⟨rfl, ?_⟩
    unfold runInspect
    rw [read]
  | some bytes =>
    rcases decode_cases bytes with ⟨rejected, failure⟩ | ⟨frame, decoded, -⟩
    · refine .inr (.inl ⟨bytes, rfl, rejected, failure, ?_⟩)
      unfold runInspect
      simp only [read, rejected]
      cases (decode bytes).toBool <;> rfl
    · have found : (decode bytes).frame = some frame := by rw [decoded]
      obtain ⟨valid, rfl⟩ := (decode_ok_iff bytes frame).mp found
      exact .inr (.inr ⟨frame, valid, rfl, runInspect_of_frame valid read⟩)

/-- A text of hexadecimal pairs is read. -/
theorem fromPairs_isSome {text : List CChar} (even : text.length % 2 = 0)
    (digits : ∀ value ∈ text, IsHexDigit value) : (fromPairs text).isSome = true := by
  induction text using fromPairs.induct with
  | case1 => rfl
  | case2 value => cases even
  | case3 high low rest ih =>
    have shorter : rest.length % 2 = 0 := by
      simp only [List.length_cons] at even
      omega
    have others := ih shorter fun value member =>
      digits value (List.mem_cons_of_mem _ (List.mem_cons_of_mem _ member))
    obtain ⟨first, readHigh⟩ := Option.isSome_iff_exists.mp
      ((hexNibble_isSome_iff high).mpr (digits high List.mem_cons_self))
    obtain ⟨second, readLow⟩ := Option.isSome_iff_exists.mp
      ((hexNibble_isSome_iff low).mpr (digits low (List.mem_cons_of_mem _ List.mem_cons_self)))
    simp [fromPairs, readPair, readHigh, readLow, others]

/-- The texts that are not hexadecimal. -/
theorem bytesFromHex_eq_none_iff (text : List CChar) :
    bytesFromHex text = none ↔
      text.length % 2 = 1 ∨ 2 * 278 < text.length ∨ ∃ value ∈ text, ¬ IsHexDigit value := by
  have maximum : maximumFrameSize = 278 := rfl
  rw [bytesFromHex_eq]
  by_cases rejected : text.length % 2 ≠ 0 ∨ text.length / 2 > maximumFrameSize
  · rw [if_pos rejected]
    exact iff_of_true rfl (by omega)
  · rw [if_neg rejected]
    constructor
    · intro none
      by_contra hexadecimal
      simp only [not_or, not_exists, not_and, not_not] at hexadecimal
      have some := fromPairs_isSome (by omega) hexadecimal.2.2
      rw [none] at some
      cases some
    · rintro (odd | long | ⟨value, member, invalid⟩)
      · omega
      · omega
      · exact fromPairs_eq_none member invalid

/-- A text spells a byte string in some letter case. -/
theorem spells_iff {text : List CChar} {frame : Frame} (valid : Encodable frame) :
    bytesFromHex text = some (wireBytes frame) ↔
      text.map lowerLetter = bytesToHex (wireBytes frame) := by
  rw [bytesFromHex_eq_some_iff]
  constructor
  · exact fun h => h.2.2
  · intro spelled
    have small := valid.payload
    have size := congrArg List.length spelled
    rw [maximumPayloadSize] at small
    rw [List.length_map, bytesToHex_length] at size
    refine ⟨?_, size, spelled⟩
    rw [wireBytes_length]
    omega

theorem encode_toBool_iff (frame : Frame) : (encode frame).toBool = true ↔ Encodable frame := by
  constructor
  · intro accepted
    exact ((encode_ok_iff frame (encode frame).bytes).mp ⟨of_decide_eq_true accepted, rfl⟩).1
  · intro valid
    rw [encode_eq_of_encodable valid]
    rfl

theorem chars_error_ne_nil (text : List CChar) : chars "error=" ++ text ≠ [] := nofun

theorem inspectReport_ne_nil (frame : Frame) : inspectReport frame ≠ [] := by
  unfold inspectReport
  simp only [List.append_assoc]
  nofun

/-- `inspect` accepts exactly the hexadecimal spellings, in either letter case, of what `encode`
produces, and reports the frame behind them. Text that is not hexadecimal, odd or too long is
exit code 2, every other text exit code 3, both without a word on the standard output. -/
theorem inspect_accepts_encodings (text : List CChar) :
    ((runInspect text).exitCode = 0 ↔ ∃ frame, (encode frame).toBool = true ∧
      text.map lowerLetter = bytesToHex (encode frame).bytes) ∧
    (∀ frame, (encode frame).toBool = true →
      text.map lowerLetter = bytesToHex (encode frame).bytes →
      runInspect text = { exitCode := 0, stdout := inspectReport frame }) ∧
    ((runInspect text).exitCode = 2 ↔
      text.length % 2 = 1 ∨ 2 * 278 < text.length ∨ ∃ value ∈ text, ¬ IsHexDigit value) ∧
    ((runInspect text).exitCode ≠ 0 → (runInspect text).exitCode ≠ 2 →
      (runInspect text).exitCode = 3) ∧
    ((runInspect text).exitCode ≠ 0 ↔ (runInspect text).stderr ≠ []) ∧
    ((runInspect text).exitCode ≠ 0 ↔ (runInspect text).stdout = []) := by
  have accepted : ∀ frame, (encode frame).toBool = true →
      text.map lowerLetter = bytesToHex (encode frame).bytes →
      runInspect text = { exitCode := 0, stdout := inspectReport frame } := by
    intro frame encoded spelled
    have valid := (encode_toBool_iff frame).mp encoded
    rw [encode_eq_of_encodable valid] at spelled
    exact runInspect_of_frame valid ((spells_iff valid).mpr spelled)
  have zero : (runInspect text).exitCode = 0 → ∃ frame, (encode frame).toBool = true ∧
      text.map lowerLetter = bytesToHex (encode frame).bytes := by
    intro success
    rcases runInspect_cases text with ⟨-, ran⟩ | ⟨_, -, -, -, ran⟩ | ⟨frame, valid, read, -⟩
    · rw [ran] at success
      cases success
    · rw [ran] at success
      cases success
    · refine ⟨frame, (encode_toBool_iff frame).mpr valid, ?_⟩
      rw [encode_eq_of_encodable valid]
      exact (spells_iff valid).mp read
  refine ⟨⟨zero, ?_⟩, accepted, ?_⟩
  · rintro ⟨frame, encoded, spelled⟩
    rw [accepted frame encoded spelled]
  · rw [← bytesFromHex_eq_none_iff]
    rcases runInspect_cases text with ⟨none, ran⟩ | ⟨_, read, -, -, ran⟩ | ⟨frame, -, read, ran⟩
    · rw [ran]
      exact ⟨iff_of_true rfl none, fun _ contradiction => absurd rfl contradiction,
        iff_of_true nofun nofun, iff_of_true nofun rfl⟩
    · rw [ran, read]
      refine ⟨iff_of_false nofun nofun, fun _ _ => rfl, iff_of_true nofun ?_,
        iff_of_true nofun rfl⟩
      rw [List.append_assoc]
      exact chars_error_ne_nil _
    · rw [ran, read]
      exact ⟨iff_of_false nofun nofun, fun contradiction => absurd rfl contradiction,
        iff_of_false (fun h => h rfl) (fun h => h rfl),
        iff_of_false (fun h => h rfl) (inspectReport_ne_nil frame)⟩

/-- The statuses with a name of their own. -/
def namedStatuses : List Status :=
  [.ok, .badRequest, .outOfRange, .writeDisabled, .accessDenied, .internalError]

theorem mem_namedStatuses {status : Status} (named : statusName status ≠ "unknown") :
    status ∈ namedStatuses := by
  by_contra absent
  simp only [namedStatuses, List.mem_cons, List.not_mem_nil, or_false, not_or] at absent
  simp [statusName, absent] at named

/-- Statuses with a name are told apart by it. -/
theorem statusName_injective {left right : Status} (same : statusName left = statusName right)
    (named : statusName left ≠ "unknown") : left = right := by
  have distinct : ∀ left ∈ namedStatuses, ∀ right ∈ namedStatuses,
      statusName left = statusName right → left = right := by decide
  exact distinct _ (mem_namedStatuses named) _ (mem_namedStatuses (same ▸ named)) same

/-- Where the second of two texts leads if `inspect` does the same on both and accepts the
first. -/
theorem frame_of_same_report {right : List CChar} {frame : Frame}
    (same : runInspect right = { exitCode := 0, stdout := inspectReport frame }) :
    ∃ other, Encodable other ∧ bytesFromHex right = some (wireBytes other) ∧
      inspectReport frame = inspectReport other := by
  rcases runInspect_cases right with ⟨-, ran⟩ | ⟨_, -, -, -, ran⟩ | ⟨other, valid, read, ran⟩
  · cases congrArg Console.exitCode (ran.symm.trans same)
  · cases congrArg Console.exitCode (ran.symm.trans same)
  · exact ⟨other, valid, read, congrArg Console.stdout (same.symm.trans ran)⟩

/-- The report of `inspect` tells two accepted texts apart as far as they differ: they get the
same report exactly when their frames agree in everything but the status and in the name of
the status. If that name is a proper one, the texts differ in the case of letters only. -/
theorem inspect_report_determines_text (left right : List CChar) :
    ((runInspect left).exitCode = 0 ∧ runInspect left = runInspect right ↔
      ∃ frame other, Encodable frame ∧ Encodable other ∧
        bytesFromHex left = some (wireBytes frame) ∧
        bytesFromHex right = some (wireBytes other) ∧
        frame = { other with status := frame.status } ∧
        statusName frame.status = statusName other.status) ∧
    (∀ frame, bytesFromHex left = some (wireBytes frame) → Encodable frame →
      statusName frame.status ≠ "unknown" → runInspect left = runInspect right →
      left.map lowerLetter = right.map lowerLetter) := by
  refine ⟨⟨?_, ?_⟩, ?_⟩
  · rintro ⟨success, same⟩
    rcases runInspect_cases left with ⟨-, ran⟩ | ⟨_, -, -, -, ran⟩ | ⟨frame, valid, read, ran⟩
    · rw [ran] at success
      cases success
    · rw [ran] at success
      cases success
    · obtain ⟨other, valid', read', report⟩ := frame_of_same_report (same.symm.trans ran)
      exact ⟨frame, other, valid, valid', read, read', (inspectReport_eq_iff frame other).mp report⟩
  · rintro ⟨frame, other, valid, valid', read, read', same⟩
    have report := (inspectReport_eq_iff frame other).mpr same
    rw [runInspect_of_frame valid read, runInspect_of_frame valid' read', report]
    exact ⟨rfl, rfl⟩
  · intro frame read valid named same
    obtain ⟨other, valid', read', report⟩ :=
      frame_of_same_report (same.symm.trans (runInspect_of_frame valid read))
    obtain ⟨fields, name⟩ := (inspectReport_eq_iff frame other).mp report
    have sameFrame : frame = other := by
      rw [fields, statusName_injective name named]
    rw [(spells_iff valid).mp read, (spells_iff valid').mp read', sameFrame]

/-- The frame of `encode-read` is the first request of a client. -/
theorem encodeRead_frame (address length : BitVec 32) :
    ({ opcode := .readRequest
       requestId := 1#32
       address := address
       payload := [((length.setWidth 16 >>> 8) &&& 0xFF#16).setWidth 8,
         (length.setWidth 16 &&& 0xFF#16).setWidth 8] } : Frame) =
      Client.readRequest 1#32 address length.toNat := by
  rw [Client.readRequest, BitVec.ofNat_toNat]

/-- `encode-read` writes the first request of a client, or refuses its arguments. -/
theorem runEncodeRead_eq (addressText lengthText : List CChar) :
    runEncodeRead addressText lengthText =
      match parseU32 addressText, parseU32 lengthText with
      | some address, some length =>
        if 0 < length.toNat ∧ length.toNat ≤ maximumPayloadSize then
          { exitCode := 0
            stdout := bytesToHex (wireBytes (Client.readRequest 1#32 address length.toNat)) ++
              chars "\n" }
        else { exitCode := 2, stderr := chars "error=invalid_address_or_length\n" }
      | _, _ => { exitCode := 2, stderr := chars "error=invalid_address_or_length\n" } := by
  unfold runEncodeRead
  cases parseU32 addressText with
  | none => rfl
  | some address =>
    cases parseU32 lengthText with
    | none => rfl
    | some length =>
      have encoded := encode_eq_of_encodable (readRequest_encodable 1#32 address length.toNat)
      dsimp only
      rw [encodeRead_frame, encoded]
      have positive : length = 0#32 ↔ length.toNat = 0 :=
        ⟨fun zero => by rw [zero]; rfl, fun zero => BitVec.eq_of_toNat_eq zero⟩
      by_cases accepted : 0 < length.toNat ∧ length.toNat ≤ maximumPayloadSize
      · rw [if_pos accepted, if_neg (by rw [positive]; omega)]
        rfl
      · rw [if_neg accepted, if_pos (by rw [positive]; omega)]

/-- `encode-read` and `inspect` fit together. The first succeeds exactly on two numbers of
which the second is a valid read length, and refuses anything else with exit code 2; what it
writes before the end of the line, `inspect` accepts and reports as that read request. -/
theorem encode_read_inspects (addressText lengthText : List CChar) :
    ((runEncodeRead addressText lengthText).exitCode = 0 ↔
      ∃ address length, parseU32 addressText = some address ∧
        parseU32 lengthText = some length ∧ 0 < length.toNat ∧
        length.toNat ≤ maximumPayloadSize) ∧
    ((runEncodeRead addressText lengthText).exitCode ≠ 0 →
      runEncodeRead addressText lengthText =
        { exitCode := 2, stderr := chars "error=invalid_address_or_length\n" }) ∧
    (∀ address length, parseU32 addressText = some address →
      parseU32 lengthText = some length → 0 < length.toNat →
      length.toNat ≤ maximumPayloadSize →
      ∃ hex, runEncodeRead addressText lengthText =
          { exitCode := 0, stdout := hex ++ chars "\n" } ∧
        runInspect hex =
          { exitCode := 0
            stdout := inspectReport (Client.readRequest 1#32 address length.toNat) }) := by
  rw [runEncodeRead_eq]
  refine ⟨⟨?_, ?_⟩, ?_, ?_⟩
  · intro success
    split at success
    · rename_i address length parsedAddress parsedLength
      split at success
      · rename_i accepted
        exact ⟨address, length, parsedAddress, parsedLength, accepted⟩
      · cases success
    · cases success
  · rintro ⟨address, length, parsedAddress, parsedLength, accepted⟩
    rw [parsedAddress, parsedLength]
    dsimp only
    rw [if_pos accepted]
  · intro failed
    split at failed
    · split at failed
      · exact absurd rfl failed
      · rename_i refused
        exact if_neg refused
    · rfl
  · intro address length parsedAddress parsedLength positive small
    have valid := readRequest_encodable 1#32 address length.toNat
    rw [parsedAddress, parsedLength]
    refine ⟨_, if_pos ⟨positive, small⟩, runInspect_of_frame valid ?_⟩
    exact (spells_iff valid).mpr (map_lowerLetter_bytesToHex _)

end Cli

end Imlp
