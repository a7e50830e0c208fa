import Imlp.Codec.Ieee

/-!
# The wire grammar

`docs/protocol-spec.md` describes a frame field by field. That description is stated here on
byte strings alone, with literal bytes, big-endian values and the checksum as the reference
defines it: a `WireForm` is a byte string cut at the field boundaries that keeps every rule of
the document. `decode` of `src/codec.cpp` accepts exactly the strings of this grammar.

The length field makes the grammar self-delimiting: `decode` reports a cut frame as
truncated and a frame with bytes behind it as a length mismatch, with the size of the frame
as `consumed`.
-/

namespace Imlp

/-- The value of a byte string read in network byte order. -/
def bigEndian (bytes : List Byte) : Nat :=
  bytes.foldl (fun value byte => value * 256 + byte.toNat) 0

/-- One row of the opcode table: the opcode byte with its flags byte, status and payload
size. -/
inductive OpcodeRow : Byte → Byte → Nat → Nat → Prop
  | readRequest : OpcodeRow 0x01#8 0x00#8 0 2
  | writeRequest {size : Nat} : 1 ≤ size → OpcodeRow 0x02#8 0x00#8 0 size
  | dataResponse {size : Nat} : OpcodeRow 0x81#8 0x01#8 0 size
  | writeAcknowledgement : OpcodeRow 0x82#8 0x01#8 0 0
  | errorResponse {status size : Nat} : status ≠ 0 → OpcodeRow 0xFF#8 0x01#8 status size

/-- The fields of a frame in front of its checksum, as they stand on the wire. -/
structure WireBody where
  opcode : Byte
  flags : Byte
  requestId : List Byte
  address : List Byte
  length : List Byte
  status : List Byte
  payload : List Byte

/-- The bytes the checksum covers. -/
def WireBody.bytes (body : WireBody) : List Byte :=
  [0x49#8, 0x4D#8, 0x01#8, body.opcode, body.flags, 0x00#8] ++ body.requestId ++
    body.address ++ body.length ++ body.status ++ body.payload

/-- A byte string of the wire grammar, cut at its field boundaries. -/
structure WireForm extends WireBody where
  checksum : List Byte
  requestId_size : requestId.length = 4
  address_size : address.length = 4
  length_size : length.length = 2
  status_size : status.length = 2
  checksum_size : checksum.length = 4
  payload_size : payload.length = bigEndian length
  payload_small : bigEndian length ≤ 256
  row : OpcodeRow opcode flags (bigEndian status) (bigEndian length)
  checksum_value : bigEndian checksum = (ieeeCrc32 toWireBody.bytes).toNat

/-- The whole byte string. -/
def WireForm.wire (form : WireForm) : List Byte := form.bytes ++ form.checksum

theorem bigEndian_u16Bytes (value : BitVec 16) : bigEndian (u16Bytes value) = value.toNat := by
  have := value.isLt
  simp only [bigEndian, u16Bytes, List.foldl_cons, List.foldl_nil, BitVec.extractLsb'_toNat,
    Nat.shiftRight_eq_div_pow]
  omega

theorem bigEndian_u32Bytes (value : BitVec 32) : bigEndian (u32Bytes value) = value.toNat := by
  have := value.isLt
  simp only [bigEndian, u32Bytes, List.foldl_cons, List.foldl_nil, BitVec.extractLsb'_toNat,
    Nat.shiftRight_eq_div_pow]
  omega

theorem exists_u16Bytes {bytes : List Byte} (size : bytes.length = 2) :
    ∃ value, u16Bytes value = bytes := by
  match bytes, size with
  | [high, low], _ => exact ⟨high ++ low, u16Bytes_append high low⟩

theorem exists_u32Bytes {bytes : List Byte} (size : bytes.length = 4) :
    ∃ value, u32Bytes value = bytes := by
  match bytes, size with
  | [b0, b1, b2, b3], _ => exact ⟨b0 ++ b1 ++ b2 ++ b3, u32Bytes_append b0 b1 b2 b3⟩

/-- A two-byte slice has the value `read_u16` gives there. -/
theorem bigEndian_slice_two {bytes : List Byte} (offset : Nat)
    (inside : offset + 2 ≤ bytes.length) :
    bigEndian ((bytes.drop offset).take 2) = (readU16 bytes offset).toNat := by
  rw [← u16Bytes_readU16 offset inside, bigEndian_u16Bytes]

/-- A four-byte slice has the value `read_u32` gives there. -/
theorem bigEndian_slice_four {bytes : List Byte} (offset : Nat)
    (inside : offset + 4 ≤ bytes.length) :
    bigEndian ((bytes.drop offset).take 4) = (readU32 bytes offset).toNat := by
  rw [← u32Bytes_readU32 offset inside, bigEndian_u32Bytes]

theorem ofWord_eq_ok_iff (word : BitVec 16) : Status.ofWord word = .ok ↔ word.toNat = 0 := by
  rw [Status.ok, Status.ofWord.injEq]
  constructor
  · rintro rfl
    rfl
  · intro zero
    exact BitVec.eq_of_toNat_eq zero

/-- The opcode table of the semantics check is the one of the grammar. -/
theorem opcodeRule_iff_row (frame : Frame) :
    OpcodeRule frame ↔
      OpcodeRow frame.opcode.toByte frame.flags frame.status.toWord.toNat frame.payload.length := by
  rcases frame with ⟨version, ⟨opcode⟩, flags, requestId, address, ⟨status⟩, payload⟩
  constructor
  · intro rule
    cases rule with
    | readRequest opcode flags status size =>
      cases opcode; cases flags; cases status
      rw [show payload.length = 2 from size]
      exact .readRequest
    | writeRequest opcode flags status size =>
      cases opcode; cases flags; cases status
      exact .writeRequest size
    | dataResponse opcode flags status =>
      cases opcode; cases flags; cases status
      exact .dataResponse
    | writeAcknowledgement opcode flags status empty =>
      cases opcode; cases flags; cases status; cases empty
      exact .writeAcknowledgement
    | errorResponse opcode flags failed =>
      cases opcode; cases flags
      exact .errorResponse (fun zero => failed ((ofWord_eq_ok_iff status).mpr zero))
  · dsimp only
    generalize hword : status.toNat = word
    generalize hsize : payload.length = size
    intro row
    have zero : Status.ofWord status = .ok ↔ word = 0 := by rw [ofWord_eq_ok_iff, hword]
    cases row with
    | readRequest => exact .readRequest rfl rfl (zero.mpr rfl) hsize
    | writeRequest size => exact .writeRequest rfl rfl (zero.mpr rfl) (by rw [hsize]; exact size)
    | dataResponse => exact .dataResponse rfl rfl (zero.mpr rfl)
    | writeAcknowledgement =>
      exact .writeAcknowledgement rfl rfl (zero.mpr rfl) (List.length_eq_zero_iff.mp hsize)
    | errorResponse failed => exact .errorResponse rfl rfl (fun ok => failed (zero.mp ok))

/-- The wire form of an encodable frame keeps the rules of the grammar. -/
theorem exists_wireForm {frame : Frame} (valid : Encodable frame) :
    ∃ form : WireForm, form.wire = wireBytes frame := by
  have small : frame.payload.length ≤ 256 := valid.payload
  have length : bigEndian (u16Bytes (BitVec.ofNat 16 frame.payload.length)) =
      frame.payload.length := by
    rw [bigEndian_u16Bytes, BitVec.toNat_ofNat, Nat.mod_eq_of_lt (by omega)]
  let body : WireBody := {
    opcode := frame.opcode.toByte
    flags := frame.flags
    requestId := u32Bytes frame.requestId
    address := u32Bytes frame.address
    length := u16Bytes (BitVec.ofNat 16 frame.payload.length)
    status := u16Bytes frame.status.toWord
    payload := frame.payload }
  have bytes : body.bytes = bodyBytes frame := by
    simp [body, WireBody.bytes, bodyBytes, headerBytes, valid.version, magic, protocolVersion]
  let form : WireForm := {
    toWireBody := body
    checksum := u32Bytes (crc32 (bodyBytes frame))
    requestId_size := rfl
    address_size := rfl
    length_size := rfl
    status_size := rfl
    checksum_size := rfl
    payload_size := length.symm
    payload_small := by rw [length]; exact small
    row := by
      rw [length, bigEndian_u16Bytes]
      exact (opcodeRule_iff_row frame).mp (opcodeRule_of_valid valid.semantics)
    checksum_value := by rw [bytes, bigEndian_u32Bytes, crc32_eq_ieeeCrc32] }
  exact ⟨form, by rw [WireForm.wire, bytes, wireBytes]⟩

/-- Every string of the grammar is the wire form of an encodable frame. -/
theorem WireForm.exists_frame (form : WireForm) :
    ∃ frame, Encodable frame ∧ wireBytes frame = form.wire := by
  obtain ⟨requestId, hrequestId⟩ := exists_u32Bytes form.requestId_size
  obtain ⟨address, haddress⟩ := exists_u32Bytes form.address_size
  obtain ⟨length, hlength⟩ := exists_u16Bytes form.length_size
  obtain ⟨status, hstatus⟩ := exists_u16Bytes form.status_size
  obtain ⟨checksum, hchecksum⟩ := exists_u32Bytes form.checksum_size
  let frame : Frame := {
    opcode := .ofByte form.opcode
    flags := form.flags
    requestId := requestId
    address := address
    status := .ofWord status
    payload := form.payload }
  have size : form.payload.length = length.toNat := by
    rw [form.payload_size, ← hlength, bigEndian_u16Bytes]
  have rule : OpcodeRule frame := by
    have row := form.row
    rw [← form.payload_size, ← hstatus, bigEndian_u16Bytes] at row
    exact (opcodeRule_iff_row frame).mpr row
  have valid : Encodable frame := {
    version := rfl
    opcode := rule.supported
    payload := form.payload_size ▸ form.payload_small
    semantics := (hasValidSemantics_iff frame).mpr rule }
  have bytes : bodyBytes frame = form.bytes := by
    simp [frame, WireBody.bytes, bodyBytes, headerBytes, magic, protocolVersion, size, hlength,
      hrequestId, haddress, hstatus]
  have trailer : crc32 (bodyBytes frame) = checksum := by
    apply BitVec.eq_of_toNat_eq
    rw [bytes, crc32_eq_ieeeCrc32, ← form.checksum_value, ← hchecksum, bigEndian_u32Bytes]
  exact ⟨frame, valid, by rw [wireBytes, trailer, hchecksum, bytes, WireForm.wire]⟩

/-- `decode` accepts exactly the strings of the grammar. -/
theorem decode_isSome_iff (bytes : List Byte) :
    (decode bytes).frame.isSome = true ↔ ∃ form : WireForm, form.wire = bytes := by
  rw [Option.isSome_iff_exists]
  constructor
  · rintro ⟨frame, decoded⟩
    obtain ⟨valid, rfl⟩ := (decode_ok_iff bytes frame).mp decoded
    exact exists_wireForm valid
  · rintro ⟨form, rfl⟩
    obtain ⟨frame, valid, wire⟩ := form.exists_frame
    exact ⟨frame, (decode_ok_iff _ _).mpr ⟨valid, wire.symm⟩⟩

/-- The fields of an accepted frame are the slices of the byte string that carries it. -/
structure CarriedBy (bytes : List Byte) (frame : Frame) : Prop where
  version : frame.version = protocolVersion
  opcode : frame.opcode = .ofByte (byteAt bytes 3)
  flags : frame.flags = byteAt bytes 4
  requestId : frame.requestId.toNat = bigEndian ((bytes.drop 6).take 4)
  address : frame.address.toNat = bigEndian ((bytes.drop 10).take 4)
  status : frame.status.toWord.toNat = bigEndian ((bytes.drop 16).take 2)
  payload : frame.payload = (bytes.drop 18).take (bigEndian ((bytes.drop 14).take 2))

theorem Accepted.carriedBy {bytes : List Byte} {frame : Frame}
    (accepted : Accepted bytes frame) : CarriedBy bytes frame := by
  have size : 22 ≤ bytes.length := by have := accepted.size; omega
  have fields := accepted.frame
  exact {
    version := by rw [fields]
    opcode := by rw [fields]
    flags := by rw [fields]
    requestId := by rw [bigEndian_slice_four 6 (by omega), fields]
    address := by rw [bigEndian_slice_four 10 (by omega), fields]
    status := by rw [bigEndian_slice_two 16 (by omega), fields]
    payload := by rw [bigEndian_slice_two 14 (by omega), fields] }

/-- `decode` yields a frame exactly on the strings of the wire grammar; the frame's fields are
then the slices of the string, and on every other string there is an error and no frame. -/
theorem decode_accepts_grammar (bytes : List Byte) :
    ((decode bytes).frame.isSome = true ↔ ∃ form : WireForm, form.wire = bytes) ∧
      (∀ frame, (decode bytes).frame = some frame →
        (decode bytes).error = .none ∧ CarriedBy bytes frame) ∧
      ((¬ ∃ form : WireForm, form.wire = bytes) →
        (decode bytes).frame = none ∧ (decode bytes).error ≠ .none) := by
  refine ⟨decode_isSome_iff bytes, ?_, ?_⟩
  · intro frame decoded
    rcases decode_cases bytes with ⟨rejected, -⟩ | ⟨found, hdecode, accepted⟩
    · rw [rejected] at decoded
      cases decoded
    · rw [hdecode] at decoded ⊢
      obtain rfl := Option.some.inj decoded
      exact ⟨rfl, accepted.carriedBy⟩
  · intro outside
    rw [← decode_isSome_iff bytes] at outside
    rcases decode_cases bytes with rejected | ⟨found, hdecode, -⟩
    · exact rejected
    · rw [hdecode] at outside
      exact absurd rfl outside

/-- A frame with bytes behind it is reported with its own size. -/
theorem decode_wireBytes_append {frame : Frame} (valid : Encodable frame) {suffix : List Byte}
    (extended : suffix ≠ []) :
    decode (wireBytes frame ++ suffix) =
      { error := .lengthMismatch, consumed := (wireBytes frame).length } := by
  have extra := List.length_pos_iff.mpr extended
  rw [wireBytes_length, wireBytes_eq_header_append, List.append_assoc,
    decode_header_append valid, if_neg, if_pos]
  · simp only [List.length_append, u32Bytes_length]
    omega
  · simp only [List.length_append, u32Bytes_length]
    omega

/-- Frames delimit themselves: every proper prefix of a frame is truncated, every extension
of it is a length mismatch whose `consumed` finds the frame again, and no accepted string is
a proper prefix of another. -/
theorem frames_self_delimiting :
    (∀ frame, (encode frame).error = .none →
      (∀ size, size < (encode frame).bytes.length →
        decode ((encode frame).bytes.take size) =
          { frame := none, error := .truncated, consumed := 0 }) ∧
      (∀ suffix, suffix ≠ [] →
        decode ((encode frame).bytes ++ suffix) =
          { frame := none, error := .lengthMismatch, consumed := (encode frame).bytes.length } ∧
        (decode (((encode frame).bytes ++ suffix).take
          (decode ((encode frame).bytes ++ suffix)).consumed)).frame = some frame)) ∧
    (∀ shorter longer, (decode shorter).frame.isSome = true →
      (decode longer).frame.isSome = true → shorter <+: longer → shorter = longer) := by
  constructor
  · intro frame accepted
    obtain ⟨valid, wire⟩ := (encode_ok_iff frame _).mp ⟨accepted, rfl⟩
    rw [wire]
    refine ⟨fun size cut => decode_take_wireBytes valid cut, fun suffix extended => ?_⟩
    have mismatch := decode_wireBytes_append valid extended
    refine ⟨mismatch, ?_⟩
    rw [mismatch, List.take_left, decode_wireBytes valid]
  · rintro shorter longer accepted accepted' ⟨suffix, rfl⟩
    obtain ⟨frame, decoded⟩ := Option.isSome_iff_exists.mp accepted
    obtain ⟨valid, rfl⟩ := (decode_ok_iff shorter frame).mp decoded
    by_contra different
    have extended : suffix ≠ [] := by
      rintro rfl
      exact different (List.append_nil _).symm
    rw [decode_wireBytes_append valid extended] at accepted'
    cases accepted'

end Imlp
