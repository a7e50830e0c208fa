import Imlp.Codec.Fields
import Imlp.Codec.Semantics

/-!
# `encode` and `decode` are inverse

`encode` and `decode` run different checks in a different order. Both are reduced to the
same two notions: a frame is `Encodable`, and its only wire form is `wireBytes`.
`encode_ok_iff` and `decode_ok_iff` say that each function accepts exactly these, so the
two functions are inverse. `decode_header_append` keeps the error paths of `decode` behind
a valid header, for inputs that are cut, extended or corrupted after it.
-/

namespace Imlp

/-- The frames `encode` accepts: its four checks (`codec.cpp:109-112`). -/
structure Encodable (frame : Frame) : Prop where
  version : frame.version = protocolVersion
  opcode : isSupportedOpcode frame.opcode = true
  payload : frame.payload.length ≤ maximumPayloadSize
  semantics : hasValidSemantics frame = true

/-- The first eighteen bytes of a frame. -/
def headerBytes (frame : Frame) : List Byte :=
  magic ++ [frame.version, frame.opcode.toByte, frame.flags, 0#8] ++
    u32Bytes frame.requestId ++ u32Bytes frame.address ++
    u16Bytes (BitVec.ofNat 16 frame.payload.length) ++ u16Bytes frame.status.toWord

/-- The bytes the checksum covers. -/
def bodyBytes (frame : Frame) : List Byte := headerBytes frame ++ frame.payload

/-- The one wire form of a frame. -/
def wireBytes (frame : Frame) : List Byte :=
  bodyBytes frame ++ u32Bytes (crc32 (bodyBytes frame))

@[simp] theorem headerBytes_length (frame : Frame) : (headerBytes frame).length = 18 := rfl

@[simp] theorem bodyBytes_length (frame : Frame) :
    (bodyBytes frame).length = 18 + frame.payload.length := by
  simp [bodyBytes]

@[simp] theorem wireBytes_length (frame : Frame) :
    (wireBytes frame).length = 22 + frame.payload.length := by
  simp [wireBytes]; omega

theorem encode_eq_of_encodable {frame : Frame} (valid : Encodable frame) :
    encode frame = { bytes := wireBytes frame } := by
  have small : ¬ frame.payload.length > maximumPayloadSize := by have := valid.payload; omega
  simp only [encode, valid.version, valid.opcode, valid.semantics, small, appendU16_eq,
    appendU32_eq, ne_eq, not_true_eq_false, Bool.not_true, Bool.false_eq_true, if_false]
  simp [wireBytes, bodyBytes, headerBytes, valid.version]

/-- `encode` accepts exactly the encodable frames, with their wire form. -/
theorem encode_ok_iff (frame : Frame) (bytes : List Byte) :
    (encode frame).error = .none ∧ (encode frame).bytes = bytes ↔
      Encodable frame ∧ bytes = wireBytes frame := by
  constructor
  · rintro ⟨accepted, rfl⟩
    have valid : Encodable frame := by
      unfold encode at accepted
      split at accepted
      · cases accepted
      rename_i version
      split at accepted
      · cases accepted
      rename_i opcode
      split at accepted
      · cases accepted
      rename_i payload
      split at accepted
      · cases accepted
      rename_i semantics
      exact ⟨by simpa using version, by simpa using opcode, by omega, by simpa using semantics⟩
    exact ⟨valid, by rw [encode_eq_of_encodable valid]⟩
  · rintro ⟨valid, rfl⟩
    rw [encode_eq_of_encodable valid]
    exact ⟨rfl, rfl⟩

/-- `decode` rejects reserved flag bits on its own, `encode` through the semantics check. -/
theorem flags_of_semantics {frame : Frame} (valid : hasValidSemantics frame = true) :
    frame.flags &&& ~~~responseFlag = 0#8 := by
  by_contra reserved
  unfold hasValidSemantics at valid
  simp [reserved] at valid

section Header

variable (frame : Frame) (tail : List Byte)

theorem header_take_magic : (headerBytes frame ++ tail).take 2 = magic := by
  simp [headerBytes, magic]

theorem header_version : byteAt (headerBytes frame ++ tail) 2 = frame.version := by
  simp [headerBytes, magic]

theorem header_opcode : byteAt (headerBytes frame ++ tail) 3 = frame.opcode.toByte := by
  simp [headerBytes, magic]

theorem header_flags : byteAt (headerBytes frame ++ tail) 4 = frame.flags := by
  simp [headerBytes, magic]

theorem header_reserved : byteAt (headerBytes frame ++ tail) 5 = 0#8 := by
  simp [headerBytes, magic]

theorem header_requestId : readU32 (headerBytes frame ++ tail) 6 = frame.requestId := by
  have := readU32_u32Bytes (magic ++ [frame.version, frame.opcode.toByte, frame.flags, 0#8])
    (u32Bytes frame.address ++ (u16Bytes (BitVec.ofNat 16 frame.payload.length) ++
      (u16Bytes frame.status.toWord ++ tail))) frame.requestId
  simpa [headerBytes, magic] using this

theorem header_address : readU32 (headerBytes frame ++ tail) 10 = frame.address := by
  have := readU32_u32Bytes (magic ++ [frame.version, frame.opcode.toByte, frame.flags, 0#8] ++
      u32Bytes frame.requestId)
    (u16Bytes (BitVec.ofNat 16 frame.payload.length) ++ (u16Bytes frame.status.toWord ++ tail))
    frame.address
  simpa [headerBytes, magic] using this

theorem header_payloadSize (small : frame.payload.length ≤ maximumPayloadSize) :
    (readU16 (headerBytes frame ++ tail) 14).toNat = frame.payload.length := by
  have read := readU16_u16Bytes (magic ++ [frame.version, frame.opcode.toByte, frame.flags, 0#8] ++
      u32Bytes frame.requestId ++ u32Bytes frame.address)
    (u16Bytes frame.status.toWord ++ tail) (BitVec.ofNat 16 frame.payload.length)
  have : readU16 (headerBytes frame ++ tail) 14 = BitVec.ofNat 16 frame.payload.length := by
    simpa [headerBytes, magic] using read
  rw [this, BitVec.toNat_ofNat, Nat.mod_eq_of_lt]
  simp only [maximumPayloadSize] at small
  omega

theorem header_status : readU16 (headerBytes frame ++ tail) 16 = frame.status.toWord := by
  have := readU16_u16Bytes (magic ++ [frame.version, frame.opcode.toByte, frame.flags, 0#8] ++
      u32Bytes frame.requestId ++ u32Bytes frame.address ++
      u16Bytes (BitVec.ofNat 16 frame.payload.length)) tail frame.status.toWord
  simpa [headerBytes, magic] using this

end Header

/-- What `decode` does once the header of an encodable frame is in place: the length and
checksum checks see only `tail`, and the semantics check sees the payload found there. -/
theorem decode_header_append {frame : Frame} (valid : Encodable frame) (tail : List Byte) :
    decode (headerBytes frame ++ tail) =
      if tail.length < frame.payload.length + 4 then { error := .truncated }
      else if tail.length ≠ frame.payload.length + 4 then
        { error := .lengthMismatch, consumed := 22 + frame.payload.length }
      else if crc32 (headerBytes frame ++ tail.take frame.payload.length) ≠
          readU32 (headerBytes frame ++ tail) (18 + frame.payload.length) then
        { error := .checksumMismatch, consumed := 22 + frame.payload.length }
      else if !hasValidSemantics { frame with payload := tail.take frame.payload.length } then
        { error := .invalidSemantics, consumed := 22 + frame.payload.length }
      else
        { frame := some { frame with payload := tail.take frame.payload.length }
          consumed := 22 + frame.payload.length } := by
  have hopcode : Opcode.ofByte (byteAt (headerBytes frame ++ tail) 3) = frame.opcode := by
    rw [header_opcode]
  have hstatus : Status.ofWord (readU16 (headerBytes frame ++ tail) 16) = frame.status := by
    rw [header_status]
  have hsize := header_payloadSize frame tail valid.payload
  have hexpected : headerSize + frame.payload.length + checksumSize =
      22 + frame.payload.length := by
    simp only [headerSize, checksumSize]; omega
  have hlength : (headerBytes frame ++ tail).length = 18 + tail.length := by simp
  have hbody : (headerBytes frame ++ tail).take (18 + frame.payload.length) =
      headerBytes frame ++ tail.take frame.payload.length := by
    rw [List.take_append, headerBytes_length, List.take_of_length_le (by simp)]
    simp
  have hpayload : ((headerBytes frame ++ tail).drop headerSize).take frame.payload.length =
      tail.take frame.payload.length := by
    rw [show headerSize = (headerBytes frame).length by rfl, List.drop_left]
  have htrailer : 22 + frame.payload.length - checksumSize = 18 + frame.payload.length := by
    simp only [checksumSize]; omega
  have hlong : ¬ 18 + tail.length < headerSize := by simp only [headerSize]; omega
  have hsmall : ¬ frame.payload.length > maximumPayloadSize := by have := valid.payload; omega
  unfold decode
  simp only [hlength, hlong, header_take_magic, header_version, hopcode, header_flags,
    header_reserved, header_requestId, header_address, hstatus, hsize, hexpected, htrailer,
    hbody, hpayload, hsmall, valid.version, valid.opcode, flags_of_semantics valid.semantics,
    ne_eq, not_true_eq_false, Bool.not_true, Bool.false_eq_true, if_false]
  have hfits : (18 + tail.length < 22 + frame.payload.length) ↔
      tail.length < frame.payload.length + 4 := by omega
  have hexact : (18 + tail.length = 22 + frame.payload.length) ↔
      tail.length = frame.payload.length + 4 := by omega
  simp only [hfits, hexact]

theorem wireBytes_eq_header_append (frame : Frame) :
    wireBytes frame =
      headerBytes frame ++ (frame.payload ++ u32Bytes (crc32 (bodyBytes frame))) := by
  rw [wireBytes, bodyBytes, List.append_assoc]

/-- Every encodable frame decodes from its wire form, consuming all of it. -/
theorem decode_wireBytes {frame : Frame} (valid : Encodable frame) :
    decode (wireBytes frame) =
      { frame := some frame, consumed := (wireBytes frame).length } := by
  have htake : (frame.payload ++ u32Bytes (crc32 (bodyBytes frame))).take frame.payload.length =
      frame.payload := by simp
  have hcrc : readU32 (headerBytes frame ++ (frame.payload ++ u32Bytes (crc32 (bodyBytes frame))))
      (18 + frame.payload.length) = crc32 (bodyBytes frame) := by
    have := readU32_u32Bytes (bodyBytes frame) [] (crc32 (bodyBytes frame))
    simpa [bodyBytes] using this
  have hsemantics : hasValidSemantics { frame with payload := frame.payload } = true :=
    valid.semantics
  rw [wireBytes_length, wireBytes_eq_header_append, decode_header_append valid, htake, hcrc,
    hsemantics]
  simp [bodyBytes]

/-- A frame that is cut anywhere is reported as truncated. -/
theorem decode_take_wireBytes {frame : Frame} (valid : Encodable frame) {size : Nat}
    (cut : size < (wireBytes frame).length) :
    decode ((wireBytes frame).take size) = { error := .truncated } := by
  rw [wireBytes_length] at cut
  by_cases short : size < 18
  · -- inside the header only the first size check is reached
    have length : ((wireBytes frame).take size).length < headerSize := by
      rw [List.length_take, headerSize]
      omega
    unfold decode
    rw [if_pos length]
  · -- behind the header the length field asks for more than is left
    rw [wireBytes_eq_header_append, List.take_append, List.take_of_length_le (by simp; omega),
      decode_header_append valid, if_pos]
    simp only [headerBytes_length, List.length_take, List.length_append, u32Bytes_length]
    omega

/-! ## What an accepted byte string looks like -/

/-- The checks an accepted byte string has passed, with the frame it carries. -/
structure Accepted (bytes : List Byte) (frame : Frame) : Prop where
  size : bytes.length = 22 + (readU16 bytes 14).toNat
  magic : bytes.take 2 = magic
  version : byteAt bytes 2 = protocolVersion
  opcode : isSupportedOpcode frame.opcode = true
  reserved : byteAt bytes 5 = 0#8
  payloadSize : (readU16 bytes 14).toNat ≤ maximumPayloadSize
  checksum : crc32 (bytes.take (18 + (readU16 bytes 14).toNat)) =
    readU32 bytes (18 + (readU16 bytes 14).toNat)
  semantics : hasValidSemantics frame = true
  frame : frame = {
    version := protocolVersion
    opcode := .ofByte (byteAt bytes 3)
    flags := byteAt bytes 4
    requestId := readU32 bytes 6
    address := readU32 bytes 10
    status := .ofWord (readU16 bytes 16)
    payload := (bytes.drop 18).take (readU16 bytes 14).toNat }

/-- One early return of `decode`: either it was taken, or its test failed and the rest of
the function gave the result. -/
theorem reject_or {test : Prop} [Decidable test] {error : CodecError} {consumed : Nat}
    {rest result : DecodeResult}
    (h : (if test then { error := error, consumed := consumed } else rest) = result)
    (failure : error ≠ .none) :
    (result.frame = none ∧ result.error ≠ .none) ∨ (¬ test ∧ rest = result) := by
  split at h
  · subst h
    exact .inl ⟨rfl, failure⟩
  · exact .inr ⟨‹_›, h⟩

/-- Every outcome of `decode`: rejection without a frame, or acceptance of the whole input. -/
theorem decode_cases (bytes : List Byte) :
    ((decode bytes).frame = none ∧ (decode bytes).error ≠ .none) ∨
      ∃ frame, decode bytes = { frame := some frame, consumed := bytes.length } ∧
        Accepted bytes frame := by
  have htrailer : headerSize + (readU16 bytes 14).toNat + checksumSize - checksumSize =
      18 + (readU16 bytes 14).toNat := by simp only [headerSize, checksumSize]; omega
  have hexpected : headerSize + (readU16 bytes 14).toNat + checksumSize =
      22 + (readU16 bytes 14).toNat := by simp only [headerSize, checksumSize]; omega
  generalize hresult : decode bytes = result
  unfold decode at hresult
  dsimp only at hresult
  obtain rejected | ⟨-, hresult⟩ := reject_or hresult nofun
  · exact .inl rejected
  obtain rejected | ⟨hmagic, hresult⟩ := reject_or hresult nofun
  · exact .inl rejected
  obtain rejected | ⟨hversion, hresult⟩ := reject_or hresult nofun
  · exact .inl rejected
  obtain rejected | ⟨hopcode, hresult⟩ := reject_or hresult nofun
  · exact .inl rejected
  obtain rejected | ⟨-, hresult⟩ := reject_or hresult nofun
  · exact .inl rejected
  obtain rejected | ⟨hreserved, hresult⟩ := reject_or hresult nofun
  · exact .inl rejected
  obtain rejected | ⟨hsmall, hresult⟩ := reject_or hresult nofun
  · exact .inl rejected
  obtain rejected | ⟨-, hresult⟩ := reject_or hresult nofun
  · exact .inl rejected
  obtain rejected | ⟨hsize, hresult⟩ := reject_or hresult nofun
  · exact .inl rejected
  obtain rejected | ⟨hcrc, hresult⟩ := reject_or hresult nofun
  · exact .inl rejected
  obtain rejected | ⟨hsemantics, hresult⟩ := reject_or hresult nofun
  · exact .inl rejected
  rw [not_not] at hmagic hversion hreserved hsize hcrc
  rw [← hsize] at hresult
  exact .inr ⟨_, hresult.symm, {
    size := hsize.trans hexpected
    magic := hmagic
    version := hversion
    opcode := by simpa using hopcode
    reserved := hreserved
    payloadSize := by omega
    checksum := by rw [← htrailer]; exact hcrc
    semantics := by simpa using hsemantics
    frame := rfl }⟩

/-- An accepted frame passes the checks of `encode`. -/
theorem Accepted.encodable {bytes : List Byte} {frame : Frame} (accepted : Accepted bytes frame) :
    Encodable frame where
  version := by rw [accepted.frame]
  opcode := accepted.opcode
  payload := by
    rw [accepted.frame]
    exact Nat.le_trans (List.length_take_le _ _) accepted.payloadSize
  semantics := accepted.semantics

theorem Accepted.payload_length {bytes : List Byte} {frame : Frame}
    (accepted : Accepted bytes frame) : frame.payload.length = (readU16 bytes 14).toNat := by
  have := accepted.size
  rw [accepted.frame]
  simp only [List.length_take, List.length_drop]
  omega

/-- The first eighteen bytes of an accepted string are the header of its frame. -/
theorem Accepted.take_header {bytes : List Byte} {frame : Frame}
    (accepted : Accepted bytes frame) : bytes.take 18 = headerBytes frame := by
  have hlen : 22 ≤ bytes.length := by have := accepted.size; omega
  have hpayload : BitVec.ofNat 16 frame.payload.length = readU16 bytes 14 := by
    rw [accepted.payload_length, BitVec.ofNat_toNat, BitVec.setWidth_eq]
  have hfields := accepted.frame
  -- the header is cut at the field boundaries, and each piece is the field that was read there
  calc bytes.take 18
      = bytes.take 2 ++ (bytes.drop 2).take 4 ++ (bytes.drop 6).take 4 ++ (bytes.drop 10).take 4 ++
          (bytes.drop 14).take 2 ++ (bytes.drop 16).take 2 := by
        rw [show (18 : Nat) = 2 + 4 + 4 + 4 + 2 + 2 by rfl]
        simp only [List.take_add]
    _ = headerBytes frame := by
        rw [headerBytes, hpayload, accepted.magic, slice_four 2 (by omega),
          ← u32Bytes_readU32 6 (by omega), ← u32Bytes_readU32 10 (by omega),
          ← u16Bytes_readU16 14 (by omega), ← u16Bytes_readU16 16 (by omega),
          accepted.version, accepted.reserved, hfields]

/-- An accepted byte string is the wire form of its frame. -/
theorem Accepted.eq_wireBytes {bytes : List Byte} {frame : Frame}
    (accepted : Accepted bytes frame) : bytes = wireBytes frame := by
  have hsize := accepted.size
  have hpayload : (bytes.drop 18).take (readU16 bytes 14).toNat = frame.payload := by
    rw [accepted.frame]
  have hbody : bytes.take (18 + (readU16 bytes 14).toNat) = bodyBytes frame := by
    rw [List.take_add, accepted.take_header, hpayload, bodyBytes]
  have htrailer : bytes.drop (18 + (readU16 bytes 14).toNat) =
      u32Bytes (crc32 (bodyBytes frame)) := by
    rw [← hbody, accepted.checksum, u32Bytes_readU32 _ (by omega), List.take_of_length_le]
    simp only [List.length_drop]
    omega
  calc bytes
      = bytes.take (18 + (readU16 bytes 14).toNat) ++
          bytes.drop (18 + (readU16 bytes 14).toNat) := (List.take_append_drop _ _).symm
    _ = wireBytes frame := by rw [hbody, htrailer, wireBytes]

/-- `decode` accepts exactly the wire forms of the encodable frames. -/
theorem decode_ok_iff (bytes : List Byte) (frame : Frame) :
    (decode bytes).frame = some frame ↔ Encodable frame ∧ bytes = wireBytes frame := by
  constructor
  · intro decoded
    rcases decode_cases bytes with ⟨rejected, -⟩ | ⟨found, hdecode, accepted⟩
    · rw [rejected] at decoded
      cases decoded
    · rw [hdecode] at decoded
      obtain rfl := Option.some.inj decoded
      exact ⟨accepted.encodable, accepted.eq_wireBytes⟩
  · rintro ⟨valid, rfl⟩
    rw [decode_wireBytes valid]

theorem decode_toBool {bytes : List Byte} {frame : Frame}
    (decoded : (decode bytes).frame = some frame) : (decode bytes).toBool = true := by
  rcases decode_cases bytes with ⟨rejected, -⟩ | ⟨found, hdecode, -⟩
  · rw [rejected] at decoded
    cases decoded
  · rw [hdecode]
    rfl

/-- Different frames have different wire forms. -/
theorem wireBytes_injective {left right : Frame} (same : wireBytes left = wireBytes right) :
    left = right := by
  have size : left.payload.length = right.payload.length := by
    have lengths := congrArg List.length same
    rw [wireBytes_length, wireBytes_length] at lengths
    omega
  rw [wireBytes_eq_header_append, wireBytes_eq_header_append] at same
  have version := congrArg (byteAt · 2) same
  have opcode := congrArg (byteAt · 3) same
  have flags := congrArg (byteAt · 4) same
  have requestId := congrArg (readU32 · 6) same
  have address := congrArg (readU32 · 10) same
  have status := congrArg (readU16 · 16) same
  have payload := congrArg (fun bytes => (bytes.drop 18).take left.payload.length) same
  simp only [header_version, header_opcode, header_flags, header_requestId, header_address,
    header_status] at version opcode flags requestId address status
  have cut : ∀ frame : Frame, ∀ tail : List Byte, (headerBytes frame ++ tail).drop 18 = tail :=
    fun frame tail => List.drop_left' (headerBytes_length frame)
  simp only [cut] at payload
  rw [List.take_left, size, List.take_left] at payload
  rcases left with ⟨_, ⟨_⟩, _, _, _, ⟨_⟩, _⟩
  rcases right with ⟨_, ⟨_⟩, _, _, _, ⟨_⟩, _⟩
  simp_all

/-- Encoder and decoder are exact inverses: a byte string decodes to a frame, with the whole
string consumed, exactly when the frame encodes to that byte string. -/
theorem decode_encode_inverse (frame : Frame) (bytes : List Byte) :
    ((decode bytes).error = .none ∧ (decode bytes).frame = some frame ∧
        (decode bytes).consumed = bytes.length) ↔
      ((encode frame).error = .none ∧ (encode frame).bytes = bytes) := by
  rw [encode_ok_iff]
  constructor
  · rintro ⟨-, decoded, -⟩
    exact (decode_ok_iff bytes frame).mp decoded
  · rintro ⟨valid, rfl⟩
    rw [decode_wireBytes valid]
    exact ⟨rfl, rfl, rfl⟩

end Imlp
