import Mathlib.Logic.Function.Iterate
import Imlp.Types

/-!
# The frame codec

Rendering of `src/codec.cpp`: CRC-32, big-endian field access, `encode`, `decode` and the
hexadecimal text form. Every early return of the source is one branch here, in the source's
order. Span indexing `bytes[i]` is `byteAt`, which reads a zero byte past the end; the source
reads only after the size checks that `decode` makes first.
-/

namespace Imlp

/-- `bytes[index]` of a `std::span<const std::byte>`. -/
def byteAt (bytes : List Byte) (index : Nat) : Byte := bytes.getD index 0#8

/-- `append_u16` (`codec.cpp:20-23`): network byte order. -/
def appendU16 (output : List Byte) (value : BitVec 16) : List Byte :=
  output ++ [((value >>> 8) &&& 0xFF#16).setWidth 8, (value &&& 0xFF#16).setWidth 8]

/-- `append_u32` (`codec.cpp:26-31`): network byte order. -/
def appendU32 (output : List Byte) (value : BitVec 32) : List Byte :=
  output ++ [((value >>> 24) &&& 0xFF#32).setWidth 8, ((value >>> 16) &&& 0xFF#32).setWidth 8,
    ((value >>> 8) &&& 0xFF#32).setWidth 8, (value &&& 0xFF#32).setWidth 8]

/-- `read_u16` (`codec.cpp:34-39`). -/
def readU16 (bytes : List Byte) (offset : Nat) : BitVec 16 :=
  let high := (byteAt bytes offset).setWidth 16
  let low := (byteAt bytes (offset + 1)).setWidth 16
  (high <<< 8) ||| low

/-- `read_u32` (`codec.cpp:42-48`). -/
def readU32 (bytes : List Byte) (offset : Nat) : BitVec 32 :=
  ((byteAt bytes offset).setWidth 32 <<< 24) |||
    ((byteAt bytes (offset + 1)).setWidth 32 <<< 16) |||
    ((byteAt bytes (offset + 2)).setWidth 32 <<< 8) |||
    (byteAt bytes (offset + 3)).setWidth 32

/-- `is_supported_opcode` (`codec.cpp:51-61`). -/
def isSupportedOpcode (opcode : Opcode) : Bool :=
  opcode = .readRequest || opcode = .writeRequest || opcode = .dataResponse ||
    opcode = .writeAcknowledgement || opcode = .errorResponse

/-- `has_valid_semantics` (`codec.cpp:65-84`). -/
def hasValidSemantics (frame : Frame) : Bool :=
  let isResponse : Bool := (frame.flags &&& responseFlag) ≠ 0#8
  let expectsResponseFlag : Bool := frame.opcode = .dataResponse ||
    frame.opcode = .writeAcknowledgement || frame.opcode = .errorResponse
  if isResponse ≠ expectsResponseFlag then false
  else if (frame.flags &&& ~~~responseFlag) ≠ 0#8 then false
  else if frame.opcode = .readRequest then frame.status = .ok && frame.payload.length = 2
  else if frame.opcode = .writeRequest then frame.status = .ok && !frame.payload.isEmpty
  else if frame.opcode = .dataResponse then frame.status = .ok
  else if frame.opcode = .writeAcknowledgement then
    frame.status = .ok && frame.payload.isEmpty
  else frame.opcode = .errorResponse && frame.status ≠ .ok

/-- One iteration of the inner loop of `crc32` (`codec.cpp:100-103`). The mask is the
    wrapping negation of the register's lowest bit. -/
def crcBit (crc : BitVec 32) : BitVec 32 :=
  let mask := 0#32 - (crc &&& 1#32)
  (crc >>> 1) ^^^ (0xEDB88320#32 &&& mask)

/-- One iteration of the outer loop of `crc32` (`codec.cpp:98-104`). -/
def crcByte (crc : BitVec 32) (byte : Byte) : BitVec 32 :=
  crcBit^[8] (crc ^^^ byte.setWidth 32)

/-- `crc32` (`codec.cpp:96-106`). -/
def crc32 (bytes : List Byte) : BitVec 32 :=
  ~~~(bytes.foldl crcByte 0xFFFFFFFF#32)

/-- `encode` (`codec.cpp:108-128`). -/
def encode (frame : Frame) : EncodeResult :=
  if frame.version ≠ protocolVersion then { error := .unsupportedVersion }
  else if !isSupportedOpcode frame.opcode then { error := .unsupportedOpcode }
  else if frame.payload.length > maximumPayloadSize then { error := .payloadTooLarge }
  else if !hasValidSemantics frame then { error := .invalidSemantics }
  else
    let output := magic ++ [frame.version, frame.opcode.toByte, frame.flags, 0#8]
    let output := appendU32 output frame.requestId
    let output := appendU32 output frame.address
    let output := appendU16 output (BitVec.ofNat 16 frame.payload.length)
    let output := appendU16 output frame.status.toWord
    let output := output ++ frame.payload
    { bytes := appendU32 output (crc32 output) }

/-- `decode` (`codec.cpp:130-171`). -/
def decode (bytes : List Byte) : DecodeResult :=
  if bytes.length < headerSize then { error := .truncated }
  else if bytes.take 2 ≠ magic then { error := .badMagic }
  else if byteAt bytes 2 ≠ protocolVersion then { error := .unsupportedVersion }
  else
    let opcode := Opcode.ofByte (byteAt bytes 3)
    if !isSupportedOpcode opcode then { error := .unsupportedOpcode }
    else
      let flags := byteAt bytes 4
      if (flags &&& ~~~responseFlag) ≠ 0#8 then { error := .unsupportedFlags }
      else if byteAt bytes 5 ≠ 0#8 then { error := .nonzeroReserved }
      else
        let payloadSize := (readU16 bytes 14).toNat
        if payloadSize > maximumPayloadSize then { error := .payloadTooLarge }
        else
          let expectedSize := headerSize + payloadSize + checksumSize
          if bytes.length < expectedSize then { error := .truncated }
          else if bytes.length ≠ expectedSize then
            { error := .lengthMismatch, consumed := expectedSize }
          else
            let expectedCrc := readU32 bytes (expectedSize - checksumSize)
            if crc32 (bytes.take (expectedSize - checksumSize)) ≠ expectedCrc then
              { error := .checksumMismatch, consumed := expectedSize }
            else
              let frame : Frame := {
                version := protocolVersion
                opcode := opcode
                flags := flags
                requestId := readU32 bytes 6
                address := readU32 bytes 10
                status := .ofWord (readU16 bytes 16)
                payload := (bytes.drop headerSize).take payloadSize }
              if !hasValidSemantics frame then
                { error := .invalidSemantics, consumed := expectedSize }
              else { frame := some frame, consumed := expectedSize }

/-- `codec_error_name` (`codec.cpp:173-199`). -/
def codecErrorName : CodecError → String
  | .none => "none"
  | .truncated => "truncated"
  | .badMagic => "bad_magic"
  | .unsupportedVersion => "unsupported_version"
  | .unsupportedOpcode => "unsupported_opcode"
  | .unsupportedFlags => "unsupported_flags"
  | .nonzeroReserved => "nonzero_reserved"
  | .payloadTooLarge => "payload_too_large"
  | .lengthMismatch => "length_mismatch"
  | .checksumMismatch => "checksum_mismatch"
  | .invalidSemantics => "invalid_semantics"

/-- `char`: eight bits, compared as a signed number. -/
abbrev CChar := BitVec 8

/-- An ASCII character literal. -/
def ascii (char : Char) : CChar := BitVec.ofNat 8 char.toNat

/-- `hex_nibble` (`codec.cpp:87-92`). The operands are promoted to `int` before they are
    compared and subtracted. -/
def hexNibble (value : CChar) : Option (BitVec 8) :=
  if value.toInt ≥ (ascii '0').toInt ∧ value.toInt ≤ (ascii '9').toInt then
    some (BitVec.ofInt 8 (value.toInt - (ascii '0').toInt))
  else if value.toInt ≥ (ascii 'a').toInt ∧ value.toInt ≤ (ascii 'f').toInt then
    some (BitVec.ofInt 8 (value.toInt - (ascii 'a').toInt + 10))
  else if value.toInt ≥ (ascii 'A').toInt ∧ value.toInt ≤ (ascii 'F').toInt then
    some (BitVec.ofInt 8 (value.toInt - (ascii 'A').toInt + 10))
  else none

/-- The table `digits` (`codec.cpp:202-203`). -/
def hexDigits : List CChar :=
  ['0', '1', '2', '3', '4', '5', '6', '7', '8', '9', 'a', 'b', 'c', 'd', 'e', 'f'].map ascii

/-- `text[index]` of a string or a `std::string_view`. -/
def charAt (text : List CChar) (index : Nat) : CChar := text.getD index 0#8

/-- `bytes_to_hex` (`codec.cpp:201-212`). -/
def bytesToHex (bytes : List Byte) : List CChar :=
  bytes.foldl (fun (result : List CChar) (byte : Byte) =>
    result ++ [charAt hexDigits (byte >>> 4).toNat, charAt hexDigits (byte &&& 0x0F#8).toNat]) []

/-- `bytes_from_hex` (`codec.cpp:214-225`): the loop runs over the even indices below the size
    of the text and stops at the first pair that is not hexadecimal. -/
def bytesFromHex (text : List CChar) : Option (List Byte) :=
  if text.length % 2 ≠ 0 ∨ text.length / 2 > maximumFrameSize then none
  else
    (List.range' 0 ((text.length + 1) / 2) 2).foldlM (fun result index =>
      match hexNibble (charAt text index), hexNibble (charAt text (index + 1)) with
      | some high, some low => some (result ++ [(high <<< 4) ||| low])
      | _, _ => none) []

end Imlp
