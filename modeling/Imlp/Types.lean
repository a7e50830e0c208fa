import Mathlib.Data.Nat.Notation

/-!
# Wire types of IMLP/1

Rendering of `include/imlp/types.hpp`: the protocol limits, the frame record and the
error categories of the codec. Fixed-width unsigned integers are bit vectors of the
same width, so conversions and shifts wrap exactly as in the source; a
`std::vector<std::byte>` is a list of bytes and `std::size_t` sizes are natural numbers.

`Opcode` and `Status` are C++ enumerations with a fixed underlying type. A value of such a
type is any integer of that width, not only a named enumerator, and `decode` does build
unnamed ones by `static_cast` from untrusted bytes. They are therefore one-field
structures over the underlying integer with the enumerators as named constants. The code
produces every other enumeration by name only (`CodecError` and the ones of the later modules),
so these are inductive types. `TransportError` is one of them although an implementation of
`ITransport` from outside the repository may answer it: transports are taken to answer the
named values.
-/

namespace Imlp

/-- `std::byte`. -/
abbrev Byte := BitVec 8

/-- `magic` (`types.hpp:20`): ASCII `IM`. -/
def magic : List Byte := [0x49#8, 0x4D#8]

/-- `protocol_version` (`types.hpp:21`). -/
def protocolVersion : BitVec 8 := 1#8

/-- `response_flag` (`types.hpp:22`). -/
def responseFlag : BitVec 8 := 0x01#8

/-- `header_size` (`types.hpp:23`). -/
def headerSize : Nat := 18

/-- `checksum_size` (`types.hpp:24`). -/
def checksumSize : Nat := 4

/-- `maximum_payload_size` (`types.hpp:25`). -/
def maximumPayloadSize : Nat := 256

/-- `maximum_frame_size` (`types.hpp:26-27`). -/
def maximumFrameSize : Nat := headerSize + maximumPayloadSize + checksumSize

/-- `enum class Opcode : std::uint8_t` (`types.hpp:31-37`). The constructor is
    `static_cast<Opcode>`. -/
structure Opcode where
  ofByte ::
  toByte : BitVec 8
  deriving DecidableEq, Repr

namespace Opcode

def readRequest : Opcode := ofByte 0x01#8
def writeRequest : Opcode := ofByte 0x02#8
def dataResponse : Opcode := ofByte 0x81#8
def writeAcknowledgement : Opcode := ofByte 0x82#8
def errorResponse : Opcode := ofByte 0xFF#8

end Opcode

/-- `enum class Status : std::uint16_t` (`types.hpp:40-47`). The constructor is
    `static_cast<Status>`. -/
structure Status where
  ofWord ::
  toWord : BitVec 16
  deriving DecidableEq, Repr

namespace Status

def ok : Status := ofWord 0#16
def badRequest : Status := ofWord 1#16
def outOfRange : Status := ofWord 2#16
def writeDisabled : Status := ofWord 3#16
def accessDenied : Status := ofWord 4#16
def internalError : Status := ofWord 5#16

end Status

/-- `enum class CodecError` (`types.hpp:50-62`). -/
inductive CodecError where
  | none
  | truncated
  | badMagic
  | unsupportedVersion
  | unsupportedOpcode
  | unsupportedFlags
  | nonzeroReserved
  | payloadTooLarge
  | lengthMismatch
  | checksumMismatch
  | invalidSemantics
  deriving DecidableEq, Repr

/-- `struct Frame` (`types.hpp:65-75`) with its default member initialisers. -/
structure Frame where
  version : BitVec 8 := protocolVersion
  opcode : Opcode := Opcode.readRequest
  flags : BitVec 8 := 0#8
  requestId : BitVec 32 := 0#32
  address : BitVec 32 := 0#32
  status : Status := Status.ok
  payload : List Byte := []
  deriving DecidableEq, Repr

/-- `struct EncodeResult` (`types.hpp:79-84`). -/
structure EncodeResult where
  bytes : List Byte := []
  error : CodecError := CodecError.none
  deriving DecidableEq, Repr

/-- `EncodeResult::operator bool` (`types.hpp:83`). -/
def EncodeResult.toBool (result : EncodeResult) : Bool := result.error = .none

/-- `struct DecodeResult` (`types.hpp:88-96`). -/
structure DecodeResult where
  frame : Option Frame := Option.none
  error : CodecError := CodecError.none
  consumed : Nat := 0
  deriving DecidableEq, Repr

/-- `DecodeResult::operator bool` (`types.hpp:93-95`). -/
def DecodeResult.toBool (result : DecodeResult) : Bool :=
  result.error = .none && result.frame.isSome

end Imlp
