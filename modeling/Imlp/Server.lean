import Imlp.MemoryMap

/-!
# The protocol server

Rendering of `include/imlp/server.hpp` and `src/server.cpp`. `handle` is the only operation
that changes a server; it returns its result together with the server after the call.
-/

namespace Imlp

/-- `struct ServerPolicy` (`server.hpp:22-26`). -/
structure ServerPolicy where
  writesEnabled : Bool := false
  writeAllowBegin : BitVec 32 := 0x0100#32
  writeAllowEnd : BitVec 32 := 0x07FF#32
  deriving DecidableEq, Repr

/-- `struct ServerEvent` (`server.hpp:29-34`). -/
structure ServerEvent where
  requestDecoded : Bool := false
  requestId : BitVec 32 := 0#32
  status : Status := Status.badRequest
  detail : String := ""
  deriving DecidableEq, Repr

/-- `struct HandleResult` (`server.hpp:38-41`). -/
structure HandleResult where
  response : List Byte := []
  event : ServerEvent := {}
  deriving DecidableEq, Repr

/-- `class MemoryServer` (`server.hpp:45-63`). -/
structure MemoryServer where
  policy : ServerPolicy
  memory : MemoryMap

/-- `text_payload` (`server.cpp:21-29`). -/
def textPayload (text : String) : List Byte :=
  (text.toList.take maximumPayloadSize).map (fun char => BitVec.ofNat 8 char.toNat)

namespace MemoryServer

/-- `MemoryServer::MemoryServer` (`server.cpp:33`). -/
def new (policy : ServerPolicy) : MemoryServer where
  policy := policy
  memory := .initial

/-- `MemoryServer::write_is_allowed` (`server.cpp:78-85`); `available` is computed in 64
    bits. -/
def writeIsAllowed (server : MemoryServer) (address : BitVec 32) (length : Nat) : Bool :=
  if length = 0 ∨ address < server.policy.writeAllowBegin ∨
      address > server.policy.writeAllowEnd then false
  else
    let available : BitVec 64 :=
      server.policy.writeAllowEnd.setWidth 64 - address.setWidth 64 + 1#64
    length ≤ available.toNat

/-- `MemoryServer::make_response` (`server.cpp:87-112`). -/
def makeResponse (request : Frame) (opcode : Opcode) (status : Status) (payload : List Byte)
    (detail : String) : HandleResult :=
  let response : Frame := {
    version := protocolVersion
    opcode := opcode
    flags := responseFlag
    requestId := request.requestId
    address := request.address
    status := status
    payload := payload }
  let encoded := encode response
  if !encoded.toBool then
    { response := []
      event := {
        requestDecoded := true
        requestId := request.requestId
        status := .internalError
        detail := "response_encoding_failed" } }
  else
    { response := encoded.bytes
      event := {
        requestDecoded := true
        requestId := request.requestId
        status := status
        detail := detail } }

/-- The two bytes of a read request, as `handle` puts them together
    (`server.cpp:47-48`). -/
def requestedLength (payload : List Byte) : Nat :=
  (((byteAt payload 0).setWidth 64 <<< 8) ||| (byteAt payload 1).setWidth 64 : BitVec 64).toNat

/-- `MemoryServer::handle` (`server.cpp:35-76`). -/
def handle (server : MemoryServer) (requestBytes : List Byte) : HandleResult × MemoryServer :=
  let decoded := decode requestBytes
  match decoded.toBool, decoded.frame with
  | true, some request =>
    if request.opcode = .readRequest then
      let length := requestedLength request.payload
      let result := server.memory.read request.address length
      if result.toBool then
        (makeResponse request .dataResponse .ok result.data "read_ok", server)
      else
        (makeResponse request .errorResponse result.status (textPayload "read_rejected")
          "read_rejected", server)
    else if request.opcode = .writeRequest then
      if !server.policy.writesEnabled then
        (makeResponse request .errorResponse .writeDisabled (textPayload "write_disabled")
          "write_disabled", server)
      else if !server.writeIsAllowed request.address request.payload.length then
        (makeResponse request .errorResponse .accessDenied
          (textPayload "outside_write_allowlist") "outside_write_allowlist", server)
      else
        let (status, memory) := server.memory.write request.address request.payload
        if status ≠ .ok then
          (makeResponse request .errorResponse status (textPayload "memory_write_rejected")
            "memory_write_rejected", { server with memory := memory })
        else
          (makeResponse request .writeAcknowledgement .ok [] "write_ok",
            { server with memory := memory })
    else
      (makeResponse request .errorResponse .badRequest (textPayload "request_opcode_required")
        "request_opcode_required", server)
  | _, _ =>
    ({ response := []
       event := {
         requestDecoded := false
         requestId := 0#32
         status := .badRequest
         detail := codecErrorName decoded.error } }, server)

end MemoryServer

end Imlp
