import Imlp.Server

/-!
# Transports

Rendering of `include/imlp/transport.hpp` and `src/transport.cpp`. `ITransport` is the abstract
class the client talks to: a value of it is one implementation with state `σ`, whose methods
may answer anything, an exchange any bytes with any named error. `LoopbackTransport` is the one
implementation of the repository. It holds the server it was constructed over as part of its
own state. A deadline is a signed number of milliseconds.
-/

namespace Imlp

/-- `enum class TransportError` (`transport.hpp:25`). -/
inductive TransportError where
  | none
  | notConnected
  | timeout
  | disconnected
  deriving DecidableEq, Repr

/-- `enum class TransportFault` (`transport.hpp:28-34`). -/
inductive TransportFault where
  | timeout
  | disconnect
  | truncateResponse
  | corruptResponse
  | wrongRequestId
  deriving DecidableEq, Repr

/-- `struct TransportReply` (`transport.hpp:37-42`). -/
structure TransportReply where
  error : TransportError := TransportError.none
  bytes : List Byte := []
  deriving DecidableEq, Repr

/-- `TransportReply::operator bool` (`transport.hpp:41`). -/
def TransportReply.toBool (reply : TransportReply) : Bool := reply.error = .none

/-- `struct TraceRecord` (`transport.hpp:45-50`). -/
structure TraceRecord where
  sequence : BitVec 64 := 0#64
  direction : String := ""
  outcome : String := ""
  bytes : List Byte := []
  deriving DecidableEq, Repr

/-- `class ITransport` (`transport.hpp:54-63`). Every method may read and change the state of
    the implementation, `connected` included. -/
structure ITransport (σ : Type) where
  connect : σ → Bool × σ
  close : σ → σ
  connected : σ → Bool × σ
  exchange : List Byte → Int → σ → TransportReply × σ

/-- `transport_error_name` (`transport.cpp:84-96`). -/
def transportErrorName : TransportError → String
  | .none => "none"
  | .notConnected => "not_connected"
  | .timeout => "timeout"
  | .disconnected => "disconnected"

/-- `class LoopbackTransport` (`transport.hpp:67-95`). -/
structure LoopbackTransport where
  server : MemoryServer
  isConnected : Bool := false
  faults : List TransportFault := []
  trace : List TraceRecord := []
  nextSequence : BitVec 64 := 1#64

namespace LoopbackTransport

/-- `LoopbackTransport::LoopbackTransport` (`transport.cpp:17`). -/
def new (server : MemoryServer) : LoopbackTransport where
  server := server

/-- `LoopbackTransport::connect` (`transport.cpp:19-22`). -/
def connect (transport : LoopbackTransport) : Bool × LoopbackTransport :=
  (true, { transport with isConnected := true })

/-- `LoopbackTransport::close` (`transport.cpp:24`). -/
def close (transport : LoopbackTransport) : LoopbackTransport :=
  { transport with isConnected := false }

/-- `LoopbackTransport::connected` (`transport.cpp:26`). -/
def connected (transport : LoopbackTransport) : Bool := transport.isConnected

/-- `LoopbackTransport::record` (`transport.cpp:76-82`). -/
def record (transport : LoopbackTransport) (direction outcome : String) (bytes : List Byte) :
    LoopbackTransport :=
  { transport with
    trace := transport.trace ++ [{
      sequence := transport.nextSequence
      direction := direction
      outcome := outcome
      bytes := bytes }]
    nextSequence := transport.nextSequence + 1#64 }

/-- What a fault does to a response (`transport.cpp:52-63`); `none` when no fault was
    queued. -/
def mutate (fault : Option TransportFault) (response : List Byte) : List Byte :=
  if fault = some .truncateResponse ∧ response ≠ [] then response.dropLast
  else if fault = some .corruptResponse ∧ response ≠ [] then
    response.dropLast ++ [byteAt response (response.length - 1) ^^^ 0x01#8]
  else if fault = some .wrongRequestId then
    let decoded := decode response
    match decoded.toBool, decoded.frame with
    | true, some frame =>
      let encoded := encode { frame with requestId := frame.requestId + 1#32 }
      if encoded.toBool then encoded.bytes else response
    | _, _ => response
  else response

/-- `LoopbackTransport::exchange` (`transport.cpp:28-68`). -/
def exchange (transport : LoopbackTransport) (request : List Byte) (deadline : Int) :
    TransportReply × LoopbackTransport :=
  if !transport.isConnected then ({ error := .notConnected }, transport)
  else
    let sent := transport.record "client_to_server" "sent" request
    if deadline ≤ 0 then
      ({ error := .timeout }, sent.record "server_to_client" "deadline_expired" [])
    else
      let fault := sent.faults.head?
      let popped := { sent with faults := sent.faults.tail }
      if fault = some .timeout then
        ({ error := .timeout }, popped.record "server_to_client" "timeout" [])
      else if fault = some .disconnect then
        ({ error := .disconnected },
          { popped with isConnected := false }.record "server_to_client" "disconnected" [])
      else
        let (handled, server) := popped.server.handle request
        let response := mutate fault handled.response
        let outcome := if handled.event.requestDecoded then handled.event.detail else "rejected"
        ({ error := .none, bytes := response },
          { popped with server := server }.record "server_to_client" outcome response)

/-- `LoopbackTransport::push_fault` (`transport.cpp:70`). -/
def pushFault (transport : LoopbackTransport) (fault : TransportFault) : LoopbackTransport :=
  { transport with faults := transport.faults ++ [fault] }

/-- `LoopbackTransport::clear_trace` (`transport.cpp:74`). -/
def clearTrace (transport : LoopbackTransport) : LoopbackTransport :=
  { transport with trace := [] }

/-- The loopback transport as the client sees it. -/
def asTransport : ITransport LoopbackTransport where
  connect := connect
  close := close
  connected transport := (transport.connected, transport)
  exchange request deadline transport := transport.exchange request deadline

end LoopbackTransport

end Imlp
