import Imlp.Transport

/-!
# The client

Rendering of `include/imlp/client.hpp` and `src/client.cpp`. The source's client holds a
reference to its transport; here the transport and its state are arguments, and every
operation returns its result, the client and the transport state after the call.

A `Client` carries the two facts its constructor establishes and its methods keep: the read
bound is clamped to at least one attempt, and the next request identifier is never zero.
-/

namespace Imlp

/-- `enum class ClientError` (`client.hpp:25-36`). -/
inductive ClientError where
  | none
  | invalidArgument
  | connectFailed
  | timeout
  | disconnected
  | encodingFailed
  | malformedResponse
  | correlationMismatch
  | unexpectedResponse
  | remoteError
  deriving DecidableEq, Repr

/-- `struct ClientOptions` (`client.hpp:40-42`). -/
structure ClientOptions where
  maximumReadAttempts : Nat := 2
  deriving DecidableEq, Repr

/-- `struct ClientMetrics` (`client.hpp:45-52`). -/
structure ClientMetrics where
  operations : BitVec 64 := 0#64
  transportAttempts : BitVec 64 := 0#64
  reconnects : BitVec 64 := 0#64
  retries : BitVec 64 := 0#64
  timeouts : BitVec 64 := 0#64
  protocolErrors : BitVec 64 := 0#64
  deriving DecidableEq, Repr

/-- `struct OperationResult` (`client.hpp:56-65`). -/
structure OperationResult where
  error : ClientError := ClientError.none
  remoteStatus : Status := Status.ok
  requestId : BitVec 32 := 0#32
  attempts : Nat := 0
  data : List Byte := []
  detail : String := ""
  deriving DecidableEq, Repr

/-- `OperationResult::operator bool` (`client.hpp:64`). -/
def OperationResult.toBool (result : OperationResult) : Bool := result.error = .none

/-- `client_error_name` (`client.cpp:196-220`). -/
def clientErrorName : ClientError → String
  | .none => "none"
  | .invalidArgument => "invalid_argument"
  | .connectFailed => "connect_failed"
  | .timeout => "timeout"
  | .disconnected => "disconnected"
  | .encodingFailed => "encoding_failed"
  | .malformedResponse => "malformed_response"
  | .correlationMismatch => "correlation_mismatch"
  | .unexpectedResponse => "unexpected_response"
  | .remoteError => "remote_error"

/-- `class Client` (`client.hpp:69-103`). -/
structure Client where
  options : ClientOptions
  metrics : ClientMetrics := {}
  nextRequestId : BitVec 32 := 1#32
  attempts_pos : 1 ≤ options.maximumReadAttempts
  requestId_ne_zero : nextRequestId ≠ 0#32

namespace Client

/-- `Client::Client` (`client.cpp:18-21`). -/
def new (options : ClientOptions) : Client where
  options := { options with maximumReadAttempts := max 1 options.maximumReadAttempts }
  attempts_pos := Nat.le_max_left _ _
  requestId_ne_zero := by decide

/-- A counter update. -/
def count (client : Client) (update : ClientMetrics → ClientMetrics) : Client :=
  { client with metrics := update client.metrics }

/-- The identifier after `current`: the counter skips zero when it wraps
    (`client.cpp:64-65`). -/
def followingId (current : BitVec 32) : BitVec 32 :=
  if current + 1#32 = 0#32 then 1#32 else current + 1#32

theorem followingId_ne_zero (current : BitVec 32) : followingId current ≠ 0#32 := by
  unfold followingId
  split
  · decide
  · assumption

/-- `Client::allocate_request_id` (`client.cpp:63-67`). -/
def allocateRequestId (client : Client) : BitVec 32 × Client :=
  (client.nextRequestId,
    { client with
      nextRequestId := followingId client.nextRequestId
      requestId_ne_zero := followingId_ne_zero _ })

/-- `Client::validate_response` (`client.cpp:144-188`). -/
def validateResponse (client : Client) (request : Frame) (response : List Byte)
    (expectedOpcode : Opcode) (expectedLength attempts : Nat) : OperationResult × Client :=
  let decoded := decode response
  match decoded.toBool, decoded.frame with
  | true, some frame =>
    if frame.requestId ≠ request.requestId ∨ frame.address ≠ request.address then
      ({ error := .correlationMismatch
         remoteStatus := frame.status
         requestId := request.requestId
         attempts := attempts
         detail := "response request ID or address did not match" },
        client.count fun m => { m with protocolErrors := m.protocolErrors + 1#64 })
    else if frame.opcode = .errorResponse then
      ({ error := .remoteError
         remoteStatus := frame.status
         requestId := request.requestId
         attempts := attempts
         data := frame.payload
         detail := "remote request rejected" }, client)
    else if frame.opcode ≠ expectedOpcode ∨ frame.payload.length ≠ expectedLength then
      ({ error := .unexpectedResponse
         remoteStatus := frame.status
         requestId := request.requestId
         attempts := attempts
         detail := "response opcode or payload length did not match" },
        client.count fun m => { m with protocolErrors := m.protocolErrors + 1#64 })
    else
      ({ error := .none
         remoteStatus := frame.status
         requestId := request.requestId
         attempts := attempts
         data := frame.payload
         detail := "ok" }, client)
  | _, _ =>
    ({ error := .malformedResponse
       requestId := request.requestId
       attempts := attempts
       detail := codecErrorName decoded.error },
      client.count fun m => { m with protocolErrors := m.protocolErrors + 1#64 })

variable {σ : Type} (transport : ITransport σ)

/-- `Client::ensure_connected` (`client.cpp:190-194`). -/
def ensureConnected (client : Client) (state : σ) : Bool × Client × σ :=
  let (connected, state) := transport.connected state
  if connected then (true, client, state)
  else
    let (opened, state) := transport.connect state
    (opened, client.count fun m => { m with reconnects := m.reconnects + 1#64 }, state)

/-- The counters of a failed exchange (`client.cpp:92`, `client.cpp:132`). -/
def countFailure (client : Client) (error : TransportError) : Client :=
  if error = .timeout then client.count fun m => { m with timeouts := m.timeouts + 1#64 }
  else client

/-- How a failed exchange is reported (`client.cpp:102-103`, `client.cpp:134-135`). -/
def failureOf (error : TransportError) : ClientError :=
  if error = .timeout then .timeout else .disconnected

/-- The loop of `Client::execute_read` (`client.cpp:78-112`) from attempt number `attempt` on,
    with `remaining` attempts left before the loop condition fails. -/
def readAttempts (request : Frame) (encoded : List Byte) (expectedLength : Nat)
    (deadline : Int) : Nat → Nat → Client → σ → OperationResult × Client × σ
  | 0, _, client, state =>
    ({ error := .disconnected
       requestId := request.requestId
       attempts := client.options.maximumReadAttempts
       detail := "read attempts exhausted" }, client, state)
  | remaining + 1, attempt, client, state =>
    let (connected, client, state) := client.ensureConnected transport state
    if !connected then
      ({ error := .connectFailed
         requestId := request.requestId
         attempts := attempt
         detail := "transport connect failed" }, client, state)
    else
      let client := client.count fun m =>
        { m with transportAttempts := m.transportAttempts + 1#64 }
      let (reply, state) := transport.exchange encoded deadline state
      if reply.toBool then
        let (result, client) :=
          client.validateResponse request reply.bytes .dataResponse expectedLength attempt
        (result, client, state)
      else
        let client := client.countFailure reply.error
        let canRetry := attempt < client.options.maximumReadAttempts ∧
          (reply.error = .timeout ∨ reply.error = .disconnected ∨ reply.error = .notConnected)
        let state := transport.close state
        if canRetry then
          readAttempts request encoded expectedLength deadline remaining (attempt + 1)
            (client.count fun m => { m with retries := m.retries + 1#64 }) state
        else
          ({ error := failureOf reply.error
             requestId := request.requestId
             attempts := attempt
             detail := transportErrorName reply.error }, client, state)

/-- `Client::execute_read` (`client.cpp:69-113`). -/
def executeRead (request : Frame) (expectedLength : Nat) (deadline : Int) (client : Client)
    (state : σ) : OperationResult × Client × σ :=
  let encoded := encode request
  if !encoded.toBool then
    ({ error := .encodingFailed
       requestId := request.requestId
       detail := codecErrorName encoded.error }, client, state)
  else
    readAttempts transport request encoded.bytes expectedLength deadline
      client.options.maximumReadAttempts 1 client state

/-- `Client::execute_write` (`client.cpp:115-142`). -/
def executeWrite (request : Frame) (deadline : Int) (client : Client) (state : σ) :
    OperationResult × Client × σ :=
  let encoded := encode request
  if !encoded.toBool then
    ({ error := .encodingFailed
       requestId := request.requestId
       detail := codecErrorName encoded.error }, client, state)
  else
    let (connected, client, state) := client.ensureConnected transport state
    if !connected then
      ({ error := .connectFailed
         requestId := request.requestId
         attempts := 1
         detail := "transport connect failed" }, client, state)
    else
      let client := client.count fun m =>
        { m with transportAttempts := m.transportAttempts + 1#64 }
      let (reply, state) := transport.exchange encoded.bytes deadline state
      if !reply.toBool then
        let client := client.countFailure reply.error
        let state := transport.close state
        ({ error := failureOf reply.error
           requestId := request.requestId
           attempts := 1
           detail := "write not retried: " ++ transportErrorName reply.error }, client, state)
      else
        let (result, client) :=
          client.validateResponse request reply.bytes .writeAcknowledgement 0 1
        (result, client, state)

/-- The request frame of a read (`client.cpp:33-40`). -/
def readRequest (requestId address : BitVec 32) (length : Nat) : Frame :=
  let wireLength := BitVec.ofNat 16 length
  { opcode := .readRequest
    requestId := requestId
    address := address
    payload := [((wireLength >>> 8) &&& 0xFF#16).setWidth 8, (wireLength &&& 0xFF#16).setWidth 8] }

/-- The request frame of a write (`client.cpp:54-59`). -/
def writeRequest (requestId address : BitVec 32) (data : List Byte) : Frame :=
  { opcode := .writeRequest
    requestId := requestId
    address := address
    payload := data }

/-- `Client::read` (`client.cpp:23-42`). -/
def read (client : Client) (state : σ) (address : BitVec 32) (length : Nat) (deadline : Int) :
    OperationResult × Client × σ :=
  let client := client.count fun m => { m with operations := m.operations + 1#64 }
  let (requestId, client) := client.allocateRequestId
  if length = 0 ∨ length > maximumPayloadSize ∨ deadline ≤ 0 then
    ({ error := .invalidArgument
       requestId := requestId
       detail := "read length and deadline must be positive and bounded" }, client, state)
  else
    executeRead transport (readRequest requestId address length) length deadline client state

/-- `Client::write` (`client.cpp:44-61`). -/
def write (client : Client) (state : σ) (address : BitVec 32) (data : List Byte)
    (deadline : Int) : OperationResult × Client × σ :=
  let client := client.count fun m => { m with operations := m.operations + 1#64 }
  let (requestId, client) := client.allocateRequestId
  if data = [] ∨ data.length > maximumPayloadSize ∨ deadline ≤ 0 then
    ({ error := .invalidArgument
       requestId := requestId
       detail := "write payload and deadline must be positive and bounded" }, client, state)
  else
    executeWrite transport (writeRequest requestId address data) deadline client state

end Client

end Imlp
