import Imlp.Server.Answer
import Imlp.Transport

/-!
# Exchanges over the loopback transport

`exchange_cases` is what one exchange of an encodable request over a connected loopback
transport does: the next fault of the queue loses it before the server sees it, or the server
answers and the fault acts on the response. `decode_mutate` says what the client finds in that
response: nothing at all after a truncation or a corruption, the response under another
identifier after `wrong_request_id`, and the response itself otherwise.
-/

namespace Imlp
open MemoryServer

theorem wireBytes_ne_nil (frame : Frame) : wireBytes frame ≠ [] := by
  intro empty
  have length := wireBytes_length frame
  rw [empty, List.length_nil] at length
  omega

/-- A frame that lost its last byte is truncated. -/
theorem decode_dropLast {frame : Frame} (valid : Encodable frame) :
    decode (wireBytes frame).dropLast = { error := .truncated } := by
  have length := wireBytes_length frame
  rw [List.dropLast_eq_take]
  exact decode_take_wireBytes valid (by omega)

/-- Flipping the lowest bit of a word flips the lowest bit of its last byte. -/
theorem u32Bytes_xor_one (value : BitVec 32) :
    u32Bytes (value ^^^ 1#32) =
      [value.extractLsb' 24 8, value.extractLsb' 16 8, value.extractLsb' 8 8,
        value.extractLsb' 0 8 ^^^ 0x01#8] := by
  rw [u32Bytes, BitVec.extractLsb'_xor, BitVec.extractLsb'_xor, BitVec.extractLsb'_xor,
    BitVec.extractLsb'_xor]
  simp

/-- The corruption of a wire form is the wire form with another checksum. -/
theorem corrupt_wireBytes (frame : Frame) :
    (wireBytes frame).dropLast ++
        [byteAt (wireBytes frame) ((wireBytes frame).length - 1) ^^^ 0x01#8] =
      headerBytes frame ++
        (frame.payload ++ u32Bytes (crc32 (bodyBytes frame) ^^^ 1#32)) := by
  have last : byteAt (wireBytes frame) ((wireBytes frame).length - 1) =
      (crc32 (bodyBytes frame)).extractLsb' 0 8 := by
    have position : (wireBytes frame).length - 1 = (bodyBytes frame).length + 3 := by
      rw [wireBytes_length, bodyBytes_length]
      omega
    rw [position, wireBytes, byteAt_append_right]
    rfl
  rw [last, u32Bytes_xor_one, wireBytes, List.dropLast_append_of_ne_nil (by simp [u32Bytes]),
    bodyBytes]
  simp [u32Bytes]

theorem xor_one_ne (value : BitVec 32) : value ^^^ 1#32 ≠ value := by
  intro same
  have bit := congrArg (fun word : BitVec 32 => word.getLsbD 0) same
  simp at bit

/-- A frame with its last bit flipped fails the checksum. -/
theorem decode_corrupt {frame : Frame} (valid : Encodable frame) :
    decode ((wireBytes frame).dropLast ++
        [byteAt (wireBytes frame) ((wireBytes frame).length - 1) ^^^ 0x01#8]) =
      { error := .checksumMismatch, consumed := 22 + frame.payload.length } := by
  have size : (frame.payload ++ u32Bytes (crc32 (bodyBytes frame) ^^^ 1#32)).length =
      frame.payload.length + 4 := by
    rw [List.length_append, u32Bytes_length]
  have payload : (frame.payload ++ u32Bytes (crc32 (bodyBytes frame) ^^^ 1#32)).take
      frame.payload.length = frame.payload := List.take_left
  have trailer : readU32 (headerBytes frame ++
      (frame.payload ++ u32Bytes (crc32 (bodyBytes frame) ^^^ 1#32)))
        (18 + frame.payload.length) = crc32 (bodyBytes frame) ^^^ 1#32 := by
    have := readU32_u32Bytes (bodyBytes frame) [] (crc32 (bodyBytes frame) ^^^ 1#32)
    rwa [List.append_nil, bodyBytes_length, bodyBytes, List.append_assoc] at this
  rw [corrupt_wireBytes, decode_header_append valid, if_neg (by omega), if_neg (by omega),
    payload, trailer, if_pos]
  exact (xor_one_ne _).symm

/-- A frame stays encodable under another identifier. -/
theorem Encodable.renumber {frame : Frame} (valid : Encodable frame) (requestId : BitVec 32) :
    Encodable { frame with requestId := requestId } :=
  ⟨valid.version, valid.opcode, valid.payload, valid.semantics⟩

namespace LoopbackTransport

/-- What `decode` finds in a response after a fault. -/
theorem decode_mutate {response : Frame} (valid : Encodable response)
    (fault : Option TransportFault) :
    decode (mutate fault (wireBytes response)) =
      if fault = some .truncateResponse then { error := .truncated }
      else if fault = some .corruptResponse then
        { error := .checksumMismatch, consumed := 22 + response.payload.length }
      else if fault = some .wrongRequestId then
        { frame := some { response with requestId := response.requestId + 1#32 }
          consumed := 22 + response.payload.length }
      else { frame := some response, consumed := 22 + response.payload.length } := by
  have nonempty := wireBytes_ne_nil response
  have decoded := decode_wireBytes valid
  rw [wireBytes_length] at decoded
  unfold mutate
  by_cases truncate : fault = some .truncateResponse
  · rw [if_pos ⟨truncate, nonempty⟩, if_pos truncate, decode_dropLast valid]
  rw [if_neg (fun h => truncate h.1), if_neg truncate]
  by_cases corrupt : fault = some .corruptResponse
  · rw [if_pos ⟨corrupt, nonempty⟩, if_pos corrupt, decode_corrupt valid]
  rw [if_neg (fun h => corrupt h.1), if_neg corrupt]
  by_cases renumber : fault = some .wrongRequestId
  · have other := valid.renumber (response.requestId + 1#32)
    have found : (decode (wireBytes response)).frame = some response := by rw [decoded]
    have encoded := encode_eq_of_encodable other
    have redecoded := decode_wireBytes other
    rw [wireBytes_length] at redecoded
    rw [if_pos renumber, if_pos renumber]
    simp only [decode_toBool found, found, encoded, EncodeResult.toBool, decide_true, if_true]
    exact redecoded
  · rw [if_neg renumber, if_neg renumber, decoded]

/-- The transport after the two trace records of an exchange. -/
def traced (transport : LoopbackTransport) (request : List Byte) (outcome : String)
    (response : List Byte) : LoopbackTransport :=
  (transport.record "client_to_server" "sent" request).record "server_to_client" outcome response

/-- The two trace records of an exchange. -/
def exchangeRecords (sequence : BitVec 64) (request : List Byte) (outcome : String)
    (response : List Byte) : List TraceRecord :=
  [{ sequence := sequence
     direction := "client_to_server"
     outcome := "sent"
     bytes := request },
   { sequence := sequence + 1#64
     direction := "server_to_client"
     outcome := outcome
     bytes := response }]

theorem traced_trace_eq (transport : LoopbackTransport) (request : List Byte) (outcome : String)
    (response : List Byte) :
    (transport.traced request outcome response).trace =
      transport.trace ++ exchangeRecords transport.nextSequence request outcome response :=
  List.append_assoc _ _ _

/-- One exchange of an encodable request: lost to a timeout, lost to a disconnect, or answered
by the server. -/
theorem exchange_cases (transport : LoopbackTransport) (up : transport.isConnected = true)
    {request : Frame} (valid : Encodable request) {deadline : Int} (positive : 0 < deadline) :
    (transport.faults.head? = some .timeout ∧
      transport.exchange (wireBytes request) deadline =
        ({ error := .timeout },
          { transport.traced (wireBytes request) "timeout" [] with
            faults := transport.faults.tail })) ∨
    (transport.faults.head? = some .disconnect ∧
      transport.exchange (wireBytes request) deadline =
        ({ error := .disconnected },
          { transport.traced (wireBytes request) "disconnected" [] with
            faults := transport.faults.tail
            isConnected := false })) ∨
    (transport.faults.head? ≠ some .timeout ∧ transport.faults.head? ≠ some .disconnect ∧
      transport.exchange (wireBytes request) deadline =
        ({ bytes := mutate transport.faults.head?
            (wireBytes (responseFrame request (transport.server.answer request))) },
          { transport.traced (wireBytes request) (transport.server.answer request).detail
              (mutate transport.faults.head?
                (wireBytes (responseFrame request (transport.server.answer request)))) with
            faults := transport.faults.tail
            server := transport.server.after request })) := by
  have decoded := (decode_ok_iff (wireBytes request) request).mpr ⟨valid, rfl⟩
  have handled := handle_of_decoded transport.server decoded
  have alive : ¬ deadline ≤ 0 := by omega
  unfold exchange
  simp only [up, Bool.not_true, Bool.false_eq_true, if_false, if_neg alive]
  by_cases timeout : transport.faults.head? = some .timeout
  · left
    refine ⟨timeout, ?_⟩
    rw [if_pos (by exact timeout)]
    rfl
  by_cases disconnect : transport.faults.head? = some .disconnect
  · right; left
    refine ⟨disconnect, ?_⟩
    rw [if_neg (by exact timeout), if_pos (by exact disconnect)]
    rfl
  · right; right
    refine ⟨timeout, disconnect, ?_⟩
    rw [if_neg (by exact timeout), if_neg (by exact disconnect)]
    simp only [record, handled]
    rfl

end LoopbackTransport

end Imlp
