import Imlp.Codec

/-!
# The opcode table

`has_valid_semantics` (`src/codec.cpp:65-84`) compares a response bit with three opcodes,
masks the remaining flag bits and then tests the opcodes in turn. The five opcodes are
different bytes, so it amounts to one row of conditions for each of them.
-/

namespace Imlp

/-- The rules of the protocol's opcode table: flags, status and payload of each opcode. -/
inductive OpcodeRule (frame : Frame) : Prop
  | readRequest : frame.opcode = .readRequest → frame.flags = 0#8 → frame.status = .ok →
      frame.payload.length = 2 → OpcodeRule frame
  | writeRequest : frame.opcode = .writeRequest → frame.flags = 0#8 → frame.status = .ok →
      0 < frame.payload.length → OpcodeRule frame
  | dataResponse : frame.opcode = .dataResponse → frame.flags = responseFlag →
      frame.status = .ok → OpcodeRule frame
  | writeAcknowledgement : frame.opcode = .writeAcknowledgement → frame.flags = responseFlag →
      frame.status = .ok → frame.payload = [] → OpcodeRule frame
  | errorResponse : frame.opcode = .errorResponse → frame.flags = responseFlag →
      frame.status ≠ .ok → OpcodeRule frame

/-- Bit 0 and the remaining bits together determine the flags byte. -/
theorem flags_split (flags : BitVec 8) (reserved : flags &&& ~~~responseFlag = 0#8) :
    flags = if flags &&& responseFlag ≠ 0#8 then responseFlag else 0#8 := by
  revert flags
  decide +kernel

theorem opcodeRule_of_valid {frame : Frame} (valid : hasValidSemantics frame = true) :
    OpcodeRule frame := by
  unfold hasValidSemantics at valid
  dsimp only at valid
  split at valid
  · cases valid
  rename_i response
  split at valid
  · cases valid
  rename_i reserved
  have flags := flags_split frame.flags (by simpa using reserved)
  split at valid
  · rename_i opcode
    simp [opcode, Opcode.readRequest, Opcode.dataResponse, Opcode.writeAcknowledgement,
      Opcode.errorResponse] at response
    simp [response] at flags
    simp only [Bool.and_eq_true, decide_eq_true_eq] at valid
    exact .readRequest opcode flags valid.1 valid.2
  split at valid
  · rename_i opcode
    simp [opcode, Opcode.writeRequest, Opcode.dataResponse, Opcode.writeAcknowledgement,
      Opcode.errorResponse] at response
    simp [response] at flags
    simp only [Bool.and_eq_true, decide_eq_true_eq, Bool.not_eq_true', List.isEmpty_eq_false_iff]
      at valid
    exact .writeRequest opcode flags valid.1 (List.length_pos_iff.mpr valid.2)
  split at valid
  · rename_i opcode
    simp [opcode] at response
    simp [response] at flags
    simp only [decide_eq_true_eq] at valid
    exact .dataResponse opcode flags valid
  split at valid
  · rename_i opcode
    simp [opcode] at response
    simp [response] at flags
    simp only [Bool.and_eq_true, decide_eq_true_eq, List.isEmpty_iff] at valid
    exact .writeAcknowledgement opcode flags valid.1 valid.2
  · simp only [Bool.and_eq_true, decide_eq_true_eq] at valid
    simp [valid.1] at response
    simp [response] at flags
    exact .errorResponse valid.1 flags valid.2

/-- `has_valid_semantics` is the opcode table. -/
theorem hasValidSemantics_iff (frame : Frame) :
    hasValidSemantics frame = true ↔ OpcodeRule frame := by
  constructor
  · exact opcodeRule_of_valid
  · intro rule
    cases rule with
    | readRequest opcode flags status payload =>
      simp [hasValidSemantics, opcode, flags, status, payload, Opcode.readRequest,
        Opcode.dataResponse, Opcode.writeAcknowledgement, Opcode.errorResponse]
    | writeRequest opcode flags status payload =>
      simp [hasValidSemantics, opcode, flags, status, List.length_pos_iff.mp payload,
        Opcode.readRequest, Opcode.writeRequest, Opcode.dataResponse,
        Opcode.writeAcknowledgement, Opcode.errorResponse]
    | dataResponse opcode flags status =>
      simp [hasValidSemantics, opcode, flags, status, Opcode.readRequest, Opcode.writeRequest,
        Opcode.dataResponse, responseFlag]
    | writeAcknowledgement opcode flags status payload =>
      simp [hasValidSemantics, opcode, flags, status, payload, Opcode.readRequest,
        Opcode.writeRequest, Opcode.dataResponse, Opcode.writeAcknowledgement, responseFlag]
    | errorResponse opcode flags status =>
      simp [hasValidSemantics, opcode, flags, status, Opcode.readRequest, Opcode.writeRequest,
        Opcode.dataResponse, Opcode.writeAcknowledgement, Opcode.errorResponse, responseFlag]

theorem OpcodeRule.supported {frame : Frame} (rule : OpcodeRule frame) :
    isSupportedOpcode frame.opcode = true := by
  cases rule <;> simp [isSupportedOpcode, *]

/-- Errors are the frames with a nonzero status. -/
theorem OpcodeRule.error_iff {frame : Frame} (rule : OpcodeRule frame) :
    frame.opcode = .errorResponse ↔ frame.status ≠ .ok := by
  cases rule with
  | readRequest opcode _ status | writeRequest opcode _ status | dataResponse opcode _ status
  | writeAcknowledgement opcode _ status =>
    rw [opcode, status]
    decide
  | errorResponse opcode _ status =>
    rw [opcode]
    exact ⟨fun _ => status, fun _ => rfl⟩

end Imlp
