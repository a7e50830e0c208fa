import Imlp.Misc.Checked
import Imlp.Codec.Fields

/-!
# Decoding with checked access

`decode` and its field readers once more, with option-valued indexing and slicing and with
`std::size_t` arithmetic that refuses to wrap. `decodeChecked` makes the accesses of
`src/codec.cpp:130-171` one by one, in the source's order: the in-bounds argument of each one
is a size check made earlier, so the checked decoder always returns what `decode` returns.
-/

namespace Imlp
open Checked

/-- The largest `std::size_t`. -/
def sizeMax : Nat := 0xFFFFFFFFFFFFFFFF

/-- The largest `std::ptrdiff_t`. -/
def ptrdiffMax : Nat := 0x7FFFFFFFFFFFFFFF

/-- `read_u16` (`codec.cpp:34-39`). -/
def readU16Checked (bytes : List Byte) (offset : Nat) : Option (BitVec 16) := do
  let high ← bytes[offset]?
  let next ← add sizeMax offset 1
  let low ← bytes[next]?
  some ((high.setWidth 16 <<< 8) ||| low.setWidth 16)

/-- `read_u32` (`codec.cpp:42-48`). -/
def readU32Checked (bytes : List Byte) (offset : Nat) : Option (BitVec 32) := do
  let first ← bytes[offset]?
  let second ← bytes[← add sizeMax offset 1]?
  let third ← bytes[← add sizeMax offset 2]?
  let fourth ← bytes[← add sizeMax offset 3]?
  some ((first.setWidth 32 <<< 24) ||| (second.setWidth 32 <<< 16) |||
    (third.setWidth 32 <<< 8) ||| fourth.setWidth 32)

/-- `decode` (`codec.cpp:130-171`). -/
def decodeChecked (bytes : List Byte) : Option DecodeResult :=
  if bytes.length < headerSize then some { error := .truncated }
  else do
    let start ← slice bytes 0 magic.length
    if start ≠ magic then some { error := .badMagic }
    else do
      let version ← bytes[2]?
      if version ≠ protocolVersion then some { error := .unsupportedVersion }
      else do
        let opcode := Opcode.ofByte (← bytes[3]?)
        if !isSupportedOpcode opcode then some { error := .unsupportedOpcode }
        else do
          let flags ← bytes[4]?
          if (flags &&& ~~~responseFlag) ≠ 0#8 then some { error := .unsupportedFlags }
          else do
            let reserved ← bytes[5]?
            if reserved ≠ 0#8 then some { error := .nonzeroReserved }
            else do
              let payloadSize := (← readU16Checked bytes 14).toNat
              if payloadSize > maximumPayloadSize then some { error := .payloadTooLarge }
              else do
                let bodySize ← add sizeMax headerSize payloadSize
                let expectedSize ← add sizeMax bodySize checksumSize
                if bytes.length < expectedSize then some { error := .truncated }
                else if bytes.length ≠ expectedSize then
                  some { error := .lengthMismatch, consumed := expectedSize }
                else do
                  let trailer ← sub expectedSize checksumSize
                  let expectedCrc ← readU32Checked bytes trailer
                  let covered ← slice bytes 0 trailer
                  if crc32 covered ≠ expectedCrc then
                    some { error := .checksumMismatch, consumed := expectedSize }
                  else do
                    let requestId ← readU32Checked bytes 6
                    let address ← readU32Checked bytes 10
                    let status ← readU16Checked bytes 16
                    let first ← fit ptrdiffMax headerSize
                    let last ← fit ptrdiffMax (← add sizeMax headerSize payloadSize)
                    let payload ← slice bytes first last
                    let frame : Frame := {
                      version := protocolVersion
                      opcode := opcode
                      flags := flags
                      requestId := requestId
                      address := address
                      status := .ofWord status
                      payload := payload }
                    if !hasValidSemantics frame then
                      some { error := .invalidSemantics, consumed := expectedSize }
                    else some { frame := some frame, consumed := expectedSize }

theorem getElem?_eq_byteAt {bytes : List Byte} {index : Nat} (inside : index < bytes.length) :
    bytes[index]? = some (byteAt bytes index) := by
  rw [byteAt_eq_getElem inside, List.getElem?_eq_getElem]

theorem readU16Checked_eq {bytes : List Byte} {offset : Nat} (inside : offset + 2 ≤ bytes.length)
    (small : offset ≤ 0xFFFF) : readU16Checked bytes offset = some (readU16 bytes offset) := by
  have next : add sizeMax offset 1 = some (offset + 1) := add_of_le (by rw [sizeMax]; omega)
  simp only [readU16Checked, next, Option.bind_eq_bind, Option.bind_some,
    getElem?_eq_byteAt (show offset < bytes.length by omega),
    getElem?_eq_byteAt (show offset + 1 < bytes.length by omega)]
  rfl

theorem readU32Checked_eq {bytes : List Byte} {offset : Nat} (inside : offset + 4 ≤ bytes.length)
    (small : offset ≤ 0xFFFF) : readU32Checked bytes offset = some (readU32 bytes offset) := by
  have second : add sizeMax offset 1 = some (offset + 1) := add_of_le (by rw [sizeMax]; omega)
  have third : add sizeMax offset 2 = some (offset + 2) := add_of_le (by rw [sizeMax]; omega)
  have fourth : add sizeMax offset 3 = some (offset + 3) := add_of_le (by rw [sizeMax]; omega)
  simp only [readU32Checked, second, third, fourth, Option.bind_eq_bind, Option.bind_some,
    getElem?_eq_byteAt (show offset < bytes.length by omega),
    getElem?_eq_byteAt (show offset + 1 < bytes.length by omega),
    getElem?_eq_byteAt (show offset + 2 < bytes.length by omega),
    getElem?_eq_byteAt (show offset + 3 < bytes.length by omega)]
  rfl

/-- The sizes computed from a payload length that passed its check. -/
theorem size_accesses {size : Nat} (small : size ≤ maximumPayloadSize) :
    add sizeMax headerSize size = some (headerSize + size) ∧
      add sizeMax (headerSize + size) checksumSize = some (headerSize + size + checksumSize) := by
  simp only [headerSize, checksumSize, maximumPayloadSize] at small ⊢
  exact ⟨add_of_le (by rw [sizeMax]; omega), add_of_le (by rw [sizeMax]; omega)⟩

/-- The payload and the trailer, once the size of the input is the expected one. -/
theorem trailer_accesses {bytes : List Byte} {size : Nat} (small : size ≤ maximumPayloadSize)
    (exact : bytes.length = headerSize + size + checksumSize) :
    sub (headerSize + size + checksumSize) checksumSize =
        some (headerSize + size + checksumSize - checksumSize) ∧
      readU32Checked bytes (headerSize + size + checksumSize - checksumSize) =
        some (readU32 bytes (headerSize + size + checksumSize - checksumSize)) ∧
      slice bytes 0 (headerSize + size + checksumSize - checksumSize) =
        some (bytes.take (headerSize + size + checksumSize - checksumSize)) ∧
      fit ptrdiffMax (headerSize + size) = some (headerSize + size) ∧
      slice bytes headerSize (headerSize + size) =
        some ((bytes.drop headerSize).take size) := by
  simp only [headerSize, checksumSize, maximumPayloadSize] at small exact ⊢
  refine ⟨sub_of_le (by omega), readU32Checked_eq (by omega) (by omega), slice_zero (by omega),
    fit_of_le (by rw [ptrdiffMax]; omega), ?_⟩
  rw [slice_of_le (by omega) (by omega), Nat.add_sub_cancel_left]

/-- The checked decoder returns what `decode` returns, on every input. -/
theorem decodeChecked_eq (bytes : List Byte) : decodeChecked bytes = some (decode bytes) := by
  unfold decodeChecked decode
  dsimp only
  refine ite_of_rest (fun short => ?_)
  -- from here on the eighteen bytes of the header are there
  have long : 18 ≤ bytes.length := by simp only [headerSize] at short; omega
  have header : ∀ index, index < 18 → bytes[index]? = some (byteAt bytes index) :=
    fun index inside => getElem?_eq_byteAt (by omega)
  have start : magic.length ≤ bytes.length := Nat.le_trans (by decide) long
  rw [bind_of_eq_some (slice_zero start)]
  refine ite_of_rest (fun _ => ?_)
  rw [bind_of_eq_some (header 2 (by omega))]
  refine ite_of_rest (fun _ => ?_)
  rw [bind_of_eq_some (header 3 (by omega))]
  refine ite_of_rest (fun _ => ?_)
  rw [bind_of_eq_some (header 4 (by omega))]
  refine ite_of_rest (fun _ => ?_)
  rw [bind_of_eq_some (header 5 (by omega))]
  refine ite_of_rest (fun _ => ?_)
  rw [bind_of_eq_some (readU16Checked_eq (show 14 + 2 ≤ bytes.length by omega) (by omega))]
  refine ite_of_rest (fun large => ?_)
  have small := Nat.le_of_not_gt large
  obtain ⟨body, expected⟩ := size_accesses small
  rw [bind_of_eq_some body, bind_of_eq_some expected]
  refine ite_of_rest (fun _ => ite_of_rest (fun mismatch => ?_))
  obtain ⟨trailer, crc, covered, last, payload⟩ := trailer_accesses small (not_not.mp mismatch)
  rw [bind_of_eq_some trailer, bind_of_eq_some crc, bind_of_eq_some covered]
  refine ite_of_rest (fun _ => ?_)
  rw [bind_of_eq_some (readU32Checked_eq (show 6 + 4 ≤ bytes.length by omega) (by omega)),
    bind_of_eq_some (readU32Checked_eq (show 10 + 4 ≤ bytes.length by omega) (by omega)),
    bind_of_eq_some (readU16Checked_eq (show 16 + 2 ≤ bytes.length by omega) (by omega)),
    bind_of_eq_some (fit_of_le (show headerSize ≤ ptrdiffMax by decide)),
    bind_of_eq_some body, bind_of_eq_some last, bind_of_eq_some payload]
  exact ite_of_rest (fun _ => rfl)

end Imlp
