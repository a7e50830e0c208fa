import Imlp.Codec

/-!
# Hexadecimal text

`bytes_to_hex` and `bytes_from_hex` of `src/codec.cpp` are loops over a byte string and over
the even indices of a text. Both come down to one pair of digits for each byte: `hexPair` is
what a byte is written as, and `fromPairs` reads a text pair by pair. A text is accepted
exactly when, with its letters lowered, it is what `bytes_to_hex` writes for some byte string
that is not too long.
-/

namespace Imlp

/-- The two digits of a byte. -/
def hexPair (byte : Byte) : List CChar :=
  [charAt hexDigits (byte >>> 4).toNat, charAt hexDigits (byte &&& 0x0F#8).toNat]

/-- The letters `A` to `F` in lower case; every other character as it is. -/
def lowerLetter (value : CChar) : CChar :=
  if value.toInt ≥ (ascii 'A').toInt ∧ value.toInt ≤ (ascii 'F').toInt then
    value + (ascii 'a' - ascii 'A')
  else value

/-- The characters `hex_nibble` accepts. -/
def IsHexDigit (value : CChar) : Prop :=
  ((ascii '0').toInt ≤ value.toInt ∧ value.toInt ≤ (ascii '9').toInt) ∨
    ((ascii 'a').toInt ≤ value.toInt ∧ value.toInt ≤ (ascii 'f').toInt) ∨
    ((ascii 'A').toInt ≤ value.toInt ∧ value.toInt ≤ (ascii 'F').toInt)

/-- The byte of one pair of characters. -/
def readPair (high low : CChar) : Option Byte :=
  match hexNibble high, hexNibble low with
  | some high, some low => some ((high <<< 4) ||| low)
  | _, _ => none

/-- A text read pair by pair. -/
def fromPairs : List CChar → Option (List Byte)
  | [] => some []
  | [_] => none
  | high :: low :: rest =>
    (readPair high low).bind (fun byte => (fromPairs rest).map (byte :: ·))

theorem bytesToHex_eq (bytes : List Byte) : bytesToHex bytes = bytes.flatMap hexPair := by
  have loop : ∀ result : List CChar,
      bytes.foldl (fun result byte => result ++ hexPair byte) result =
        result ++ bytes.flatMap hexPair := by
    induction bytes with
    | nil => intro result; simp
    | cons byte bytes ih =>
      intro result
      rw [List.foldl_cons, ih, List.flatMap_cons, List.append_assoc]
  exact loop []

theorem bytesToHex_length (bytes : List Byte) : (bytesToHex bytes).length = 2 * bytes.length := by
  rw [bytesToHex_eq]
  induction bytes with
  | nil => rfl
  | cons byte bytes ih =>
    rw [List.flatMap_cons, List.length_append, ih, List.length_cons, hexPair]
    simp only [List.length_cons, List.length_nil]
    omega

theorem charAt_append_right (left right : List CChar) (index : Nat) :
    charAt (left ++ right) (left.length + index) = charAt right index := by
  simp [charAt, List.getD_eq_getElem?_getD, List.getElem?_append_right]

/-- The loop of `bytes_from_hex` from the end of `front` on: the index is the length of what
has been read, and the rest of the text is read pair by pair. -/
theorem fromHex_loop (front rest : List CChar) (even : rest.length % 2 = 0)
    (result : List Byte) :
    (List.range' front.length (rest.length / 2) 2).foldlM (fun result index =>
      match hexNibble (charAt (front ++ rest) index),
        hexNibble (charAt (front ++ rest) (index + 1)) with
      | some high, some low => some (result ++ [(high <<< 4) ||| low])
      | _, _ => none) result =
    (fromPairs rest).map (result ++ ·) := by
  induction rest using fromPairs.induct generalizing front result with
  | case1 => simp [fromPairs]
  | case2 value => cases even
  | case3 high low rest ih =>
    have shorter : rest.length % 2 = 0 := by
      simp only [List.length_cons] at even
      omega
    have count : (high :: low :: rest).length / 2 = rest.length / 2 + 1 := by
      simp only [List.length_cons]
      omega
    have first := charAt_append_right front (high :: low :: rest) 0
    have second := charAt_append_right front (high :: low :: rest) 1
    have next := ih (front ++ [high, low]) shorter
    simp only [List.append_assoc, List.cons_append, List.nil_append, List.length_append,
      List.length_cons, List.length_nil] at next
    rw [count, List.range'_succ, List.foldlM_cons, show front.length = front.length + 0 from rfl,
      first, Nat.add_zero, second]
    simp only [charAt, List.getD_cons_zero, List.getD_cons_succ, fromPairs, readPair]
    cases hexNibble high with
    | none => rfl
    | some high =>
      cases hexNibble low with
      | none => rfl
      | some low =>
        refine (next _).trans ?_
        simp [Function.comp_def]

theorem bytesFromHex_eq (text : List CChar) :
    bytesFromHex text =
      if text.length % 2 ≠ 0 ∨ text.length / 2 > maximumFrameSize then none
      else fromPairs text := by
  unfold bytesFromHex
  by_cases rejected : text.length % 2 ≠ 0 ∨ text.length / 2 > maximumFrameSize
  · rw [if_pos rejected, if_pos rejected]
  · rw [if_neg rejected, if_neg rejected]
    have even : text.length % 2 = 0 := by omega
    have count : (text.length + 1) / 2 = text.length / 2 := by omega
    have loop := fromHex_loop [] text even []
    simp only [List.nil_append, List.length_nil, Option.map_id'] at loop
    rw [count]
    exact loop

/-- A character that is read as a nibble is, with letters lowered, the digit of that nibble. -/
theorem hexNibble_sound {value : CChar} {nibble : BitVec 8} (read : hexNibble value = some nibble) :
    nibble.toNat < 16 ∧ lowerLetter value = charAt hexDigits nibble.toNat := by
  have table : ∀ value : CChar, (hexNibble value).all (fun nibble =>
      nibble.toNat < 16 ∧ lowerLetter value = charAt hexDigits nibble.toNat) = true := by
    decide +kernel
  have row := table value
  rw [read, Option.all_some, decide_eq_true_eq] at row
  exact row

/-- Every spelling of a digit is read as its nibble. -/
theorem hexNibble_complete : ∀ (value : CChar) (nibble : Fin 16),
    lowerLetter value = charAt hexDigits nibble → hexNibble value = some (BitVec.ofNat 8 nibble) := by
  decide +kernel

theorem hexNibble_isSome_iff (value : CChar) :
    (hexNibble value).isSome = true ↔ IsHexDigit value := by
  unfold hexNibble IsHexDigit
  split
  · simp_all
  · split
    · simp_all
    · split
      · simp_all
      · simp_all

theorem hexNibble_eq_some_iff (value : CChar) {nibble : BitVec 8} (small : nibble.toNat < 16) :
    hexNibble value = some nibble ↔ lowerLetter value = charAt hexDigits nibble.toNat := by
  constructor
  · intro read
    exact (hexNibble_sound read).2
  · intro spelled
    have := hexNibble_complete value ⟨nibble.toNat, small⟩ spelled
    rwa [BitVec.ofNat_toNat, BitVec.setWidth_eq] at this

/-- Splitting a byte into nibbles undoes putting it together. -/
theorem split_join (high low : Fin 16) :
    ((BitVec.ofNat 8 high <<< 4) ||| BitVec.ofNat 8 low) >>> 4 = BitVec.ofNat 8 high ∧
      ((BitVec.ofNat 8 high <<< 4) ||| BitVec.ofNat 8 low) &&& 0x0F#8 = BitVec.ofNat 8 low := by
  revert high low
  decide +kernel

theorem join_split (byte : Byte) :
    (byte >>> 4).toNat < 16 ∧ (byte &&& 0x0F#8).toNat < 16 ∧
      ((byte >>> 4) <<< 4) ||| (byte &&& 0x0F#8) = byte := by
  revert byte
  decide +kernel

/-- A pair of characters is read as a byte exactly when it spells the byte's two digits. -/
theorem readPair_eq_some_iff (high low : CChar) (byte : Byte) :
    readPair high low = some byte ↔ [high, low].map lowerLetter = hexPair byte := by
  obtain ⟨smallHigh, smallLow, joined⟩ := join_split byte
  have spelled : [high, low].map lowerLetter = hexPair byte ↔
      hexNibble high = some (byte >>> 4) ∧ hexNibble low = some (byte &&& 0x0F#8) := by
    rw [hexNibble_eq_some_iff high smallHigh, hexNibble_eq_some_iff low smallLow]
    simp [hexPair]
  rw [spelled]
  constructor
  · unfold readPair
    intro read
    split at read
    · rename_i first second readHigh readLow
      have boundHigh := (hexNibble_sound readHigh).1
      have boundLow := (hexNibble_sound readLow).1
      have parts := split_join ⟨first.toNat, boundHigh⟩ ⟨second.toNat, boundLow⟩
      simp only [BitVec.ofNat_toNat, BitVec.setWidth_eq] at parts
      rw [← Option.some.inj read, parts.1, parts.2]
      exact ⟨readHigh, readLow⟩
    · cases read
  · rintro ⟨readHigh, readLow⟩
    rw [readPair, readHigh, readLow]
    exact congrArg some joined

theorem fromPairs_cons_eq_some_iff (high low : CChar) (rest : List CChar) (bytes : List Byte) :
    fromPairs (high :: low :: rest) = some bytes ↔
      ∃ byte tail, readPair high low = some byte ∧ fromPairs rest = some tail ∧
        byte :: tail = bytes := by
  simp only [fromPairs, Option.bind_eq_some_iff, Option.map_eq_some_iff]
  constructor
  · rintro ⟨byte, read, tail, others, rfl⟩
    exact ⟨byte, tail, read, others, rfl⟩
  · rintro ⟨byte, tail, read, others, rfl⟩
    exact ⟨byte, read, tail, others, rfl⟩

/-- Reading pair by pair accepts exactly what `bytes_to_hex` writes, in either letter case. -/
theorem fromPairs_eq_some_iff (text : List CChar) (bytes : List Byte) :
    fromPairs text = some bytes ↔ text.map lowerLetter = bytesToHex bytes := by
  rw [bytesToHex_eq]
  induction text using fromPairs.induct generalizing bytes with
  | case1 =>
    cases bytes with
    | nil => simp [fromPairs]
    | cons byte bytes => simp [fromPairs, hexPair]
  | case2 value =>
    cases bytes with
    | nil => simp [fromPairs]
    | cons byte bytes => simp [fromPairs, hexPair]
  | case3 high low rest ih =>
    rw [fromPairs_cons_eq_some_iff]
    constructor
    · rintro ⟨byte, tail, read, others, rfl⟩
      rw [List.flatMap_cons, ← (ih tail).mp others, ← (readPair_eq_some_iff high low byte).mp read]
      rfl
    · intro spelled
      cases bytes with
      | nil => cases spelled
      | cons byte tail =>
        have cut : [high, low].map lowerLetter ++ rest.map lowerLetter =
            hexPair byte ++ tail.flatMap hexPair := by
          rw [← List.flatMap_cons, ← spelled]
          rfl
        obtain ⟨pair, others⟩ := List.append_inj cut rfl
        exact ⟨byte, tail, (readPair_eq_some_iff high low byte).mpr pair, (ih tail).mpr others, rfl⟩

/-- A text with a character that is no hexadecimal digit is not read. -/
theorem fromPairs_eq_none {text : List CChar} {value : CChar} (member : value ∈ text)
    (invalid : ¬ IsHexDigit value) : fromPairs text = none := by
  rw [← hexNibble_isSome_iff, Bool.not_eq_true, Option.isSome_eq_false_iff,
    Option.isNone_iff_eq_none] at invalid
  induction text using fromPairs.induct with
  | case1 => cases member
  | case2 => rfl
  | case3 high low rest ih =>
    rw [fromPairs]
    rcases List.mem_cons.mp member with rfl | member
    · simp [readPair, invalid]
    rcases List.mem_cons.mp member with rfl | member
    · simp [readPair, invalid]
    · simp [ih member]

/-- Digits are written in lower case. -/
theorem lowerLetter_hexPair : ∀ byte : Byte, (hexPair byte).map lowerLetter = hexPair byte := by
  decide +kernel

theorem map_lowerLetter_bytesToHex (bytes : List Byte) :
    (bytesToHex bytes).map lowerLetter = bytesToHex bytes := by
  rw [bytesToHex_eq]
  induction bytes with
  | nil => rfl
  | cons byte bytes ih =>
    rw [List.flatMap_cons, List.map_append, lowerLetter_hexPair, ih]

theorem bytesFromHex_eq_some_iff (text : List CChar) (bytes : List Byte) :
    bytesFromHex text = some bytes ↔
      bytes.length ≤ 278 ∧ text.length = 2 * bytes.length ∧
        text.map lowerLetter = bytesToHex bytes := by
  have length : text.map lowerLetter = bytesToHex bytes → text.length = 2 * bytes.length := by
    intro spelled
    rw [← bytesToHex_length bytes, ← spelled, List.length_map]
  have maximum : maximumFrameSize = 278 := rfl
  rw [bytesFromHex_eq]
  split
  · rename_i rejected
    constructor
    · intro impossible; cases impossible
    · omega
  · rw [fromPairs_eq_some_iff]
    constructor
    · intro spelled
      exact ⟨by have := length spelled; omega, length spelled, spelled⟩
    · exact fun h => h.2.2

/-- Hexadecimal text and bytes correspond: a text is read as a byte string exactly when it
spells it in some letter case and the byte string fits a frame. So writing and reading back
is the identity, and a text that is odd, too long or not hexadecimal throughout is rejected
as a whole. -/
theorem hex_corresponds :
    (∀ (text : List CChar) (bytes : List Byte), bytesFromHex text = some bytes ↔
      bytes.length ≤ 278 ∧ text.length = 2 * bytes.length ∧
        text.map lowerLetter = bytesToHex bytes) ∧
    (∀ bytes : List Byte, bytes.length ≤ 278 → bytesFromHex (bytesToHex bytes) = some bytes) ∧
    (∀ text : List CChar, text.length % 2 = 1 ∨ 2 * 278 < text.length ∨
      (∃ value ∈ text, ¬ IsHexDigit value) → bytesFromHex text = none) := by
  refine ⟨bytesFromHex_eq_some_iff, ?_, ?_⟩
  · intro bytes small
    exact (bytesFromHex_eq_some_iff _ _).mpr
      ⟨small, bytesToHex_length bytes, map_lowerLetter_bytesToHex bytes⟩
  · have maximum : maximumFrameSize = 278 := rfl
    rintro text (odd | long | ⟨value, member, invalid⟩)
    · rw [bytesFromHex_eq, if_pos (by omega)]
    · rw [bytesFromHex_eq, if_pos (by omega)]
    · rw [bytesFromHex_eq, fromPairs_eq_none member invalid, ite_self]

end Imlp
