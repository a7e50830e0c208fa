import Imlp.Codec.Checksum

/-!
# Detection of short bursts

A change confined to four consecutive bytes is examined by where its window lies. Inside
the message the register tells the two stretches apart; inside the trailer the received
checksum itself changes. A window across the boundary changes the last `n` message bytes and
the first `4 - n` trailer bytes. Were the trailer sent in register order this would be the
same argument once more, but `append_u32` sends the most significant byte first, and the
message change must be compared with a byte-reversed word. For one and three message bytes
the comparison still never succeeds; for two it succeeds for exactly one pattern, named
`boundaryPatch` here.
-/

namespace Imlp
open ShiftRegister XorLinear

/-- Undoes eight clocks of the register on words of 8 bits, from the 8 low bits of the result. -/
def inverse8 : List (BitVec 32) :=
  [0x4F#32, 0xFA#32, 0xBB#32, 0x39#32, 0x72#32, 0x80#32, 0x2B#32, 0x32#32]

/-- On words of 16 bits there is no such inverse; this one recovers the word up to the pattern
`0xD861`. -/
def inverse16 : List (BitVec 32) :=
  [0x0#32, 0x4013#32, 0x5847#32, 0x4C#32, 0x408B#32, 0x31D4#32, 0x4B18#32, 0xE42#32,
    0x1C84#32, 0x3908#32, 0x1AB3#32, 0x7575#32, 0x328B#32, 0x6516#32, 0x124D#32, 0x4C39#32]

/-- Undoes 24 clocks of the register on words of 24 bits. -/
def inverse24 : List (BitVec 32) :=
  [0x53AD05#32, 0x9D10EE#32, 0x698CD9#32, 0xD319B2#32, 0xF59E61#32, 0xB891C7#32, 0x228E8B#32,
    0x7F57F2#32, 0xC4E500#32, 0xE02DE1#32, 0x93F6C7#32, 0x4E0A6F#32, 0x9C14DE#32, 0x6B84B9#32,
    0xD70972#32, 0xC7F505#32, 0xDC470F#32, 0xEB231B#32, 0xBFA1D7#32, 0x2CEEAB#32, 0x59DD56#32,
    0xB3BAAC#32, 0xE92B9#32, 0x1D2572#32]

/-- A matrix that undoes the register on the first `bits` powers of two undoes it on every
word of `bits` bits, so such a word is not clocked to one whose low bits are all clear. -/
theorem eq_zero_of_inverse (columns : List (BitVec 32))
    (basis : ∀ i, i < columns.length → combine columns
      ((shift crcPoly)^[columns.length] (BitVec.twoPow 32 i)) = BitVec.twoPow 32 i)
    (x : BitVec 32) (high : ∀ i, columns.length ≤ i → x.getLsbD i = false)
    (low : ∀ i, i < columns.length →
      ((shift crcPoly)^[columns.length] x).getLsbD i = false) : x = 0#32 := by
  have inverse := eq_of_basis
    ((combine_linear (n := 32) columns).comp ((shift_linear crcPoly).iterate columns.length))
    XorLinear.id basis x high
  rw [← inverse]
  exact combine_eq_zero columns _ low

theorem eq_zero_of_low8 (x : BitVec 32) (high : ∀ i, 8 ≤ i → x.getLsbD i = false)
    (low : ∀ i, i < 8 → ((shift crcPoly)^[8] x).getLsbD i = false) : x = 0#32 :=
  eq_zero_of_inverse inverse8 (by decide +kernel) x high low

theorem eq_zero_of_low24 (x : BitVec 32) (high : ∀ i, 24 ≤ i → x.getLsbD i = false)
    (low : ∀ i, i < 24 → ((shift crcPoly)^[24] x).getLsbD i = false) : x = 0#32 :=
  eq_zero_of_inverse inverse24 (by decide +kernel) x high low

/-- On sixteen bits the matrix recovers a word with bit 15 cleared, up to the one pattern
that the register maps to a word with clear low half. -/
theorem inverse16_basis : ∀ i, i < 16 →
    combine inverse16 ((shift crcPoly)^[16] (BitVec.twoPow 32 i)) =
      BitVec.twoPow 32 i ^^^ (if (BitVec.twoPow 32 i).getLsbD 15 then 0xD861#32 else 0#32) := by
  decide +kernel

theorem eq_pattern_of_low16 (x : BitVec 32) (high : ∀ i, 16 ≤ i → x.getLsbD i = false)
    (low : ∀ i, i < 16 → ((shift crcPoly)^[16] x).getLsbD i = false) :
    x = 0#32 ∨ x = 0xD861#32 := by
  have inverse := eq_of_basis
    ((combine_linear (n := 32) inverse16).comp ((shift_linear crcPoly).iterate 16))
    (XorLinear.id.xor (XorLinear.select 15 0xD861#32)) inverse16_basis x high
  have zero : combine inverse16 ((shift crcPoly)^[16] x) = 0#32 :=
    combine_eq_zero inverse16 _ low
  rw [zero] at inverse
  have cases := BitVec.xor_eq_zero_iff.mp inverse.symm
  split at cases
  · exact .inr cases
  · exact .inl cases

/-- Agreement outside a window, from the pieces before and after it. -/
theorem agree_outside {left right : List Byte} {start : Nat}
    (before : left.take start = right.take start)
    (after : left.drop (start + 4) = right.drop (start + 4)) :
    ∀ i, i < start ∨ start + 4 ≤ i → left[i]? = right[i]? := by
  intro i outside
  rcases outside with low | high
  · have := congrArg (fun bytes => bytes[i]?) before
    simpa only [List.getElem?_take, low, if_true] using this
  · have := congrArg (fun bytes => bytes[i - (start + 4)]?) after
    simpa only [List.getElem?_drop, Nat.add_sub_cancel' high] using this

theorem byteAt_congr {left right : List Byte} {index : Nat} (same : left[index]? = right[index]?) :
    byteAt left index = byteAt right index := by
  rw [byteAt, byteAt, List.getD_eq_getElem?_getD, List.getD_eq_getElem?_getD, same]

/-- Replacing the checksum by its trailer, two frames with the same message are equal. -/
theorem eq_of_message_eq {left right : List Byte} (length : left.length = right.length)
    (hleft : ChecksumHolds left) (hright : ChecksumHolds right)
    (message : left.take (left.length - 4) = right.take (left.length - 4)) : left = right := by
  have trailer : readU32 left (left.length - 4) = readU32 right (left.length - 4) := by
    rw [← hleft.2, message, length, hright.2]
  apply ext_byteAt length
  intro i hi
  by_cases before : i < left.length - 4
  · have cut := congrArg (fun bytes => bytes[i]?) message
    simp only [List.getElem?_take, before, if_true] at cut
    exact byteAt_congr cut
  · have := hleft.1
    exact byteAt_of_readU32 trailer i (by omega) (by omega)

/-- The change of the last two message bytes and of the first two trailer bytes that the
checksum does not see. -/
def boundaryPattern : List Byte := [0x61#8, 0xD8#8, 0xF4#8, 0xEE#8]

/-- A frame changed by `boundaryPattern` at the boundary between message and trailer. -/
def boundaryPatch (bytes : List Byte) : List Byte :=
  bytes.take (bytes.length - 6) ++
    List.zipWith (· ^^^ ·) ((bytes.drop (bytes.length - 6)).take 4) boundaryPattern ++
    bytes.drop (bytes.length - 2)

/-- The change of the message seen through `word`. -/
theorem word_change (x y : Byte) :
    word 32 [x ^^^ 0x61#8, y ^^^ 0xD8#8] = word 32 [x, y] ^^^ 0xD861#32 := by
  have split : (0xD861#32 : BitVec 32) =
      (0x61#8).setWidth 32 ^^^ ((0xD8#8).setWidth 32 <<< 8) := by decide
  simp only [word, BitVec.setWidth_xor, BitVec.shiftLeft_xor_distrib, split]
  ac_rfl

/-- The register sixteen clocks after the change of the message. -/
theorem change_image : (shift crcPoly)^[8 * 2] 0xD861#32 =
    (0xF4#8 ++ 0xEE#8 ++ 0#8 ++ 0#8 : BitVec 32) := by decide +kernel

section Window

variable {sent received : List Byte} {start : Nat}

theorem burst_in_message (length : received.length = sent.length)
    (hsent : ChecksumHolds sent) (hreceived : ChecksumHolds received)
    (window : ∀ i, i < start ∨ start + 4 ≤ i → received[i]? = sent[i]?)
    (inside : start + 4 ≤ sent.length - 4) : received = sent := by
  have trailer : readU32 received (sent.length - 4) = readU32 sent (sent.length - 4) :=
    readU32_congr (fun i low _ => byteAt_congr (window i (by omega)))
  have sameCrc : crc32 (received.take (sent.length - 4)) = crc32 (sent.take (sent.length - 4)) := by
    rw [hsent.2, ← trailer, ← length, hreceived.2]
  -- a window of four bytes is a window of 32 bits that begins at a byte boundary
  have outside : ∀ i, i < 8 * (received.take (sent.length - 4)).length →
      i < 8 * start ∨ 8 * start + 32 ≤ i →
      bitAt (received.take (sent.length - 4)) i = bitAt (sent.take (sent.length - 4)) i := by
    intro i _ beside
    have byte : (received.take (sent.length - 4))[i / 8]? =
        (sent.take (sent.length - 4))[i / 8]? := by
      rw [List.getElem?_take, List.getElem?_take, window (i / 8) (by omega)]
    exact congrArg (BitVec.getLsbD · (i % 8)) (byteAt_congr byte)
  have sizes : (received.take (sent.length - 4)).length = (sent.take (sent.length - 4)).length := by
    rw [List.length_take, List.length_take, length]
  have messages : received.take (sent.length - 4) = sent.take (sent.length - 4) :=
    eq_of_absorbs_eq crcPoly_top 0xFFFFFFFF#32 (by decide) sizes outside
      (absorbs_of_crc32_eq sameCrc)
  apply eq_of_message_eq length hreceived hsent
  rw [length, messages]

theorem burst_in_trailer (length : received.length = sent.length)
    (hsent : ChecksumHolds sent) (hreceived : ChecksumHolds received)
    (window : ∀ i, i < start ∨ start + 4 ≤ i → received[i]? = sent[i]?)
    (inside : sent.length - 4 ≤ start) : received = sent := by
  apply eq_of_message_eq length hreceived hsent
  apply take_congr
  intro i hi
  exact window i (.inl (by omega))

theorem xor_cancel_common (a b c : BitVec 32) : (a ^^^ b) ^^^ (a ^^^ c) = b ^^^ c := by
  rw [BitVec.xor_comm a b, BitVec.xor_assoc, ← BitVec.xor_assoc a a c, BitVec.xor_self,
    BitVec.zero_xor]

theorem eq_xor_of_xor_eq {w : Nat} {a b c : BitVec w} (h : a ^^^ b = c) : a = b ^^^ c := by
  rw [← h, BitVec.xor_comm a b, ← BitVec.xor_assoc, BitVec.xor_self, BitVec.zero_xor]

/-- The pattern read off the two words it changes. -/
theorem eq_boundaryPatch (length : received.length = sent.length)
    (boundary : start + 2 = sent.length - 4)
    (window : ∀ i, i < start ∨ start + 4 ≤ i → received[i]? = sent[i]?)
    (message : word 32 ((received.drop start).take 2) ^^^ word 32 ((sent.drop start).take 2) =
      0xD861#32)
    (trailer : (shift crcPoly)^[8 * 2]
      (word 32 ((received.drop start).take 2) ^^^ word 32 ((sent.drop start).take 2)) =
      readU32 received (sent.length - 4) ^^^ readU32 sent (sent.length - 4)) :
    received = boundaryPatch sent := by
  rw [message, change_image] at trailer
  have messageWord := eq_xor_of_xor_eq message
  have trailerWord := eq_xor_of_xor_eq trailer.symm
  rw [slice_two (by omega), slice_two (by omega)] at messageWord
  rw [← boundary, readU32_eq, readU32_eq, BitVec.xor_append, BitVec.xor_append,
    BitVec.xor_append] at trailerWord
  have trailerBytes := congrArg u32Bytes trailerWord
  rw [u32Bytes_append, u32Bytes_append] at trailerBytes
  rw [← word_change] at messageWord
  have messagePair : [byteAt received start, byteAt received (start + 1)] =
      [byteAt sent start ^^^ 0x61#8, byteAt sent (start + 1) ^^^ 0xD8#8] :=
    word_injective (w := 32) (by simp) rfl messageWord
  simp only [List.cons.injEq, and_true, BitVec.xor_zero] at messagePair trailerBytes
  have before : received.take start = sent.take start :=
    take_congr (fun i hi => window i (.inl hi))
  have after : received.drop (start + 4) = sent.drop (start + 4) :=
    drop_congr (fun i hi => window i (.inr hi))
  have start_eq : sent.length - 6 = start := by omega
  have end_eq : sent.length - 2 = start + 4 := by omega
  have cut : received = received.take start ++ (received.drop start).take 4 ++
      received.drop (start + 4) := by
    rw [← List.take_add, List.take_append_drop]
  rw [boundaryPatch, start_eq, end_eq, cut, before, after, slice_four _ (by omega),
    slice_four _ (by omega), messagePair.1, messagePair.2, trailerBytes.1, trailerBytes.2.1]
  rfl

/-- The last bytes of two messages with a common beginning, seen through the checksum. -/
theorem crc32_xor_tail (common left right : List Byte) (length : left.length = right.length)
    (fits : 8 * left.length ≤ 32) :
    crc32 (common ++ left) ^^^ crc32 (common ++ right) =
      (shift crcPoly)^[8 * left.length] (word 32 left ^^^ word 32 right) := by
  rw [crc32_xor, absorbs_append, absorbs_append, absorbs_eq_word _ _ left fits,
    absorbs_eq_word _ _ right (by rw [← length]; exact fits), ← length, ← iterate_xor]
  rw [xor_cancel_common]

theorem burst_across (length : received.length = sent.length)
    (hsent : ChecksumHolds sent) (hreceived : ChecksumHolds received)
    (window : ∀ i, i < start ∨ start + 4 ≤ i → received[i]? = sent[i]?)
    (low : start < sent.length - 4) (high : sent.length - 4 < start + 4) :
    received = sent ∨ received = boundaryPatch sent := by
  obtain ⟨count, hcount⟩ : ∃ count, start + count = sent.length - 4 :=
    ⟨sent.length - 4 - start, by omega⟩
  have size : ∀ bytes : List Byte, bytes.length = sent.length →
      ((bytes.drop start).take count).length = count := by
    intro bytes h
    rw [List.length_take, List.length_drop, h]
    omega
  have cut : ∀ bytes : List Byte, bytes.take (sent.length - 4) =
      bytes.take start ++ (bytes.drop start).take count := by
    intro bytes
    rw [← List.take_add, hcount]
  have before : received.take start = sent.take start :=
    take_congr (fun i hi => window i (.inl hi))
  have fits : 8 * ((received.drop start).take count).length ≤ 32 := by
    rw [size received length]
    omega
  -- the two sides of the checksum comparison change by the same word
  have balance : (shift crcPoly)^[8 * count]
      (word 32 ((received.drop start).take count) ^^^ word 32 ((sent.drop start).take count)) =
      readU32 received (sent.length - 4) ^^^ readU32 sent (sent.length - 4) := by
    have tail := crc32_xor_tail (sent.take start) ((received.drop start).take count)
      ((sent.drop start).take count) (by rw [size received length, size sent rfl]) fits
    rw [size received length, ← cut sent, ← before, ← cut received, hsent.2, ← length,
      hreceived.2] at tail
    rw [← tail, length]
  -- the trailer bytes outside the window are its low bits
  have clear : ∀ i, i < 8 * count → ((shift crcPoly)^[8 * count]
      (word 32 ((received.drop start).take count) ^^^
        word 32 ((sent.drop start).take count))).getLsbD i = false := by
    intro i hi
    have same : byteAt received (sent.length - 4 + (3 - i / 8)) =
        byteAt sent (sent.length - 4 + (3 - i / 8)) :=
      byteAt_congr (window _ (.inr (by omega)))
    rw [balance, BitVec.getLsbD_xor, readU32_getLsbD _ _ (by omega), readU32_getLsbD _ _ (by omega),
      same, Bool.xor_self]
  have short : ∀ i, 8 * count ≤ i → (word 32 ((received.drop start).take count) ^^^
      word 32 ((sent.drop start).take count)).getLsbD i = false := by
    intro i hi
    rw [BitVec.getLsbD_xor, word_high _ i (by rw [size received length]; exact hi),
      word_high _ i (by rw [size sent rfl]; exact hi), Bool.xor_self]
  have equal : word 32 ((received.drop start).take count) ^^^
      word 32 ((sent.drop start).take count) = 0#32 → received = sent := by
    intro zero
    have tails := word_injective fits (by rw [size received length, size sent rfl])
      (BitVec.xor_eq_zero_iff.mp zero)
    apply eq_of_message_eq length hreceived hsent
    rw [length, cut received, cut sent, before, tails]
  rcases (by omega : count = 1 ∨ count = 2 ∨ count = 3) with rfl | rfl | rfl
  · exact .inl (equal (eq_zero_of_low8 _ short clear))
  · rcases eq_pattern_of_low16 _ short clear with zero | pattern
    · exact .inl (equal zero)
    · exact .inr (eq_boundaryPatch length hcount window pattern balance)
  · exact .inl (equal (eq_zero_of_low24 _ short clear))

end Window

/-! ## The excepted pattern -/

/-- A byte string with its last two bytes changed as in `boundaryPattern`. -/
def changeTail (bytes : List Byte) : List Byte :=
  bytes.take (bytes.length - 2) ++
    List.zipWith (· ^^^ ·) (bytes.drop (bytes.length - 2)) [0x61#8, 0xD8#8]

theorem changeTail_append (front : List Byte) (x y : Byte) :
    changeTail (front ++ [x, y]) = front ++ [x ^^^ 0x61#8, y ^^^ 0xD8#8] := by
  have size : (front ++ [x, y]).length - 2 = front.length := by simp
  rw [changeTail, size, List.take_left, List.drop_left]
  rfl

theorem exists_last_two {bytes : List Byte} (long : 2 ≤ bytes.length) :
    ∃ front x y, bytes = front ++ [x, y] := by
  refine ⟨bytes.take (bytes.length - 2), byteAt bytes (bytes.length - 2),
    byteAt bytes (bytes.length - 2 + 1), ?_⟩
  have whole : (bytes.drop (bytes.length - 2)).take 2 = bytes.drop (bytes.length - 2) := by
    apply List.take_of_length_le
    rw [List.length_drop]
    omega
  rw [← slice_two (by omega), whole, List.take_append_drop]

theorem changeTail_length (bytes : List Byte) (long : 2 ≤ bytes.length) :
    (changeTail bytes).length = bytes.length := by
  obtain ⟨front, x, y, rfl⟩ := exists_last_two long
  simp [changeTail_append]

/-- The frame that the pattern turns a frame into: it reaches into the status field when the
payload has fewer than two bytes. -/
def boundaryFrame (frame : Frame) : Frame :=
  match frame.payload with
  | [] => { frame with status := .ofWord (frame.status.toWord ^^^ 0x61D8#16) }
  | [byte] =>
    { frame with
      status := .ofWord (frame.status.toWord ^^^ 0x0061#16)
      payload := [byte ^^^ 0xD8#8] }
  | payload => { frame with payload := changeTail payload }

theorem u16Bytes_xor (value change : BitVec 16) :
    u16Bytes (value ^^^ change) =
      [value.extractLsb' 8 8 ^^^ change.extractLsb' 8 8,
        value.extractLsb' 0 8 ^^^ change.extractLsb' 0 8] := by
  rw [u16Bytes, BitVec.extractLsb'_xor, BitVec.extractLsb'_xor]

/-- The header without its status field. -/
theorem headerBytes_split (frame : Frame) : ∃ front : List Byte, ∀ status payload,
    payload.length = frame.payload.length →
    headerBytes { frame with status := status, payload := payload } =
      front ++ u16Bytes status.toWord := by
  refine ⟨magic ++ [frame.version, frame.opcode.toByte, frame.flags, 0#8] ++
    u32Bytes frame.requestId ++ u32Bytes frame.address ++
    u16Bytes (BitVec.ofNat 16 frame.payload.length), ?_⟩
  intro status payload size
  rw [headerBytes, size]

theorem bodyBytes_boundaryFrame (frame : Frame) :
    bodyBytes (boundaryFrame frame) = changeTail (bodyBytes frame) := by
  obtain ⟨front, header⟩ := headerBytes_split frame
  have own := header frame.status frame.payload rfl
  have zero : ∀ byte : Byte, byte ^^^ (0x0061#16).extractLsb' 8 8 = byte := by
    intro byte
    exact BitVec.xor_zero
  rcases frame with ⟨version, opcode, flags, requestId, address, status, payload⟩
  match payload with
  | [] =>
    have changed := header (.ofWord (status.toWord ^^^ 0x61D8#16)) [] rfl
    simp only [boundaryFrame, bodyBytes] at own changed ⊢
    rw [own, changed, List.append_nil, List.append_nil, u16Bytes_xor, u16Bytes,
      changeTail_append]
    rfl
  | [byte] =>
    have changed := header (.ofWord (status.toWord ^^^ 0x0061#16)) [byte ^^^ 0xD8#8] rfl
    simp only [boundaryFrame, bodyBytes] at own changed ⊢
    rw [own, changed, u16Bytes_xor, u16Bytes, zero]
    have := changeTail_append (front ++ [status.toWord.extractLsb' 8 8])
      (status.toWord.extractLsb' 0 8) byte
    simpa using this.symm
  | first :: second :: rest =>
    have long : 2 ≤ (first :: second :: rest).length := by simp
    have changed := header status (changeTail (first :: second :: rest))
      (changeTail_length _ long)
    simp only [boundaryFrame, bodyBytes] at own changed ⊢
    rw [own, changed]
    obtain ⟨init, x, y, split⟩ := exists_last_two long
    rw [split, changeTail_append, ← List.append_assoc _ init [x, y], changeTail_append,
      List.append_assoc _ init]

theorem crc32_changeTail (front : List Byte) (x y : Byte) :
    crc32 (changeTail (front ++ [x, y])) =
      crc32 (front ++ [x, y]) ^^^ (0xF4#8 ++ 0xEE#8 ++ 0#8 ++ 0#8 : BitVec 32) := by
  have tail := crc32_xor_tail front [x ^^^ 0x61#8, y ^^^ 0xD8#8] [x, y] rfl (by simp)
  have change : word 32 [x ^^^ 0x61#8, y ^^^ 0xD8#8] ^^^ word 32 [x, y] = 0xD861#32 := by
    rw [word_change, BitVec.xor_comm, ← BitVec.xor_assoc, BitVec.xor_self, BitVec.zero_xor]
  rw [change] at tail
  rw [changeTail_append]
  exact eq_xor_of_xor_eq (tail.trans change_image)

theorem u32Bytes_xor_trailer (value : BitVec 32) :
    u32Bytes (value ^^^ (0xF4#8 ++ 0xEE#8 ++ 0#8 ++ 0#8 : BitVec 32)) =
      [value.extractLsb' 24 8 ^^^ 0xF4#8, value.extractLsb' 16 8 ^^^ 0xEE#8,
        value.extractLsb' 8 8, value.extractLsb' 0 8] := by
  rw [u32Bytes, BitVec.extractLsb'_xor, BitVec.extractLsb'_xor, BitVec.extractLsb'_xor,
    BitVec.extractLsb'_xor]
  simp

theorem boundaryPatch_append (front : List Byte) (x y b0 b1 b2 b3 : Byte) :
    boundaryPatch (front ++ [x, y] ++ [b0, b1, b2, b3]) =
      front ++ [x ^^^ 0x61#8, y ^^^ 0xD8#8] ++ [b0 ^^^ 0xF4#8, b1 ^^^ 0xEE#8, b2, b3] := by
  have early : (front ++ [x, y] ++ [b0, b1, b2, b3]).length - 6 = front.length := by simp
  have late : (front ++ [x, y] ++ [b0, b1, b2, b3]).length - 2 = front.length + 4 := by simp
  rw [boundaryPatch, early, late, List.append_assoc front [x, y], List.take_left, List.drop_left,
    ← List.drop_drop, List.drop_left]
  simp [boundaryPattern]

/-- The pattern turns the wire form of a frame into the wire form of another one. -/
theorem boundaryPatch_wireBytes (frame : Frame) :
    boundaryPatch (wireBytes frame) = wireBytes (boundaryFrame frame) := by
  have long : 2 ≤ (bodyBytes frame).length := by
    rw [bodyBytes_length]
    omega
  obtain ⟨front, x, y, body⟩ := exists_last_two long
  rw [wireBytes, wireBytes, bodyBytes_boundaryFrame, body, crc32_changeTail, u32Bytes_xor_trailer,
    changeTail_append, u32Bytes, boundaryPatch_append]

theorem boundaryFrame_payload_length (frame : Frame) :
    (boundaryFrame frame).payload.length = frame.payload.length := by
  rcases frame with ⟨version, opcode, flags, requestId, address, status, payload⟩
  match payload with
  | [] => rfl
  | [byte] => rfl
  | first :: second :: rest => exact changeTail_length _ (by simp)

theorem boundaryFrame_fields (frame : Frame) :
    (boundaryFrame frame).version = frame.version ∧
      (boundaryFrame frame).opcode = frame.opcode ∧
      (boundaryFrame frame).flags = frame.flags := by
  unfold boundaryFrame
  split <;> exact ⟨rfl, rfl, rfl⟩

theorem boundaryFrame_status_long {frame : Frame} (long : 2 ≤ frame.payload.length) :
    (boundaryFrame frame).status = frame.status := by
  rcases frame with ⟨version, opcode, flags, requestId, address, status, payload⟩
  match payload with
  | [] => simp at long
  | [byte] => simp at long
  | first :: second :: rest => rfl

theorem boundaryFrame_status_short {frame : Frame} (short : frame.payload.length < 2)
    (status : frame.status = .ok) : (boundaryFrame frame).status ≠ .ok := by
  rcases frame with ⟨version, opcode, flags, requestId, address, _, payload⟩
  obtain rfl := status
  match payload with
  | [] =>
    change Status.ofWord (0#16 ^^^ 0x61D8#16) ≠ .ok
    decide
  | [byte] =>
    change Status.ofWord (0#16 ^^^ 0x0061#16) ≠ .ok
    decide
  | first :: second :: rest =>
    simp only [List.length_cons] at short
    omega

/-- The pattern gives an encodable frame exactly when it stays inside the payload or turns
the status of an error response into another error. -/
theorem boundaryFrame_encodable_iff {frame : Frame} (valid : Encodable frame) :
    Encodable (boundaryFrame frame) ↔ 2 ≤ frame.payload.length ∨
      frame.opcode = .errorResponse ∧ (boundaryFrame frame).status ≠ .ok := by
  obtain ⟨version, opcode, flags⟩ := boundaryFrame_fields frame
  have size := boundaryFrame_payload_length frame
  have rule := opcodeRule_of_valid valid.semantics
  have encodable : OpcodeRule (boundaryFrame frame) → Encodable (boundaryFrame frame) := by
    intro changed
    refine ⟨version.trans valid.version, changed.supported, ?_,
      (hasValidSemantics_iff _).mpr changed⟩
    rw [size]
    exact valid.payload
  constructor
  · intro changed
    have errorIff := (opcodeRule_of_valid changed.semantics).error_iff
    rw [opcode] at errorIff
    by_cases long : 2 ≤ frame.payload.length
    · exact .inl long
    by_cases error : frame.opcode = .errorResponse
    · exact .inr ⟨error, errorIff.mp error⟩
    · have status : frame.status = .ok := by
        by_contra failure
        exact error (rule.error_iff.mpr failure)
      exact absurd (errorIff.mpr (boundaryFrame_status_short (by omega) status)) error
  · rintro (long | ⟨error, failure⟩)
    · have status := boundaryFrame_status_long long
      apply encodable
      cases rule with
      | readRequest op fl st pl =>
        exact .readRequest (opcode.trans op) (flags.trans fl) (status.trans st) (size.trans pl)
      | writeRequest op fl st pl =>
        exact .writeRequest (opcode.trans op) (flags.trans fl) (status.trans st) (size ▸ pl)
      | dataResponse op fl st =>
        exact .dataResponse (opcode.trans op) (flags.trans fl) (status.trans st)
      | writeAcknowledgement _ _ _ pl =>
        rw [pl] at long
        simp at long
      | errorResponse op fl st =>
        exact .errorResponse (opcode.trans op) (flags.trans fl) (by rwa [status])
    · apply encodable
      cases rule with
      | errorResponse op fl _ =>
        exact .errorResponse (opcode.trans op) (flags.trans fl) failure
      | _ op => rw [error] at op; cases op

/-- The pattern is accepted exactly when it gives an encodable frame. -/
theorem decode_boundaryPatch {frame : Frame} (valid : Encodable frame) :
    (decode (boundaryPatch (wireBytes frame))).frame ≠ none ↔ 2 ≤ frame.payload.length ∨
      frame.opcode = .errorResponse ∧ (boundaryFrame frame).status ≠ .ok := by
  rw [boundaryPatch_wireBytes, ← boundaryFrame_encodable_iff valid]
  constructor
  · intro accepted
    obtain ⟨found, decoded⟩ := Option.ne_none_iff_exists'.mp accepted
    obtain ⟨encodable, same⟩ := (decode_ok_iff _ _).mp decoded
    rwa [wireBytes_injective same]
  · intro encodable
    rw [decode_wireBytes encodable]
    nofun

/-- A burst of at most four bytes other than the pattern is detected, wherever it lies. -/
theorem burst_rejected {frame : Frame} {received : List Byte}
    (length : received.length = (wireBytes frame).length) (different : received ≠ wireBytes frame)
    {start : Nat}
    (window : ∀ i, i < start ∨ start + 4 ≤ i → received[i]? = (wireBytes frame)[i]?)
    (unpatched : received ≠ boundaryPatch (wireBytes frame)) :
    (decode received).frame = none ∧ (decode received).error ≠ .none := by
  have hsent := wireBytes_checksumHolds frame
  apply decode_rejects
  intro hreceived
  rcases Nat.lt_or_ge start ((wireBytes frame).length - 4) with low | trailer
  · rcases Nat.lt_or_ge ((wireBytes frame).length - 4) (start + 4) with high | message
    · rcases burst_across length hsent hreceived window low high with same | same
      · exact different same
      · exact unpatched same
    · exact different (burst_in_message length hsent hreceived window message)
  · exact different (burst_in_trailer length hsent hreceived window trailer)

/-- A change of an encoded frame within four consecutive bytes is detected, except for one
pattern: the last two bytes before the trailer and the first two bytes of the trailer change
by `61 D8 F4 EE`. That pattern is accepted exactly for the frames with at least two payload
bytes and for the error responses whose changed status is still an error; the frame found is
then the sent one with those two bytes changed. -/
theorem short_burst_detected (frame : Frame) (encoded : (encode frame).error = .none)
    (received : List Byte) (length : received.length = (encode frame).bytes.length)
    (different : received ≠ (encode frame).bytes) (start : Nat)
    (window : ∀ i, i < start ∨ start + 4 ≤ i → received[i]? = (encode frame).bytes[i]?) :
    (((decode received).frame = none ∧ (decode received).error ≠ .none) ↔
      ¬ (received = boundaryPatch (encode frame).bytes ∧
        (2 ≤ frame.payload.length ∨
          frame.opcode = .errorResponse ∧ (boundaryFrame frame).status ≠ .ok))) ∧
    (received = boundaryPatch (encode frame).bytes ∧
        (2 ≤ frame.payload.length ∨
          frame.opcode = .errorResponse ∧ (boundaryFrame frame).status ≠ .ok) →
      (decode received).error = .none ∧ (decode received).frame = some (boundaryFrame frame)) := by
  obtain ⟨valid, hbytes⟩ := (encode_ok_iff frame (encode frame).bytes).mp ⟨encoded, rfl⟩
  rw [hbytes] at length different window ⊢
  constructor
  · by_cases patched : received = boundaryPatch (wireBytes frame)
    · have accepted := decode_boundaryPatch valid
      rw [← patched] at accepted ⊢
      rw [← accepted]
      rcases decode_cases received with rejected | ⟨found, decoded, -⟩
      · simp [rejected]
      · simp [decoded]
    · exact ⟨fun _ h => patched h.1, fun _ => burst_rejected length different window patched⟩
  · rintro ⟨rfl, condition⟩
    have encodable := (boundaryFrame_encodable_iff valid).mpr condition
    rw [boundaryPatch_wireBytes, decode_wireBytes encodable]
    exact ⟨rfl, rfl⟩

/-- Four payload bytes of a write request are overwritten. -/
theorem short_burst_detected_write_request :
    let sent := (encode { opcode := .writeRequest, payload := [1, 2, 3, 4, 5] }).bytes
    let received := sent.take 18 ++ [9, 9, 9, 9] ++ sent.drop 22
    received ≠ sent ∧ (decode received).frame = none :=
  ⟨by decide +kernel, ((short_burst_detected
    { opcode := .writeRequest, payload := [1, 2, 3, 4, 5] } (by decide +kernel) _
    (by decide +kernel) (by decide +kernel) 18
    (agree_outside (by decide +kernel) (by decide +kernel))).1.mpr
      (fun h => absurd h.1 (by decide +kernel))).1⟩

/-- The excepted pattern on a write request with two payload bytes: four consecutive bytes
change, and the result is accepted as a different frame. -/
theorem boundary_burst_accepted :
    let sent := (encode { opcode := .writeRequest, payload := [0xAA, 0x55] }).bytes
    let received := sent.take 18 ++ [0xCB, 0x8D, 0xF4 ^^^ byteAt sent 20, 0xEE ^^^ byteAt sent 21] ++
      sent.drop 22
    (encode { opcode := .writeRequest, payload := [0xAA, 0x55] }).error = .none ∧
      received.length = sent.length ∧ received ≠ sent ∧
      (∀ i, i < 18 ∨ 18 + 4 ≤ i → received[i]? = sent[i]?) ∧
      (decode received).error = .none ∧
      (decode received).frame = some { opcode := .writeRequest, payload := [0xCB, 0x8D] } := by
  exact ⟨by decide +kernel, by decide +kernel, by decide +kernel,
    agree_outside (by decide +kernel) (by decide +kernel), by decide +kernel, by decide +kernel⟩

end Imlp
