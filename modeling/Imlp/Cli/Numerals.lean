import Mathlib.Data.List.TakeWhile
import Imlp.Cli
import Imlp.Misc.TextFields

/-!
# The numbers the command line accepts

`parse_u32` reads a decimal number, or a hexadecimal one behind `0x`, and nothing else. The
length test before the prefix test makes `0x` alone a decimal text, which then fails at the
`x`, and a `0X` is never a prefix.
-/

namespace Imlp
namespace Cli

/-- A nonempty text of digits. -/
def Digits (base : Nat) (text : List CChar) : Prop :=
  text ≠ [] ∧ ∀ char ∈ text, (digitValue base char).isSome = true

/-- The number that a text of digits stands for. -/
def numeral (base : Nat) (text : List CChar) : Nat :=
  TextFields.value base (fun char => (digitValue base char).getD 0) text

/-- `std::from_chars` on a text of digits. -/
theorem fromChars_digits {base : Nat} {text : List CChar} (digits : Digits base text) :
    fromChars text base =
      if numeral base text < 0x100000000 then
        { stop := text.length, value := some (BitVec.ofNat 32 (numeral base text)) }
      else { stop := text.length, error := .resultOutOfRange } := by
  have whole : text.takeWhile (fun char => (digitValue base char).isSome) = text :=
    List.takeWhile_eq_self_iff.mpr digits.2
  unfold fromChars
  simp only [whole, if_neg digits.1]
  rfl

/-- `std::from_chars` stops at the first character that is not a digit. -/
theorem fromChars_stop {base : Nat} {text : List CChar} (nonempty : text ≠ [])
    (other : ¬ Digits base text) : (fromChars text base).stop ≠ text.length := by
  have shorter : (text.takeWhile (fun char => (digitValue base char).isSome)).length ≠
      text.length := by
    intro same
    have whole := (List.takeWhile_prefix _).eq_of_length same
    exact other ⟨nonempty, List.takeWhile_eq_self_iff.mp whole⟩
  unfold fromChars
  dsimp only
  split
  · exact fun none => nonempty (List.length_eq_zero_iff.mp none.symm)
  · split
    · exact shorter
    · exact shorter

/-- `std::from_chars` takes a whole text exactly when it is a number that fits. -/
theorem fromChars_whole_iff {base : Nat} {text : List CChar} (nonempty : text ≠ [])
    (value : BitVec 32) :
    (if (fromChars text base).error = .none ∧ (fromChars text base).stop = text.length then
        (fromChars text base).value
      else none) = some value ↔ Digits base text ∧ numeral base text = value.toNat := by
  have bound := value.isLt
  by_cases digits : Digits base text
  · rw [fromChars_digits digits]
    by_cases fits : numeral base text < 0x100000000
    · simp only [if_pos fits, and_self, if_true, Option.some.injEq, digits, true_and]
      constructor
      · rintro rfl
        rw [BitVec.toNat_ofNat, Nat.mod_eq_of_lt fits]
      · intro same
        rw [same, BitVec.ofNat_toNat, BitVec.setWidth_eq]
    · rw [if_neg fits, if_neg (fun h => by cases h.1)]
      constructor
      · intro impossible
        cases impossible
      · rintro ⟨-, same⟩
        omega
  · rw [if_neg (fun h => fromChars_stop nonempty digits h.2)]
    constructor
    · intro impossible
      cases impossible
    · exact fun h => absurd h.1 digits

/-- The test for the prefix. -/
theorem hexPrefixed_iff (text : List CChar) :
    (text.length > 2 ∧ text.take 2 = chars "0x") ↔
      ∃ digits, text = chars "0x" ++ digits ∧ digits ≠ [] := by
  constructor
  · rintro ⟨long, front⟩
    refine ⟨text.drop 2, ?_, ?_⟩
    · rw [← front, List.take_append_drop]
    · rw [ne_eq, List.drop_eq_nil_iff]
      omega
  · rintro ⟨digits, rfl, nonempty⟩
    have size := List.length_pos_iff.mpr nonempty
    refine ⟨?_, rfl⟩
    rw [List.length_append]
    change 2 + digits.length > 2
    omega

/-- No decimal number starts with `0x`. -/
theorem not_digits_hexPrefixed (digits : List CChar) : ¬ Digits 10 (chars "0x" ++ digits) := by
  intro decimal
  have letter : (digitValue 10 (ascii 'x')).isSome = false := by decide
  have member : ascii 'x' ∈ chars "0x" ++ digits :=
    List.mem_append_left _ (List.mem_cons_of_mem _ List.mem_cons_self)
  rw [decimal.2 _ member] at letter
  cases letter

/-- The numbers the command line accepts: decimal, or hexadecimal behind `0x`, of any length
and with any number of leading zeros, as long as the value fits into 32 bits. -/
theorem parseU32_eq_some_iff (text : List CChar) (value : BitVec 32) :
    parseU32 text = some value ↔
      (Digits 10 text ∧ numeral 10 text = value.toNat) ∨
      (∃ digits, text = chars "0x" ++ digits ∧ Digits 16 digits ∧
        numeral 16 digits = value.toNat) := by
  unfold parseU32
  by_cases hexPrefixed : text.length > 2 ∧ text.take 2 = chars "0x"
  · obtain ⟨digits, rfl, nonempty⟩ := (hexPrefixed_iff text).mp hexPrefixed
    have rest : (chars "0x" ++ digits).drop 2 = digits := rfl
    simp only [if_pos hexPrefixed, rest, if_neg nonempty]
    rw [fromChars_whole_iff nonempty value]
    constructor
    · exact fun number => .inr ⟨digits, rfl, number⟩
    · rintro (⟨decimal, -⟩ | ⟨other, same, number⟩)
      · exact absurd decimal (not_digits_hexPrefixed digits)
      · rwa [List.append_cancel_left same]
  · simp only [if_neg hexPrefixed]
    have noPrefix : ¬ ∃ digits, text = chars "0x" ++ digits ∧ Digits 16 digits ∧
        numeral 16 digits = value.toNat := by
      rintro ⟨digits, same, number, -⟩
      exact hexPrefixed ((hexPrefixed_iff text).mpr ⟨digits, same, number.1⟩)
    by_cases empty : text = []
    · rw [if_pos empty]
      constructor
      · intro impossible
        cases impossible
      · rintro (⟨digits, -⟩ | number)
        · exact absurd empty digits.1
        · exact absurd number noPrefix
    · rw [if_neg empty, fromChars_whole_iff empty value]
      exact ⟨.inl, fun number => number.resolve_right noPrefix⟩

theorem digitValue_ascii {base : Nat} (known : base = 10 ∨ base = 16) {digit : Nat}
    (small : digit < base) : digitValue base (ascii digit.digitChar) = some digit := by
  have decimal : ∀ digit : Fin 10, digitValue 10 (ascii digit.val.digitChar) = some digit.val := by
    decide
  have hexadecimal : ∀ digit : Fin 16,
      digitValue 16 (ascii digit.val.digitChar) = some digit.val := by
    decide
  rcases known with rfl | rfl
  · exact decimal ⟨digit, small⟩
  · exact hexadecimal ⟨digit, small⟩

/-- A number in base ten or sixteen, with any number of leading zeros, is read back. -/
theorem numeral_toDigits {base : Nat} (known : base = 10 ∨ base = 16) (zeros number : Nat) :
    let text := List.replicate zeros (ascii '0') ++ (Nat.toDigits base number).map ascii
    Digits base text ∧ numeral base text = number := by
  intro text
  have large : 1 < base := by omega
  have zero : digitValue base (ascii '0') = some 0 :=
    digitValue_ascii known (show 0 < base by omega)
  refine ⟨⟨?_, ?_⟩, ?_⟩
  · intro empty
    have none := (List.append_eq_nil_iff.mp empty).2
    exact Nat.toDigits_ne_nil (List.map_eq_nil_iff.mp none)
  · intro char member
    rw [List.mem_append, List.mem_map] at member
    rcases member with leading | ⟨letter, member, rfl⟩
    · rw [List.eq_of_mem_replicate leading, zero]
      rfl
    · obtain ⟨digit, small, rfl⟩ := TextFields.mem_toDigits large member
      rw [digitValue_ascii known small]
      rfl
  · rw [numeral, TextFields.value_zeros_append base (by rw [zero]; rfl), TextFields.value_map]
    apply TextFields.value_toDigits large
    intro digit small
    rw [Function.comp_apply, digitValue_ascii known small]
    rfl

/-- `parse_u32` accepts exactly the decimal numbers, and the hexadecimal ones behind `0x`,
whose value fits into 32 bits, and returns that value. Every 32-bit value is read back from
either form, with any number of leading zeros. -/
theorem parse_u32_exact (text : List CChar) (value : BitVec 32) (zeros : Nat) :
    (parseU32 text = some value ↔
      (Digits 10 text ∧ numeral 10 text = value.toNat) ∨
      (∃ digits, text = chars "0x" ++ digits ∧ Digits 16 digits ∧
        numeral 16 digits = value.toNat)) ∧
    parseU32 (List.replicate zeros (ascii '0') ++ decimal value.toNat) = some value ∧
    parseU32 (chars "0x" ++ (List.replicate zeros (ascii '0') ++ hexadecimal value.toNat)) =
      some value := by
  refine ⟨parseU32_eq_some_iff text value, ?_, ?_⟩
  · exact (parseU32_eq_some_iff _ value).mpr (.inl (numeral_toDigits (.inl rfl) zeros value.toNat))
  · exact (parseU32_eq_some_iff _ value).mpr
      (.inr ⟨_, rfl, numeral_toDigits (.inr rfl) zeros value.toNat⟩)

end Cli

end Imlp
