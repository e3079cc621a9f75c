import ArrivalManager.Text.Utf8

/-! A text that is spelled in UTF-8 is read back from its bytes. -/

namespace ArrivalManager

/-- The bytes that spell one character. -/
def charBytes (char : Char) : List Nat := (String.utf8EncodeChar char).map (·.toNat)

/-- The bytes that spell a text. -/
def utf8Bytes (text : List Char) : List Nat := text.flatMap charBytes

/-- A code point is not one of the surrogates, and lies below the end of the last plane. -/
theorem toNat_bounds (char : Char) :
    char.toNat < 0xD800 ∨ 0xDFFF < char.toNat ∧ char.toNat < 0x110000 := char.valid

/-- A byte that begins two bytes, and a second one, spell a character of eleven bits. -/
theorem decodeFirst_two {index first second : Nat} {rest : List Nat} (least : 0xC2 ≤ first)
    (most : first ≤ 0xDF) (continues : 0x80 ≤ second ∧ second ≤ 0xBF) :
    decodeFirst index first (second :: rest)
      = .ok (Char.ofNat (first % 0x20 * 0x40 + continuationBits second), 2) := by
  have length : sequenceLength? first = some 2 := by
    simp [sequenceLength?, show ¬ first < 0x80 by omega, least, most]
  have admitted : admitsSecond first second = true := by
    -- None of the narrower ranges belongs to a byte that begins two bytes.
    simp [admitsSecond, isContinuation, show first ≠ 0xE0 by omega, show first ≠ 0xED by omega,
      show first ≠ 0xF0 by omega, show first ≠ 0xF4 by omega, continues]
  simp [decodeFirst, length, admitted]

/-- A byte that begins three bytes, and two more, spell a character of sixteen bits. -/
theorem decodeFirst_three {index first second third : Nat} {rest : List Nat} (least : 0xE0 ≤ first)
    (most : first ≤ 0xEF) (admitted : admitsSecond first second = true)
    (continues : 0x80 ≤ third ∧ third ≤ 0xBF) :
    decodeFirst index first (second :: third :: rest)
      = .ok (Char.ofNat (first % 0x10 * 0x1000
        + (continuationBits second * 0x40 + continuationBits third)), 3) := by
  have length : sequenceLength? first = some 3 := by
    simp [sequenceLength?, show ¬ first < 0x80 by omega, show ¬ first ≤ 0xDF by omega, least, most]
  have last : isContinuation third = true := by simp [isContinuation, continues]
  simp [decodeFirst, length, admitted, last]

/-- A byte that begins four bytes, and three more, spell a character beyond the first plane. -/
theorem decodeFirst_four {index first second third fourth : Nat} {rest : List Nat}
    (least : 0xF0 ≤ first) (most : first ≤ 0xF4) (admitted : admitsSecond first second = true)
    (continues : 0x80 ≤ third ∧ third ≤ 0xBF) (ends : 0x80 ≤ fourth ∧ fourth ≤ 0xBF) :
    decodeFirst index first (second :: third :: fourth :: rest)
      = .ok (Char.ofNat (first % 0x08 * 0x40000
        + (continuationBits second * 0x40 + continuationBits third) * 0x40
        + continuationBits fourth), 4) := by
  have length : sequenceLength? first = some 4 := by
    simp [sequenceLength?, show ¬ first < 0x80 by omega, show ¬ first ≤ 0xDF by omega,
      show ¬ first ≤ 0xEF by omega, least, most]
  have next : isContinuation third = true := by simp [isContinuation, continues]
  have last : isContinuation fourth = true := by simp [isContinuation, ends]
  simp [decodeFirst, length, admitted, next, last]

/-- In front of any other bytes, those of a character are read as that character. -/
theorem decodeFirst_charBytes (index : Nat) (char : Char) (rest : List Nat) :
    ∃ first others, charBytes char = first :: others
      ∧ decodeFirst index first (others ++ rest) = .ok (char, others.length + 1) := by
  have bounds := toNat_bounds char
  -- The number of bytes depends on the size of the code point.
  by_cases one : char.toNat ≤ 0x7F
  · refine ⟨char.toNat, [], ?_, ?_⟩
    · simp [charBytes, String.utf8EncodeChar, one]
      omega
    · simp [decodeFirst, sequenceLength?, show char.toNat < 0x80 by omega]
  by_cases two : char.toNat ≤ 0x7FF
  · refine ⟨char.toNat / 0x40 + 0xC0, [char.toNat % 0x40 + 0x80], ?_, ?_⟩
    · simp [charBytes, String.utf8EncodeChar, one, two]
      omega
    · have whole : (char.toNat / 0x40 + 0xC0) % 0x20 * 0x40
          + continuationBits (char.toNat % 0x40 + 0x80) = char.toNat := by
        unfold continuationBits
        omega
      rw [List.singleton_append, decodeFirst_two (by omega) (by omega) (by omega), whole,
        Char.ofNat_toNat]
      rfl
  by_cases three : char.toNat ≤ 0xFFFF
  · refine ⟨char.toNat / 0x1000 + 0xE0, [char.toNat / 0x40 % 0x40 + 0x80, char.toNat % 0x40 + 0x80],
      ?_, ?_⟩
    · simp [charBytes, String.utf8EncodeChar, one, two, three]
      omega
    · have whole : (char.toNat / 0x1000 + 0xE0) % 0x10 * 0x1000
          + (continuationBits (char.toNat / 0x40 % 0x40 + 0x80) * 0x40
            + continuationBits (char.toNat % 0x40 + 0x80)) = char.toNat := by
        unfold continuationBits
        omega
      -- Shorter spellings and surrogates are left out, and the character is neither.
      have admitted : admitsSecond (char.toNat / 0x1000 + 0xE0) (char.toNat / 0x40 % 0x40 + 0x80)
          = true := by
        unfold admitsSecond isContinuation
        grind
      rw [List.cons_append, List.singleton_append,
        decodeFirst_three (by omega) (by omega) admitted (by omega), whole, Char.ofNat_toNat]
      rfl
  · refine ⟨char.toNat / 0x40000 + 0xF0, [char.toNat / 0x1000 % 0x40 + 0x80,
      char.toNat / 0x40 % 0x40 + 0x80, char.toNat % 0x40 + 0x80], ?_, ?_⟩
    · simp [charBytes, String.utf8EncodeChar, one, two, three]
      omega
    · have whole : (char.toNat / 0x40000 + 0xF0) % 0x08 * 0x40000
          + (continuationBits (char.toNat / 0x1000 % 0x40 + 0x80) * 0x40
            + continuationBits (char.toNat / 0x40 % 0x40 + 0x80)) * 0x40
          + continuationBits (char.toNat % 0x40 + 0x80) = char.toNat := by
        unfold continuationBits
        omega
      -- Shorter spellings and what lies above the last plane are left out.
      have admitted : admitsSecond (char.toNat / 0x40000 + 0xF0) (char.toNat / 0x1000 % 0x40 + 0x80)
          = true := by
        unfold admitsSecond isContinuation
        grind
      rw [List.cons_append, List.cons_append, List.singleton_append,
        decodeFirst_four (by omega) (by omega) admitted (by omega) (by omega), whole,
        Char.ofNat_toNat]
      rfl

/-- Behind what is already decoded, the bytes of a text are decoded to that text. -/
theorem decodeFrom_utf8Bytes (text decoded : List Char) (index : Nat) :
    decodeFrom index decoded (utf8Bytes text) = .ok (decoded.reverse ++ text) := by
  -- The induction takes one character after the other off the front of the bytes.
  induction text generalizing decoded index with
  | nil => simp [utf8Bytes, decodeFrom]
  | cons char text ih =>
    obtain ⟨first, others, spelled, found⟩ := decodeFirst_charBytes index char (utf8Bytes text)
    have bytes : utf8Bytes (char :: text) = first :: (others ++ utf8Bytes text) := by
      rw [utf8Bytes, List.flatMap_cons, spelled, List.cons_append]
      rfl
    rw [bytes, decodeFrom, found]
    simp [ih]

/-- Decoding the bytes of a text gives the text. -/
theorem decodeUtf8_utf8Bytes (text : List Char) : decodeUtf8 (utf8Bytes text) = .ok text := by
  rw [decodeUtf8, decodeFrom_utf8Bytes]
  rfl

end ArrivalManager
