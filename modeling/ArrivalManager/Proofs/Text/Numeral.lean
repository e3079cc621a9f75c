import ArrivalManager.Proofs.Result
import ArrivalManager.Proofs.Text.Integer
import ArrivalManager.Proofs.Text.Lines
import ArrivalManager.Text.Blank
import ArrivalManager.Text.Real

/-! What is read as a number is written in few characters, none of which ends a field or a line. -/

namespace ArrivalManager

/-- The characters of numbers: digits, signs, the point, and letters for exponents and names. -/
def isNumeral (char : Char) : Bool :=
  char.isAlphanum || char = '+' || char = '-' || char = '.'

/-- A text of at least one character, all of them those of numbers. -/
structure Numeral (text : List Char) : Prop where
  nonempty : text ≠ []
  chars : ∀ char ∈ text, isNumeral char

/-- A digit is a character of numbers. -/
theorem isNumeral_of_isDigit {char : Char} (digit : char.isDigit) : isNumeral char := by
  have alphanumeric : char.isAlphanum := (Bool.or_eq_true _ _).mpr (.inr digit)
  simp [isNumeral, alphanumeric]

/-- A letter is a character of numbers. -/
theorem isNumeral_of_isAlpha {char : Char} (letter : char.isAlpha) : isNumeral char := by
  have alphanumeric : char.isAlphanum := (Bool.or_eq_true _ _).mpr (.inl letter)
  simp [isNumeral, alphanumeric]

/-- What is a letter in lower case is a letter. -/
theorem isAlpha_of_toLower {char : Char} (letter : char.toLower.isAlpha) : char.isAlpha := by
  unfold Char.toLower at letter
  split at letter
  · -- Only letters in upper case are changed.
    rename_i between
    exact (Bool.or_eq_true _ _).mpr (.inl (decide_eq_true between))
  · exact letter

/-- Letters lie between the first one in upper case and the last one in lower case. -/
theorem isAlpha_bounds {char : Char} (letter : char.isAlpha) : 65 ≤ char.toNat ∧ char.toNat ≤ 122 := by
  -- The letters in upper case come before those in lower case.
  rcases (Bool.or_eq_true _ _).mp letter with upper | lower
  · have between : 'A'.val ≤ char.val ∧ char.val ≤ 'Z'.val := of_decide_eq_true upper
    have most := UInt32.le_iff_toNat_le.mp between.2
    exact ⟨UInt32.le_iff_toNat_le.mp between.1, Nat.le_trans most (by decide)⟩
  · obtain ⟨above, below⟩ := (Bool.and_eq_true _ _).mp lower
    have least := UInt32.le_iff_toNat_le.mp (of_decide_eq_true above)
    exact ⟨Nat.le_trans (by decide) least, UInt32.le_iff_toNat_le.mp (of_decide_eq_true below)⟩

/-- The characters of numbers lie between the plus sign and the last letter. -/
theorem isNumeral_bounds {char : Char} (numeral : isNumeral char) :
    43 ≤ char.toNat ∧ char.toNat ≤ 122 := by
  simp only [isNumeral, Bool.or_eq_true, decide_eq_true_eq] at numeral
  rcases numeral with ((alphanumeric | rfl) | rfl) | rfl
  · rcases (Bool.or_eq_true _ _).mp alphanumeric with letter | digit
    · have bounds := isAlpha_bounds letter
      omega
    · have bounds := Char.isDigit_iff_toNat.mp digit
      exact ⟨Nat.le_trans (by decide) bounds.1, Nat.le_trans bounds.2 (by decide)⟩
  all_goals decide

/-- No character of numbers is white space. -/
theorem isBlank_eq_false {char : Char} (numeral : isNumeral char) : isBlank char = false := by
  have bounds := isNumeral_bounds numeral
  -- Within these bounds there is no white space at all.
  unfold isBlank
  simp
  omega

variable {text : List Char}

/-- Characters of numbers behind another one make a number. -/
theorem Numeral.cons {char : Char} (first : isNumeral char) (others : ∀ char ∈ text, isNumeral char) :
    Numeral (char :: text) :=
  ⟨List.cons_ne_nil _ _, List.forall_mem_cons.mpr ⟨first, others⟩⟩

/-- What is read as digits is written in characters of numbers. -/
theorem readDigits_isNumeral {limit value result : Nat} {beyond : IntegerFault}
    (read : readDigits limit beyond value text = .ok result) : ∀ char ∈ text, isNumeral char :=
  fun char member => isNumeral_of_isDigit (readDigits_isDigit read char member)

/-- A signed integer is read only if its magnitude is. -/
theorem exists_magnitude {magnitude : Except IntegerFault Nat} {signed : Int → Int} {value : Int}
    (read : (do return ((← magnitude : Nat) : Int)).map signed = .ok value) :
    ∃ count, magnitude = .ok count := by
  obtain ⟨integer, parsed, -⟩ := map_eq_ok.mp read
  obtain ⟨count, counted, -⟩ := bind_eq_ok.mp parsed
  exact ⟨count, counted⟩

/-- What is read as a signed integer is written as a number. -/
theorem readSigned_numeral {bits : Nat} {value : Int} (read : readSigned bits text = .ok value) :
    Numeral text := by
  -- Behind the sign, or in all of the text if there is none, there are digits.
  unfold readSigned at read
  split at read
  · cases read
  · obtain ⟨count, counted⟩ := exists_magnitude read
    exact .cons (by decide) (readDigits_isNumeral (readMagnitude_eq_ok counted))
  · obtain ⟨count, counted⟩ := exists_magnitude read
    exact .cons (by decide) (readDigits_isNumeral (readMagnitude_eq_ok counted))
  · rename_i nonempty _ _
    obtain ⟨count, counted⟩ := exists_magnitude read
    exact ⟨nonempty, readDigits_isNumeral counted⟩

/-- A sign in front of characters of numbers is one itself. -/
theorem isNumeral_of_signed {negative : Bool} {magnitude : List Char}
    (sign : (match text with
      | '-' :: rest => (true, rest)
      | '+' :: rest => (false, rest)
      | rest => (false, rest)) = (negative, magnitude))
    (numeral : ∀ char ∈ magnitude, isNumeral char) : ∀ char ∈ text, isNumeral char := by
  -- In front of the magnitude there is one of the two signs, or nothing.
  split at sign
  · cases sign
    exact List.forall_mem_cons.mpr ⟨by decide, numeral⟩
  · cases sign
    exact List.forall_mem_cons.mpr ⟨by decide, numeral⟩
  · cases sign
    exact numeral

/-- An exponent is written in characters of numbers. -/
theorem readExponent?_isNumeral {exponent : Int} (read : readExponent? text = some exponent) :
    ∀ char ∈ text, isNumeral char := by
  unfold readExponent? at read
  split at read
  · simp
  · rename_i letter rest
    split at read
    rename_i negative digits sign
    split at read
    · -- Behind the letter there are digits, maybe with a sign in front.
      rename_i shape
      obtain ⟨mark, -, all⟩ := shape
      have numeral : isNumeral letter := by
        rcases mark with rfl | rfl <;> decide
      refine List.forall_mem_cons.mpr ⟨numeral, isNumeral_of_signed sign fun char member => ?_⟩
      exact isNumeral_of_isDigit (List.all_eq_true.mp all char member)
    · cases read

/-- The digits in front of a text are characters of numbers. -/
theorem isNumeral_of_takeWhile (others : ∀ char ∈ text.dropWhile Char.isDigit, isNumeral char) :
    ∀ char ∈ text, isNumeral char := by
  intro char member
  rw [← List.takeWhile_append_dropWhile (p := Char.isDigit) (l := text)] at member
  rcases List.mem_append.mp member with digit | other
  · exact isNumeral_of_isDigit (List.all_eq_true.mp List.all_takeWhile char digit)
  · exact others char other

/-- A number without sign is written in characters of numbers. -/
theorem readUnsignedReal?_isNumeral {value : Float} (read : readUnsignedReal? text = some value) :
    ∀ char ∈ text, isNumeral char := by
  unfold readUnsignedReal? at read
  split at read
  rename_i fraction rest parts
  dsimp only at read
  split at read
  · cases read
  · obtain ⟨exponent, parsed, -⟩ := Option.map_eq_some_iff.mp read
    have numeral := readExponent?_isNumeral parsed
    refine isNumeral_of_takeWhile ?_
    -- Behind the digits of the whole there may be a point with those of the fraction.
    split at parts
    · rename_i decimals point
      cases parts
      rw [point]
      exact List.forall_mem_cons.mpr ⟨by decide, isNumeral_of_takeWhile numeral⟩
    · cases parts
      exact numeral

/-- A name, in whatever case it is written, consists of letters. -/
theorem isNumeral_of_name {name : String} (letters : name.toList.all Char.isAlpha)
    (named : String.ofList (text.map Char.toLower) = name) : ∀ char ∈ text, isNumeral char := by
  intro char member
  refine isNumeral_of_isAlpha (isAlpha_of_toLower (List.all_eq_true.mp letters _ ?_))
  rw [← named, String.toList_ofList]
  exact List.mem_map_of_mem member

/-- The names of the special values are written in characters of numbers. -/
theorem namedReal?_isNumeral {value : Float} (read : namedReal? text = some value) :
    ∀ char ∈ text, isNumeral char := by
  unfold namedReal? at read
  dsimp only at read
  split at read
  · rename_i infinite
    rcases infinite with short | long
    · exact isNumeral_of_name (by decide) short
    · exact isNumeral_of_name (by decide) long
  · split at read
    · rename_i undefined
      exact isNumeral_of_name (by decide) undefined
    · cases read

/-- What is read as a real number is written as a number. -/
theorem readReal_numeral {value : Float} (read : readReal text = .ok value) : Numeral text := by
  unfold readReal at read
  split at read
  rename_i negative magnitude sign
  split at read
  · cases read
  · rename_i present
    refine ⟨by simpa using present, isNumeral_of_signed sign ?_⟩
    split at read
    · -- What is no decimal number is one of the names.
      rename_i found
      cases decimal : readUnsignedReal? magnitude with
      | some value => exact readUnsignedReal?_isNumeral decimal
      | none =>
        rw [decimal] at found
        exact namedReal?_isNumeral found
    · cases read

/-- Nothing parts a number, since there is no comma in it. -/
theorem Numeral.undivided (numeral : Numeral text) : Undivided text := by
  intro parted
  have comma : ',' ∈ text := parted.subset List.mem_cons_self
  exact absurd (numeral.chars ',' comma) (by decide)

end ArrivalManager
