import ArrivalManager.Text.Integer

/-! The range of the integers that are read, and the characters that they are written with. -/

namespace ArrivalManager

variable {limit value result bits : Nat} {beyond : IntegerFault} {text : List Char}

/-- Digits that are read from a value within the limit lead to a value within the limit. -/
theorem readDigits_le (within : value ≤ limit) (read : readDigits limit beyond value text = .ok result) :
    result ≤ limit := by
  -- Each digit is read from the value that those before it lead to.
  induction text generalizing value with
  | nil =>
    cases read
    exact within
  | cons digit rest ih =>
    simp only [readDigits] at read
    split at read
    · split at read
      · rename_i next
        exact ih next read
      · cases read
    · cases read

/-- What is read as digits consists of digits. -/
theorem readDigits_isDigit (read : readDigits limit beyond value text = .ok result) :
    ∀ char ∈ text, char.isDigit := by
  -- A character that is no digit ends the reading.
  induction text generalizing value with
  | nil => simp
  | cons digit rest ih =>
    simp only [readDigits] at read
    split at read
    · rename_i first
      split at read
      · exact List.forall_mem_cons.mpr ⟨first, ih read⟩
      · cases read
    · cases read

/-- A magnitude is that of the digits. -/
theorem readMagnitude_eq_ok (read : readMagnitude limit beyond text = .ok result) :
    readDigits limit beyond 0 text = .ok result := by
  unfold readMagnitude at read
  split at read
  · cases read
  · exact read

/-- An integer that is not negative is read with so many bits only if it fits them. -/
theorem readUnsigned_le (read : readUnsigned bits text = .ok result) : result ≤ 1 <<< bits - 1 := by
  -- With a sign or without one, the digits are read from zero on.
  unfold readUnsigned at read
  split at read
  · cases read
  · exact readDigits_le (Nat.zero_le _) (readMagnitude_eq_ok read)
  · exact readDigits_le (Nat.zero_le _) read

end ArrivalManager
