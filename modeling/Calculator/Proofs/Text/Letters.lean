import Calculator.Text
import Calculator.Text.Alphanumeric

namespace Calculator

/-- The tables of letters and of white space have no character in common. -/
theorem isBlank_of_isAlphanumeric {c : Char} (letter : isAlphanumeric c = true) : isBlank c = false := by
  have apart : ∀ a ∈ alphanumericRanges, ∀ b ∈ blankRanges, a.2 < b.1 ∨ b.2 < a.1 := by decide +kernel
  obtain ⟨a, letters, inLetters⟩ := List.any_eq_true.mp letter
  rw [← Bool.not_eq_true]
  intro blank
  obtain ⟨b, blanks, inBlanks⟩ := List.any_eq_true.mp blank
  have order := apart a letters b blanks
  have here : a.1 ≤ c.toNat ∧ c.toNat ≤ a.2 := by simpa using inLetters
  have there : b.1 ≤ c.toNat ∧ c.toNat ≤ b.2 := by simpa using inBlanks
  omega

theorem isUpper_iff {c : Char} : c.isUpper = true ↔ 65 ≤ c.toNat ∧ c.toNat ≤ 90 := decide_eq_true_iff

theorem isLower_iff {c : Char} : c.isLower = true ↔ 97 ≤ c.toNat ∧ c.toNat ≤ 122 := by
  change (decide (97 ≤ c.val) && decide (c.val ≤ 122)) = true ↔ _
  rw [Bool.and_eq_true, decide_eq_true_iff, decide_eq_true_iff]
  rfl

theorem isAlpha_iff {c : Char} :
    c.isAlpha = true ↔ 65 ≤ c.toNat ∧ c.toNat ≤ 90 ∨ 97 ≤ c.toNat ∧ c.toNat ≤ 122 := by
  change (c.isUpper || c.isLower) = true ↔ _
  rw [Bool.or_eq_true, isUpper_iff, isLower_iff]

theorem isAlphanum_of_isDigit {c : Char} (digit : c.isDigit = true) : c.isAlphanum = true :=
  Bool.or_eq_true_iff.mpr (Or.inr digit)

theorem isAlphanum_of_isAlpha {c : Char} (letter : c.isAlpha = true) : c.isAlphanum = true :=
  Bool.or_eq_true_iff.mpr (Or.inl letter)

/-- The letters and digits of ASCII are letters and digits of Unicode. -/
theorem isAlphanumeric_of_isAlphanum {c : Char} (letter : c.isAlphanum = true) : isAlphanumeric c = true := by
  have inRange (range : Nat × Nat) (listed : range ∈ alphanumericRanges)
      (bounds : range.1 ≤ c.toNat ∧ c.toNat ≤ range.2) : isAlphanumeric c = true :=
    List.any_eq_true.mpr ⟨range, listed, decide_eq_true bounds⟩
  rcases Bool.or_eq_true_iff.mp letter with letter | digit
  · rcases isAlpha_iff.mp letter with upper | lower
    · exact inRange (0x41, 0x5A) (.tail _ (.head _)) upper
    · exact inRange (0x61, 0x7A) (.tail _ (.tail _ (.head _))) lower
  · exact inRange (0x30, 0x39) (.head _) (Char.isDigit_iff_toNat.mp digit)

/-- No letter and no digit is blank. -/
theorem isBlank_of_isAlphanum {c : Char} (letter : c.isAlphanum = true) : isBlank c = false :=
  isBlank_of_isAlphanumeric (isAlphanumeric_of_isAlphanum letter)

theorem isBlank_of_isDigit {c : Char} (digit : c.isDigit = true) : isBlank c = false :=
  isBlank_of_isAlphanum (isAlphanum_of_isDigit digit)

/-- A letter is no digit. -/
theorem isDigit_of_isAlpha {c : Char} (letter : c.isAlpha = true) : c.isDigit = false := by
  rw [← Bool.not_eq_true, Char.isDigit_iff_toNat]
  change ¬(48 ≤ c.toNat ∧ c.toNat ≤ 57)
  have bounds := isAlpha_iff.mp letter
  omega

end Calculator
