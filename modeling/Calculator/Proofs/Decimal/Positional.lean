import Calculator.Number.Rounding
import Calculator.Proofs.Decimal.Forms

namespace Calculator

/-- A text that is read as the magnitude of a code. It starts with a digit, so a sign may stand before it, and there
is no space in it. -/
structure Format.Spells (f : Format) (t : Text) (code : Nat) : Prop where
  head : ∃ c rest, t = c :: rest ∧ c.isDigit = true
  space : ' ' ∉ t
  read : ∃ d, Numeral.decimal? t = some d ∧ d.code f = code

namespace Decimal

/-- How many places a decimal has after the point. -/
def placeCount (d : Decimal) : Nat := (-d.exponent).toNat

/-- All the places after the point, down to the last zero. -/
def allPlaces (d : Decimal) : Text :=
  (Nat.toDigits 10 (d.numerator % d.denominator)).leftpad d.placeCount '0'

theorem denominator_eq (d : Decimal) : d.denominator = 10 ^ d.placeCount := rfl

theorem placeDigits_eq (d : Decimal) : d.placeDigits = dropTrailingZeros d.allPlaces := rfl

theorem wholeDigits_whole (d : Decimal) : Whole d.wholeDigits := toDigits_whole _

theorem allPlaces_digits (d : Decimal) : Digits d.allPlaces := by
  intro c member
  rcases List.mem_append.mp member with zero | digit
  · rw [List.eq_of_mem_replicate zero]
    rfl
  · exact toDigits_digits _ c digit

theorem placeDigits_digits (d : Decimal) : Digits d.placeDigits := by
  obtain ⟨n, split⟩ := dropTrailingZeros_append_zeros d.allPlaces
  have digits := d.allPlaces_digits
  rw [← split] at digits
  exact digits.of_append_left

/-- Zeros in front fill the places up. -/
theorem allPlaces_length {d : Decimal} (placed : d.placeCount ≠ 0) : d.allPlaces.length = d.placeCount := by
  have fits : (Nat.toDigits 10 (d.numerator % d.denominator)).length ≤ d.placeCount := by
    rw [Nat.length_toDigits_le_iff (by decide) (Nat.pos_of_ne_zero placed)]
    exact Nat.mod_lt _ (Nat.pow_pos (by decide))
  rw [allPlaces, List.length_leftpad, Nat.max_eq_left fits]

/-- All places together are the remainder. -/
theorem allPlaces_value (d : Decimal) : Nat.ofDigitChars 10 d.allPlaces 0 = d.numerator % d.denominator := by
  rw [allPlaces, List.leftpad, Nat.ofDigitChars_append, Nat.ofDigitChars_replicate_zero, Nat.mul_zero,
    Nat.ofDigitChars_ten_toDigits]

/-- A decimal without places is a whole number. -/
theorem placeDigits_of_placeCount_eq_zero {d : Decimal} (whole : d.placeCount = 0) :
    d.denominator = 1 ∧ d.placeDigits = [] := by
  have one : d.denominator = 1 := by rw [denominator_eq, whole, Nat.pow_zero]
  refine ⟨one, ?_⟩
  rw [placeDigits_eq, allPlaces, whole, one, Nat.mod_one, Nat.toDigits_zero]
  rfl

/-- The places after the point hold the whole remainder; what is missing at their end are zeros. -/
theorem placeDigits_value (d : Decimal) :
    d.placeDigits.length ≤ d.placeCount ∧
      Nat.ofDigitChars 10 d.placeDigits 0 * 10 ^ (d.placeCount - d.placeDigits.length) =
        d.numerator % d.denominator := by
  by_cases whole : d.placeCount = 0
  · obtain ⟨one, empty⟩ := placeDigits_of_placeCount_eq_zero whole
    simp [empty, one, Nat.mod_one]
  · obtain ⟨n, split⟩ := dropTrailingZeros_append_zeros d.allPlaces
    rw [← placeDigits_eq] at split
    have length := allPlaces_length whole
    rw [← split, List.length_append, List.length_replicate] at length
    have value := d.allPlaces_value
    rw [← split, Nat.ofDigitChars_append, Nat.ofDigitChars_replicate_zero, Nat.mul_comm] at value
    refine ⟨by omega, ?_⟩
    rw [show d.placeCount - d.placeDigits.length = n by omega]
    exact value

/-- What the positional form of a decimal is read as. -/
def reread (d : Decimal) : Decimal :=
  ⟨Nat.ofDigitChars 10 (d.wholeDigits ++ d.placeDigits) 0, -d.placeDigits.length⟩

/-- The positional form is a numeral. -/
theorem decimal?_positional (d : Decimal) : Numeral.decimal? d.positional = some d.reread := by
  have whole := d.wholeDigits_whole
  unfold positional reread
  split
  · rename_i noPlaces
    rw [Numeral.decimal?_whole whole.all_digits whole.ne_nil, noPlaces]
    simp
  · exact Numeral.decimal?_places whole.all_digits d.placeDigits_digits (Or.inl whole.ne_nil)

/-- Reading the positional form back gives the same magnitude, though maybe with another exponent. -/
theorem code_reread (d : Decimal) (f : Format) : d.reread.code f = d.code f := by
  obtain ⟨fits, remainder⟩ := d.placeDigits_value
  have missing : 10 ^ d.placeDigits.length * 10 ^ (d.placeCount - d.placeDigits.length) = d.denominator := by
    rw [← Nat.pow_add, Nat.add_sub_cancel' fits, denominator_eq]
  have coefficient : d.reread.coefficient * 10 ^ (d.placeCount - d.placeDigits.length) = d.numerator := by
    calc d.reread.coefficient * 10 ^ (d.placeCount - d.placeDigits.length)
      _ = (10 ^ d.placeDigits.length * (d.numerator / d.denominator) + Nat.ofDigitChars 10 d.placeDigits 0) *
            10 ^ (d.placeCount - d.placeDigits.length) := by
          rw [reread, Nat.ofDigitChars_append, Nat.ofDigitChars_eq_ofDigitChars_zero, wholeDigits,
            Nat.ofDigitChars_ten_toDigits]
      _ = d.denominator * (d.numerator / d.denominator) + d.numerator % d.denominator := by
          rw [Nat.add_mul, remainder, Nat.mul_right_comm, missing]
      _ = d.numerator := Nat.div_add_mod _ _
  have numerator : d.reread.numerator = d.reread.coefficient := by simp [Decimal.numerator, reread]
  have denominator : d.reread.denominator = 10 ^ d.placeDigits.length := by simp [Decimal.denominator, reread]
  rw [code, numerator, denominator,
    ← Format.nearest_mul_right _ _ (Nat.pow_pos (by decide) : 0 < 10 ^ (d.placeCount - d.placeDigits.length)),
    missing, Nat.mul_right_comm, coefficient, code]

/-- The positional form has no superfluous zero on either side. -/
theorem positional_plain (d : Decimal) : Plain d.positional := by
  have whole := d.wholeDigits_whole
  unfold positional
  split
  · exact .whole whole
  · rename_i placed
    rcases dropTrailingZeros_last d.allPlaces with noPlaces | ⟨p, c, split, nonzero⟩
    · exact absurd noPlaces placed
    · rw [← placeDigits_eq] at split
      have digits := d.placeDigits_digits
      rw [split] at digits ⊢
      exact .places whole digits.of_append_left (digits c (by simp)) nonzero

theorem positional_spells (f : Format) (d : Decimal) : f.Spells d.positional (d.code f) where
  head := d.positional_plain.begun.exists_head
  space := (Partial.begun d.positional_plain.begun).not_mem rfl (by decide)
  read := ⟨d.reread, d.decimal?_positional, d.code_reread f⟩

end Decimal

end Calculator
