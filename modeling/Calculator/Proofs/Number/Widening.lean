import Calculator.Proofs.Number.Order

namespace Calculator

namespace Format

variable {f g : Format} {code : Nat}

/-- One format has all the finite numbers of another. -/
structure Inside (f g : Format) : Prop where
  fraction : f.fractionBits ≤ g.fractionBits
  places : f.places ≤ g.places
  exponent : 2 ^ f.exponentBits + (g.places - f.places) + 2 < 2 ^ g.exponentBits

theorem single_inside_double : single.Inside double := ⟨by decide, by decide, by decide⟩

/-- The steps of a finite magnitude are no more than a full fraction, moved by less than the exponents allow. -/
theorem exists_steps_eq (finite : code < f.infinityCode) :
    ∃ m shift, f.steps code = m * 2 ^ shift ∧ m < 2 ^ (f.fractionBits + 1) ∧ shift ≤ 2 ^ f.exponentBits := by
  have fraction := Nat.two_pow_pos f.fractionBits
  by_cases low : code < 2 ^ f.fractionBits
  · refine ⟨code, 0, ?_, ?_, Nat.zero_le _⟩
    · rw [steps, if_pos low, Nat.pow_zero, Nat.mul_one]
    · rw [Nat.pow_succ]
      omega
  · have rest : code % 2 ^ f.fractionBits < 2 ^ f.fractionBits := Nat.mod_lt code fraction
    have run : code / 2 ^ f.fractionBits < 2 ^ f.exponentBits - 1 := (Nat.div_lt_iff_lt_mul fraction).mpr finite
    refine ⟨2 ^ f.fractionBits + code % 2 ^ f.fractionBits, code / 2 ^ f.fractionBits - 1, if_neg low, ?_, ?_⟩
    · rw [Nat.pow_succ]
      omega
    · exact (Nat.sub_le _ _).trans (run.le.trans (Nat.sub_le _ _))

theorem Inside.holds (inside : f.Inside g) (finite : code < f.infinityCode) :
    g.Holds (f.steps code * 2 ^ (g.places - f.places)) := by
  obtain ⟨m, shift, steps, short, moved⟩ := exists_steps_eq finite
  have fits : m < 2 ^ (g.fractionBits + 1) :=
    Nat.lt_of_lt_of_le short (Nat.pow_le_pow_right (by decide) (Nat.succ_le_succ inside.fraction))
  have room := inside.exponent
  rw [steps, Nat.mul_assoc, ← Nat.pow_add]
  exact holds_mul_two_pow fits (by omega)

end Format

namespace Number

variable {f g : Format} {x : Number f}

theorem not_isUndefined_toFormat (defined : ¬x.IsUndefined) : ¬(x.toFormat g).IsUndefined := by
  rw [toFormat, if_neg defined]
  split
  · exact Nat.lt_irrefl _
  · exact not_isUndefined_ofQuotient _ _ _

/-- A finite number has the same value in every format that has room for it. -/
theorem toFormat_of_isFinite (inside : f.Inside g) (finite : x.IsFinite) :
    (x.toFormat g).IsFinite ∧ (x.toFormat g).toRat = x.toRat := by
  have scale : f.steps x.code * 2 ^ g.places =
      f.steps x.code * 2 ^ (g.places - f.places) * 2 ^ f.places := by
    rw [Nat.mul_assoc, ← Nat.pow_add, Nat.sub_add_cancel inside.places]
  obtain ⟨small, steps⟩ := (inside.holds finite).nearest (Nat.two_pow_pos f.places)
  rw [← scale] at small steps
  have number : x.toFormat g = ofQuotient x.negative (f.steps x.code * 2 ^ g.places) (2 ^ f.places) := by
    rw [toFormat, if_neg finite.not_isUndefined, if_neg finite.not_isInfinite]
  have moved : (ofQuotient x.negative (f.steps x.code * 2 ^ g.places) (2 ^ f.places) : Number g).signedSteps =
      x.signedSteps * (2 ^ (g.places - f.places) : Nat) := by
    rw [signedSteps, signedSteps, ofQuotient, steps]
    split_ifs <;> simp
  have places : ((2 ^ g.places : Nat) : ℚ) = (2 ^ (g.places - f.places) : Nat) * (2 ^ f.places : Nat) := by
    rw [← Nat.cast_mul, ← Nat.pow_add, Nat.sub_add_cancel inside.places]
  refine ⟨number ▸ small, ?_⟩
  rw [number, toRat, toRat, moved, places, Int.cast_mul, Int.cast_natCast, mul_comm,
    mul_div_mul_left _ _ (Nat.cast_ne_zero.mpr (Nat.two_pow_pos _).ne')]

/-- A number is worth the same in a wider format. -/
theorem worth_toFormat (inside : f.Inside g) (defined : ¬x.IsUndefined) : (x.toFormat g).worth = x.worth := by
  rcases isFinite_or_isInfinite defined with finite | infinite
  · obtain ⟨small, value⟩ := toFormat_of_isFinite inside finite
    rw [worth_of_isFinite small, worth_of_isFinite finite, value]
  · have number : x.toFormat g = infinity x.negative := by
      rw [toFormat, if_neg defined, if_pos infinite]
    rw [number, worth_of_isInfinite infinite]
    exact worth_of_isInfinite rfl

end Number

end Calculator
