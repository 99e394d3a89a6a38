import Calculator.Proofs.Decimal.Scientific
import Calculator.Proofs.Number.Order
import Calculator.Proofs.Number.Shown

namespace Calculator

/-- The exponents of a format are small enough to be read in full. -/
def Format.Modest (f : Format) : Prop := 2 ^ f.exponentBits + f.fractionBits ≤ 2 ^ (16 : Nat)

/-- The exponent of a finite number other than zero then is too. -/
theorem Format.Modest.leading {f : Format} (modest : f.Modest) {d : Decimal} (finite : d.code f < f.infinityCode)
    (nonzero : d.code f ≠ 0) : d.leading.natAbs ≤ 2 ^ (16 : Nat) := by
  obtain ⟨above, below⟩ := Decimal.leading_bounds finite nonzero
  have half : 2 ^ (f.exponentBits - 1) ≤ 2 ^ f.exponentBits := Nat.pow_le_pow_right (by decide) (Nat.sub_le _ _)
  have positive := Nat.two_pow_pos f.exponentBits
  unfold Format.places at below
  unfold Modest at modest
  omega

theorem Format.double_modest : Format.double.Modest := by
  unfold Modest
  decide

namespace Number

variable {f : Format} {x : Number f}

theorem LogsExponent.code_ne_zero (exponent : x.LogsExponent) : x.code ≠ 0 := by
  rcases exponent with large | small
  · intro zero
    rw [zero, Format.steps_zero] at large
    exact Nat.mul_ne_zero (by decide) (Nat.two_pow_pos _).ne' (Nat.le_zero.mp large)
  · exact small.1

/-- A finite number is logged as its sign and one of the spellings of its magnitude. -/
theorem exists_logText (modest : f.Modest) (finite : x.IsFinite) :
    ∃ t, x.logText = signed x.negative t ∧ f.Spells t x.code := by
  have code : (f.shortest x.code).code f = x.code := Format.code_shortest finite
  rw [logText, if_neg finite.not_isUndefined, if_neg finite.not_isInfinite]
  refine ⟨_, rfl, ?_⟩
  split_ifs with exponent
  · have small : (f.shortest x.code).leading.natAbs ≤ 2 ^ (16 : Nat) :=
      modest.leading (code.trans_lt finite) (code.trans_ne exponent.code_ne_zero)
    have spells := Decimal.scientific_spells f small
    rwa [code] at spells
  · have spells := (f.shortest x.code).pointed_spells f
    rwa [code] at spells

theorem logText_of_isInfinite (infinite : x.IsInfinite) : x.logText = signed x.negative "inf".toList := by
  have defined : ¬x.IsUndefined := fun undefined => Nat.ne_of_gt undefined infinite
  rw [logText, if_neg defined, if_pos infinite]

/-- What the log tells of a number reads back as that number, its sign included. -/
theorem read?_logText (modest : f.Modest) (defined : ¬x.IsUndefined) : read? f x.logText = some x := by
  rcases isFinite_or_isInfinite defined with finite | infinite
  · obtain ⟨t, logged, spells⟩ := exists_logText modest finite
    rw [logged, read?_signed spells]
  · have number : x = infinity x.negative := by
      ext
      · rfl
      · exact infinite
    have read (negative : Bool) : read? f (signed negative "inf".toList) = some (infinity negative) := by
      cases negative <;> rfl
    rw [logText_of_isInfinite infinite, read, ← number]

/-- There is no space in it. -/
theorem space_not_mem_logText (modest : f.Modest) (defined : ¬x.IsUndefined) : ' ' ∉ x.logText := by
  have spaceless {t : Text} (negative : Bool) (space : ' ' ∉ t) : ' ' ∉ signed negative t := by
    cases negative <;> simp [signed, space]
  rcases isFinite_or_isInfinite defined with finite | infinite
  · obtain ⟨t, logged, spells⟩ := exists_logText modest finite
    rw [logged]
    exact spaceless _ spells.space
  · rw [logText_of_isInfinite infinite]
    exact spaceless _ (by decide)

end Number

end Calculator
