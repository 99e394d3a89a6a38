import Calculator.Number

namespace Calculator

theorem roundQuotient_mul_self (n : Nat) {d : Nat} (positive : 0 < d) : roundQuotient (n * d) d = n := by
  simp only [roundQuotient, Nat.mul_mod_left, Nat.mul_zero, if_pos positive, Nat.mul_div_cancel n positive]

/-- Rounding looks at the quotient alone, not at the numbers it is written with. -/
theorem roundQuotient_mul_right (n d : Nat) {k : Nat} (positive : 0 < k) :
    roundQuotient (n * k) (d * k) = roundQuotient n d := by
  have quotient : n * k / (d * k) = n / d := Nat.mul_div_mul_right n d positive
  have remainder : 2 * (n * k % (d * k)) = 2 * (n % d) * k := by
    rw [Nat.mul_mod_mul_right, Nat.mul_assoc]
  simp only [roundQuotient, quotient, remainder, Nat.mul_lt_mul_right positive]

/-- A full fraction and a shift show in the binary logarithm of their product. -/
theorem log2_mul_two_pow {m bits shift : Nat} (low : 2 ^ bits ≤ m) (high : m < 2 ^ (bits + 1)) :
    (m * 2 ^ shift).log2 = bits + shift := by
  have positive : 0 < m * 2 ^ shift :=
    Nat.mul_pos (Nat.lt_of_lt_of_le (Nat.two_pow_pos bits) low) (Nat.two_pow_pos shift)
  refine (Nat.log2_eq_iff (Nat.ne_of_gt positive)).mpr ⟨?_, ?_⟩
  · rw [Nat.pow_add]
    exact Nat.mul_le_mul_right _ low
  · rw [show bits + shift + 1 = bits + 1 + shift by omega, Nat.pow_add]
    exact Nat.mul_lt_mul_of_pos_right high (Nat.two_pow_pos shift)

namespace Format

variable {f : Format}

/-- Up to the end of the first full fraction a code counts steps itself. -/
theorem steps_of_lt {code : Nat} (low : code < 2 ^ (f.fractionBits + 1)) : f.steps code = code := by
  unfold steps
  split
  · rfl
  · rename_i full
    rw [Nat.pow_succ] at low
    have run : code / 2 ^ f.fractionBits = 1 := by
      apply Nat.div_eq_of_lt_le <;> omega
    have split := Nat.div_add_mod code (2 ^ f.fractionBits)
    rw [run, Nat.mul_one] at split
    simp only [run, Nat.sub_self, Nat.pow_zero, Nat.mul_one, split]

theorem nearest_mul_right (n d : Nat) {k : Nat} (positive : 0 < k) :
    f.nearest (n * k) (d * k) = f.nearest n d := by
  simp only [nearest, Nat.mul_div_mul_right n d positive, Nat.mul_right_comm d k,
    roundQuotient_mul_right n _ positive]

/-- A finite magnitude is its own nearest code, whatever denominator it is written with. -/
theorem nearest_steps {code : Nat} (finite : code < f.infinityCode) {d : Nat} (positive : 0 < d) :
    f.nearest (f.steps code * d) d = code := by
  have whole : f.steps code * d / d = f.steps code := Nat.mul_div_cancel _ positive
  have fraction := Nat.two_pow_pos f.fractionBits
  unfold nearest
  rw [whole]
  by_cases low : code < 2 ^ (f.fractionBits + 1)
  · have short : code.log2 ≤ f.fractionBits := by
      by_cases zero : code = 0
      · simp [zero]
      · exact Nat.lt_succ_iff.mp ((Nat.log2_lt zero).mpr low)
    simp only [steps_of_lt low, Nat.sub_eq_zero_of_le short, Nat.zero_mul, Nat.zero_add, Nat.pow_zero,
      Nat.mul_one, roundQuotient_mul_self code positive]
    exact Nat.min_eq_left (Nat.le_of_lt finite)
  · have split : 2 ^ f.fractionBits * (code / 2 ^ f.fractionBits) + code % 2 ^ f.fractionBits = code :=
      Nat.div_add_mod code _
    have rest : code % 2 ^ f.fractionBits < 2 ^ f.fractionBits := Nat.mod_lt code fraction
    have run : 2 ≤ code / 2 ^ f.fractionBits := by
      rw [Nat.le_div_iff_mul_le fraction]
      rw [Nat.pow_succ] at low
      omega
    obtain ⟨shift, next⟩ : ∃ shift, code / 2 ^ f.fractionBits = shift + 1 :=
      ⟨_, (Nat.sub_add_cancel (Nat.le_of_succ_le run)).symm⟩
    have value : f.steps code = (2 ^ f.fractionBits + code % 2 ^ f.fractionBits) * 2 ^ shift := by
      unfold steps
      rw [if_neg (by rw [Nat.pow_succ] at low; omega), next, Nat.add_sub_cancel]
    have size : (f.steps code).log2 = f.fractionBits + shift := by
      rw [value]
      exact log2_mul_two_pow (Nat.le_add_right _ _) (by rw [Nat.pow_succ]; omega)
    have units : f.steps code * d = (2 ^ f.fractionBits + code % 2 ^ f.fractionBits) * (d * 2 ^ shift) := by
      rw [value, Nat.mul_assoc, Nat.mul_comm d]
    dsimp only
    rw [size, Nat.add_sub_cancel_left, units,
      roundQuotient_mul_self _ (Nat.mul_pos positive (Nat.two_pow_pos shift))]
    rw [next, Nat.mul_comm, Nat.add_mul, Nat.one_mul] at split
    rw [show shift * 2 ^ f.fractionBits + (2 ^ f.fractionBits + code % 2 ^ f.fractionBits) = code by omega]
    exact Nat.min_eq_left (Nat.le_of_lt finite)

end Format

end Calculator
