import Calculator.Proofs.Decimal.Shortest
import Calculator.Proofs.Number.Overflow
import Mathlib.Algebra.Order.GroupWithZero.Basic

namespace Calculator

namespace Decimal

variable {f : Format} {a b d : Decimal}

/-- The exact value of a decimal. -/
def toRat (d : Decimal) : ℚ := d.coefficient * (10 : ℚ) ^ d.exponent

theorem toRat_one (e : Int) : toRat ⟨1, e⟩ = (10 : ℚ) ^ e := by
  rw [toRat, Nat.cast_one, one_mul]

theorem denominator_pos (d : Decimal) : 0 < d.denominator := Nat.pow_pos (by decide)

theorem toRat_eq (d : Decimal) : d.toRat = d.numerator / d.denominator := by
  rcases Int.le_total 0 d.exponent with above | below
  · obtain ⟨n, exponent⟩ := Int.eq_ofNat_of_zero_le above
    simp [toRat, numerator, denominator, exponent]
  · obtain ⟨n, exponent⟩ := Int.eq_ofNat_of_zero_le (Int.neg_nonneg_of_nonpos below)
    rw [Int.neg_eq_comm] at exponent
    simp [toRat, numerator, denominator, ← exponent, div_eq_mul_inv]

/-- Reading decimals keeps their order. -/
theorem code_mono (f : Format) (le : a.toRat ≤ b.toRat) : a.code f ≤ b.code f := by
  have cross : a.numerator * b.denominator ≤ b.numerator * a.denominator := by
    rw [toRat_eq, toRat_eq,
      div_le_div_iff₀ (Nat.cast_pos.mpr a.denominator_pos) (Nat.cast_pos.mpr b.denominator_pos)] at le
    exact_mod_cast le
  calc a.code f
    _ = f.nearest (a.numerator * b.denominator * 2 ^ f.places) (a.denominator * b.denominator) := by
      rw [code, ← Format.nearest_mul_right _ _ b.denominator_pos, Nat.mul_right_comm]
    _ ≤ f.nearest (b.numerator * a.denominator * 2 ^ f.places) (a.denominator * b.denominator) :=
      Format.nearest_mono _ (Nat.mul_le_mul_right _ cross)
    _ = b.code f := by
      rw [code, ← Format.nearest_mul_right (b.numerator * 2 ^ f.places) _ a.denominator_pos, Nat.mul_right_comm,
        Nat.mul_comm b.denominator]

/-- How a decimal is spelled has no say in what it is read as. -/
theorem code_congr (f : Format) (same : a.toRat = b.toRat) : a.code f = b.code f :=
  Nat.le_antisymm (code_mono f same.le) (code_mono f same.ge)

/-- Powers of ten beyond the exponents of a format are read as infinite. -/
theorem code_of_large {k : Nat} (large : 2 ^ f.exponentBits + f.fractionBits ≤ k) :
    Decimal.code f ⟨1, k⟩ = f.infinityCode := by
  have size : k + f.places ≤ (10 ^ k * 2 ^ f.places).log2 := by
    rw [Nat.le_log2 (Nat.mul_ne_zero (Nat.pow_pos (by decide)).ne' (Nat.two_pow_pos _).ne'), Nat.pow_add]
    exact Nat.mul_le_mul_right _ (Nat.pow_le_pow_left (by decide) k)
  have runs : 2 ^ f.exponentBits - 1 ≤ (10 ^ k * 2 ^ f.places).log2 - f.fractionBits := by omega
  have whole : Decimal.code f ⟨1, k⟩ = f.nearest (10 ^ k * 2 ^ f.places) 1 := by
    simp [code, numerator, denominator]
  rw [whole, Format.nearest, Nat.div_one]
  exact Nat.min_eq_right ((Nat.mul_le_mul_right _ runs).trans (Nat.le_add_right _ _))

/-- Powers of ten below the last place of a format are read as zero. -/
theorem code_of_small {k : Nat} (small : f.places < k) : Decimal.code f ⟨1, -k⟩ = 0 := by
  have less : 2 * 2 ^ f.places < 10 ^ k := by
    rw [← Nat.pow_succ']
    calc 2 ^ (f.places + 1)
      _ < 10 ^ (f.places + 1) := Nat.pow_lt_pow_left (by decide) (Nat.succ_ne_zero _)
      _ ≤ 10 ^ k := Nat.pow_le_pow_right (by decide) small
  have below : 2 ^ f.places < 10 ^ k := by omega
  have quotient : Decimal.code f ⟨1, -k⟩ = f.nearest (2 ^ f.places) (10 ^ k) := by
    simp [code, numerator, denominator]
  rw [quotient, Format.nearest, Nat.div_eq_of_lt below, Nat.log2_zero, Nat.zero_sub, Nat.zero_mul, Nat.zero_add,
    Nat.pow_zero, Nat.mul_one, roundQuotient, Nat.mod_eq_of_lt below, if_pos less, Nat.div_eq_of_lt below,
    Nat.zero_min]

/-- The power of ten of the first digit. -/
def leading (d : Decimal) : Int := d.exponent + (((Nat.toDigits 10 d.coefficient).length : Int) - 1)

/-- A decimal is at least the power of ten of its first digit. -/
theorem pow_leading_le (nonzero : d.coefficient ≠ 0) : (10 : ℚ) ^ d.leading ≤ d.toRat := by
  have length : 0 < (Nat.toDigits 10 d.coefficient).length := Nat.length_toDigits_pos
  have digits : 10 ^ ((Nat.toDigits 10 d.coefficient).length - 1) ≤ d.coefficient :=
    pow_le_of_lt_length_toDigits nonzero (by omega)
  have power : (10 : ℚ) ^ d.leading = 10 ^ ((Nat.toDigits 10 d.coefficient).length - 1) * 10 ^ d.exponent := by
    rw [← zpow_natCast, ← zpow_add₀ (by norm_num), leading]
    congr 1
    omega
  rw [power, toRat]
  exact mul_le_mul_of_nonneg_right (by exact_mod_cast digits) (zpow_nonneg (by norm_num) _)

/-- A decimal stays below the next power of ten. -/
theorem toRat_le_pow (d : Decimal) : d.toRat ≤ (10 : ℚ) ^ (d.leading + 1) := by
  have digits : d.coefficient < 10 ^ (Nat.toDigits 10 d.coefficient).length :=
    (Nat.length_toDigits_le_iff (by decide) Nat.length_toDigits_pos).mp le_rfl
  have power : (10 : ℚ) ^ (d.leading + 1) = 10 ^ (Nat.toDigits 10 d.coefficient).length * 10 ^ d.exponent := by
    rw [← zpow_natCast, ← zpow_add₀ (by norm_num), leading]
    congr 1
    omega
  rw [power, toRat]
  exact mul_le_mul_of_nonneg_right (by exact_mod_cast digits.le) (zpow_nonneg (by norm_num) _)

/-- What is read as a finite magnitude other than zero has its first digit within reach of the exponents. -/
theorem leading_bounds (finite : d.code f < f.infinityCode) (nonzero : d.code f ≠ 0) :
    d.leading < (2 ^ f.exponentBits + f.fractionBits : Nat) ∧ -(f.places + 1 : Nat) ≤ d.leading := by
  have least : ¬d.toRat ≤ toRat ⟨1, -(f.places + 1 : Nat)⟩ := by
    intro less
    have order := code_mono f less
    rw [code_of_small (Nat.lt_succ_self _)] at order
    exact nonzero (Nat.le_zero.mp order)
  have most : ¬toRat ⟨1, (2 ^ f.exponentBits + f.fractionBits : Nat)⟩ ≤ d.toRat := by
    intro more
    have order := code_mono f more
    rw [code_of_large le_rfl] at order
    omega
  rw [toRat_one] at least most
  have digits : d.coefficient ≠ 0 := by
    intro zero
    apply least
    rw [toRat, zero, Nat.cast_zero, zero_mul]
    exact zpow_nonneg (by norm_num) _
  constructor
  · by_contra! far
    exact most ((zpow_le_zpow_right₀ (by norm_num) far).trans (pow_leading_le digits))
  · by_contra! near
    exact least (d.toRat_le_pow.trans (zpow_le_zpow_right₀ (by norm_num) near))

end Decimal

end Calculator
