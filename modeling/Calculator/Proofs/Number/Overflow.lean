import Calculator.Proofs.Number.Whole
import Mathlib.Algebra.Order.Field.Basic
import Mathlib.Algebra.Order.Field.Rat
import Mathlib.Data.Nat.Log

namespace Calculator

/-- Rounding goes to one of the two neighbours. -/
theorem roundQuotient_between (n d : Nat) : n / d ≤ roundQuotient n d ∧ roundQuotient n d ≤ n / d + 1 := by
  unfold roundQuotient
  dsimp only
  split
  · omega
  · split
    · omega
    · split <;> omega

/-- Rounding never turns the order of two quotients around. -/
theorem roundQuotient_mono {n m : Nat} (d : Nat) (le : n ≤ m) : roundQuotient n d ≤ roundQuotient m d := by
  rcases Nat.eq_or_lt_of_le (Nat.div_le_div_right (c := d) le) with same | less
  · have first := Nat.div_add_mod n d
    have second := Nat.div_add_mod m d
    rw [same] at first
    have rest : n % d ≤ m % d := by omega
    simp only [roundQuotient, same]
    split_ifs <;> omega
  · have low := (roundQuotient_between n d).2
    have high := (roundQuotient_between m d).1
    omega

section Runs

variable {n d bits shift : Nat}

/-- A short quotient does not round past a power of two. -/
theorem roundQuotient_le_two_pow (short : n / d < 2 ^ (shift + bits)) :
    roundQuotient n (d * 2 ^ shift) ≤ 2 ^ bits := by
  have whole : n / (d * 2 ^ shift) < 2 ^ bits := by
    rw [← Nat.div_div_eq_div_mul]
    rw [Nat.pow_add] at short
    exact Nat.div_lt_of_lt_mul short
  have near := (roundQuotient_between n (d * 2 ^ shift)).2
  omega

/-- A long quotient does not round below a power of two. -/
theorem two_pow_le_roundQuotient (long : 2 ^ (bits + shift) ≤ n / d) :
    2 ^ bits ≤ roundQuotient n (d * 2 ^ shift) := by
  have whole : 2 ^ bits ≤ n / (d * 2 ^ shift) := by
    rw [← Nat.div_div_eq_div_mul, Nat.le_div_iff_mul_le (Nat.two_pow_pos shift), ← Nat.pow_add]
    exact long
  exact whole.trans (roundQuotient_between n (d * 2 ^ shift)).1

end Runs

namespace Format

variable {f : Format}

/-- Rounding to a format keeps the order: where the larger of two quotients is spaced wider, a power of two stands
between them. -/
theorem nearest_mono {n m : Nat} (d : Nat) (le : n ≤ m) : f.nearest n d ≤ f.nearest m d := by
  have logarithm : (n / d).log2 ≤ (m / d).log2 := by
    rw [Nat.log2_eq_log_two, Nat.log2_eq_log_two]
    exact Nat.log_mono_right (Nat.div_le_div_right le)
  unfold nearest
  generalize first : (n / d).log2 - f.fractionBits = low
  generalize second : (m / d).log2 - f.fractionBits = high
  apply min_le_min_right
  rcases Nat.eq_or_lt_of_le (show low ≤ high by omega) with rfl | less
  · exact Nat.add_le_add_left (roundQuotient_mono _ le) _
  · have below : roundQuotient n (d * 2 ^ low) ≤ 2 ^ (f.fractionBits + 1) := by
      apply roundQuotient_le_two_pow
      exact Nat.lt_of_lt_of_le Nat.lt_log2_self (Nat.pow_le_pow_right (by decide) (by omega))
    have above : 2 ^ f.fractionBits ≤ roundQuotient m (d * 2 ^ high) := by
      apply two_pow_le_roundQuotient
      have nonzero : m / d ≠ 0 := by
        intro zero
        rw [zero, Nat.log2_zero] at second
        omega
      rw [show f.fractionBits + high = (m / d).log2 by omega]
      exact Nat.log2_self_le nonzero
    have step : (low + 1) * 2 ^ f.fractionBits ≤ high * 2 ^ f.fractionBits := Nat.mul_le_mul_right _ less
    rw [Nat.add_mul, Nat.one_mul] at step
    rw [Nat.pow_succ] at below
    omega

/-- What rounds to infinity is larger than every finite magnitude. -/
theorem steps_lt_of_nearest {n d code : Nat} (positive : 0 < d) (infinite : f.nearest n d = f.infinityCode)
    (finite : code < f.infinityCode) : f.steps code * d < n := by
  by_contra short
  have order := nearest_mono (f := f) d (Nat.not_lt.mp short)
  rw [nearest_steps finite positive, infinite] at order
  omega

end Format

namespace Number

variable {f : Format} {x y : Number f}

/-- The exact value of a finite number. -/
def toRat (x : Number f) : ℚ := x.signedSteps / (2 ^ f.places : Nat)

theorem toRat_neg (x : Number f) : x.neg.toRat = -x.toRat := by
  rw [toRat, signedSteps_neg, Int.cast_neg, neg_div, toRat]

theorem abs_toRat (x : Number f) : |x.toRat| = f.steps x.code / (2 ^ f.places : Nat) := by
  have size : |(x.signedSteps : ℚ)| = f.steps x.code := by
    cases sign : x.negative <;> simp [signedSteps, sign]
  rw [toRat, abs_div, size, Nat.abs_cast]

end Number

/-- A quantity is larger than all finite numbers of a format, whatever its sign. -/
def Format.Exceeded (f : Format) (q : ℚ) : Prop := ∀ x : Number f, x.IsFinite → |x.toRat| < |q|

namespace Number

variable {f : Format} {x y : Number f}

theorem scale_pos (f : Format) : (0 : ℚ) < (2 ^ f.places : Nat) := Nat.cast_pos.mpr (Nat.two_pow_pos _)

/-- A quotient that rounds to infinity is larger than all finite numbers. -/
theorem exceeded_of_ofQuotient {negative : Bool} {n d : Nat} {q : ℚ} (positive : 0 < d)
    (infinite : (ofQuotient negative n d : Number f).IsInfinite) (size : |q| = n / d / (2 ^ f.places : Nat)) :
    f.Exceeded q := by
  intro z finite
  have larger : f.steps z.code * d < n := Format.steps_lt_of_nearest positive infinite finite
  have quotient : (f.steps z.code : ℚ) < n / d := by
    rw [lt_div_iff₀ (Nat.cast_pos.mpr positive)]
    exact_mod_cast larger
  rw [abs_toRat, size]
  exact div_lt_div_of_pos_right quotient (scale_pos f)

/-- What is rounded is always defined. -/
theorem not_isUndefined_ofQuotient (negative : Bool) (n d : Nat) :
    ¬(ofQuotient negative n d : Number f).IsUndefined :=
  Nat.not_lt.mpr (Nat.min_le_right _ _)

theorem not_isUndefined_ofSteps (zeroSign : Bool) (steps : Int) :
    ¬(ofSteps zeroSign steps : Number f).IsUndefined := by
  unfold ofSteps
  split
  · exact Nat.not_lt_zero _
  · exact not_isUndefined_ofQuotient _ _ _

section Finite

variable (left : x.IsFinite) (right : y.IsFinite)

include left right

theorem not_isUndefined_add : ¬(x + y).IsUndefined := by
  rw [add_of_isFinite left right]
  exact not_isUndefined_ofSteps _ _

/-- A sum is infinite only if it is too large, for a sum of no steps is zero. -/
theorem exceeded_add (infinite : (x + y).IsInfinite) : f.Exceeded (x.toRat + y.toRat) := by
  rw [add_of_isFinite left right, ofSteps] at infinite
  split at infinite
  · have zero : (0 : Nat) = f.infinityCode := infinite
    unfold IsFinite at left
    omega
  · apply exceeded_of_ofQuotient Nat.one_pos infinite
    rw [toRat, toRat, ← add_div, ← Int.cast_add, abs_div, Nat.abs_cast, Nat.cast_natAbs, Int.cast_abs, Nat.cast_one,
      div_one]

theorem not_isUndefined_sub : ¬(x - y).IsUndefined :=
  not_isUndefined_add left (isFinite_neg.mpr right)

theorem exceeded_sub (infinite : (x - y).IsInfinite) : f.Exceeded (x.toRat - y.toRat) := by
  rw [sub_eq_add_neg, ← toRat_neg]
  exact exceeded_add left (isFinite_neg.mpr right) infinite

theorem not_isUndefined_mul : ¬(x * y).IsUndefined := by
  rw [mul_of_isFinite left right]
  exact not_isUndefined_ofQuotient _ _ _

/-- A product is infinite only if it is too large. -/
theorem exceeded_mul (infinite : (x * y).IsInfinite) : f.Exceeded (x.toRat * y.toRat) := by
  rw [mul_of_isFinite left right] at infinite
  apply exceeded_of_ofQuotient (Nat.two_pow_pos _) infinite
  rw [abs_mul, abs_toRat, abs_toRat, Nat.cast_mul, div_mul_div_comm, div_div]

variable (nonzero : ¬y.IsZero)

include nonzero

theorem not_isUndefined_div : ¬(x / y).IsUndefined := by
  rw [div_of_isFinite left right nonzero]
  exact not_isUndefined_ofQuotient _ _ _

/-- A quotient is infinite only if it is too large. -/
theorem exceeded_div (infinite : (x / y).IsInfinite) : f.Exceeded (x.toRat / y.toRat) := by
  rw [div_of_isFinite left right nonzero] at infinite
  apply exceeded_of_ofQuotient (Nat.pos_of_ne_zero (Format.steps_ne_zero nonzero)) infinite
  have scale := (scale_pos f).ne'
  rw [abs_div, abs_toRat, abs_toRat, Nat.cast_mul, div_div_div_cancel_right₀ scale, div_right_comm,
    mul_div_cancel_right₀ _ scale]

end Finite

end Number

end Calculator
