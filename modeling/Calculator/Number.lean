namespace Calculator

-- Powers of natural numbers are the computed ones here, also where the monoid of natural numbers is at hand.
attribute [scoped instance (2000)] instPowNat

/-- A binary format of numbers: how many bits hold the fraction and how many the exponent. -/
structure Format where
  fractionBits : Nat
  exponentBits : Nat
  fractionBits_pos : 0 < fractionBits := by decide
deriving DecidableEq

namespace Format

/-- The format of the calculator's values. -/
def double : Format := ⟨52, 11, by decide⟩

/-- The format of window sizes. -/
def single : Format := ⟨23, 8, by decide⟩

/-- Magnitudes are numbered in increasing order; this many numbers are available. -/
def codeCount (f : Format) : Nat := 2 ^ (f.exponentBits + f.fractionBits)

/-- The code of infinity. Smaller codes are finite magnitudes, larger ones stand for no number. -/
def infinityCode (f : Format) : Nat := (2 ^ f.exponentBits - 1) * 2 ^ f.fractionBits

/-- Every finite magnitude is a whole number of steps, and a step is 2 to minus this power. -/
def places (f : Format) : Nat := 2 ^ (f.exponentBits - 1) - 2 + f.fractionBits

/-- The steps of a finite magnitude. Below the first full fraction a code counts steps itself;
from there on each further run of `2 ^ fractionBits` codes is spaced twice as wide as the one before. -/
def steps (f : Format) (code : Nat) : Nat :=
  if code < 2 ^ f.fractionBits then code
  else (2 ^ f.fractionBits + code % 2 ^ f.fractionBits) * 2 ^ (code / 2 ^ f.fractionBits - 1)

theorem infinityCode_lt_codeCount (f : Format) : f.infinityCode < f.codeCount := by
  unfold infinityCode codeCount
  rw [Nat.pow_add]
  exact Nat.mul_lt_mul_of_pos_right (Nat.sub_lt (Nat.two_pow_pos _) (by decide)) (Nat.two_pow_pos _)

end Format

/-- The quotient rounded to the nearest whole number, a half to the even neighbour. -/
def roundQuotient (numerator denominator : Nat) : Nat :=
  let low := numerator / denominator
  let twice := 2 * (numerator % denominator)
  if twice < denominator then low
  else if denominator < twice then low + 1
  else if low % 2 = 0 then low else low + 1

/-- The code nearest to a quotient of steps, a half to the even code, and infinity for what is too large.
The quotient's size fixes the spacing of the codes around it, so one division is enough; a carry out of the
fraction lands on the first code of the next run, which is where it belongs. -/
def Format.nearest (f : Format) (numerator denominator : Nat) : Nat :=
  let shift := (numerator / denominator).log2 - f.fractionBits
  min (shift * 2 ^ f.fractionBits + roundQuotient numerator (denominator * 2 ^ shift)) f.infinityCode

theorem Format.nearest_lt_codeCount (f : Format) (numerator denominator : Nat) :
    f.nearest numerator denominator < f.codeCount :=
  Nat.lt_of_le_of_lt (Nat.min_le_right _ _) f.infinityCode_lt_codeCount

/-- A number of a binary format: a sign and a magnitude. Zero and infinity carry a sign as well. -/
@[ext] structure Number (f : Format) where
  negative : Bool
  code : Nat
  code_lt : code < f.codeCount
deriving DecidableEq

namespace Number

variable {f : Format}

/-- Neither infinite nor undefined. -/
def IsFinite (x : Number f) : Prop := x.code < f.infinityCode

/-- Infinity of either sign. -/
def IsInfinite (x : Number f) : Prop := x.code = f.infinityCode

/-- The result of an operation that has none. -/
def IsUndefined (x : Number f) : Prop := f.infinityCode < x.code

/-- Zero of either sign. -/
def IsZero (x : Number f) : Prop := x.code = 0

instance (x : Number f) : Decidable x.IsFinite := inferInstanceAs (Decidable (x.code < f.infinityCode))
instance (x : Number f) : Decidable x.IsInfinite := inferInstanceAs (Decidable (x.code = f.infinityCode))
instance (x : Number f) : Decidable x.IsUndefined := inferInstanceAs (Decidable (f.infinityCode < x.code))
instance (x : Number f) : Decidable x.IsZero := inferInstanceAs (Decidable (x.code = 0))

/-- The zero of a sign. -/
def zero (negative : Bool) : Number f := ⟨negative, 0, Nat.two_pow_pos _⟩

/-- The infinity of a sign. -/
def infinity (negative : Bool) : Number f := ⟨negative, f.infinityCode, f.infinityCode_lt_codeCount⟩

/-- The undefined number, with the top bit of its fraction set. -/
def undefined (negative : Bool) : Number f where
  negative := negative
  code := f.infinityCode + 2 ^ (f.fractionBits - 1)
  code_lt := by
    have half : 2 ^ (f.fractionBits - 1) < 2 ^ f.fractionBits :=
      Nat.pow_lt_pow_right (by decide) (Nat.sub_lt f.fractionBits_pos (by decide))
    have total : f.infinityCode + 2 ^ f.fractionBits = f.codeCount := by
      unfold Format.infinityCode Format.codeCount
      rw [Nat.pow_add, Nat.sub_mul, Nat.one_mul]
      exact Nat.sub_add_cancel (Nat.le_mul_of_pos_left _ (Nat.two_pow_pos _))
    omega

/-- The number of a sign nearest to a quotient of steps. -/
def ofQuotient (negative : Bool) (numerator denominator : Nat) : Number f :=
  ⟨negative, f.nearest numerator denominator, f.nearest_lt_codeCount _ _⟩

/-- The steps of a finite number, with its sign. -/
def signedSteps (x : Number f) : Int := if x.negative then -(f.steps x.code) else f.steps x.code

/-- A number's place in the order of all that are defined; both zeros share one place. -/
def rank (x : Number f) : Int := if x.negative then -x.code else x.code

/-- The number as one word: the sign bit above the magnitude's code. -/
def toWord (x : Number f) : Nat := if x.negative then f.codeCount + x.code else x.code

/-- The number whose word is given; bits above the sign are ignored. -/
def ofWord (f : Format) (word : Nat) : Number f :=
  ⟨decide (f.codeCount ≤ word % (2 * f.codeCount)), word % f.codeCount,
    Nat.mod_lt _ (Nat.two_pow_pos _)⟩

theorem ofWord_toWord (x : Number f) : ofWord f x.toWord = x := by
  have small := x.code_lt
  cases sign : x.negative with
  | false =>
    have width : x.code < 2 * f.codeCount := by omega
    ext <;> simp [ofWord, toWord, sign, Nat.mod_eq_of_lt width, Nat.mod_eq_of_lt small, small]
  | true =>
    have width : f.codeCount + x.code < 2 * f.codeCount := by omega
    ext <;> simp [ofWord, toWord, sign, Nat.mod_eq_of_lt width, Nat.mod_eq_of_lt small]

end Number

end Calculator
