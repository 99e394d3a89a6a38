import Calculator.Number.Arithmetic
import Calculator.Number.Rounding

namespace Calculator

/-- Only zero has no steps. -/
theorem Format.steps_ne_zero {f : Format} {code : Nat} (nonzero : code ≠ 0) : f.steps code ≠ 0 := by
  unfold steps
  split
  · exact nonzero
  · have fraction := Nat.two_pow_pos f.fractionBits
    have scale := Nat.two_pow_pos (code / 2 ^ f.fractionBits - 1)
    exact Nat.mul_ne_zero (by omega) (by omega)

theorem Format.steps_zero (f : Format) : f.steps 0 = 0 := if_pos (Nat.two_pow_pos _)

namespace Number

variable {f : Format} {x y : Number f}

/-- A number that the calculator keeps as it is. -/
def Settled (x : Number f) : Prop := x.settle = x

theorem settle_of_finite (finite : x.IsFinite) (nonzero : ¬x.IsZero) : x.settle = x :=
  if_pos ⟨finite, nonzero⟩

theorem settle_of_isZero (isZero : x.IsZero) : x.settle = zero false :=
  if_neg fun kept => kept.2 isZero

theorem settle_of_not_isFinite (large : ¬x.IsFinite) : x.settle = zero false :=
  if_neg fun kept => large kept.1

/-- A number is kept, or a zero takes its place. -/
theorem settle_cases (x : Number f) : (x.IsFinite ∧ ¬x.IsZero ∧ x.settle = x) ∨ x.settle = zero false := by
  by_cases finite : x.IsFinite
  · by_cases isZero : x.IsZero
    · exact Or.inr (settle_of_isZero isZero)
    · exact Or.inl ⟨finite, isZero, settle_of_finite finite isZero⟩
  · exact Or.inr (settle_of_not_isFinite finite)

@[simp] theorem settle_zero (negative : Bool) : (zero negative : Number f).settle = zero false :=
  settle_of_isZero rfl

/-- Settling twice is settling once. -/
theorem settle_settled (x : Number f) : x.settle.Settled := by
  rcases x.settle_cases with ⟨_, _, kept⟩ | lost
  · rw [kept]
    exact kept
  · rw [lost]
    exact settle_zero false

/-- Settling makes nothing negative. -/
theorem settle_negative (positive : x.negative = false) : x.settle.negative = false := by
  rcases x.settle_cases with ⟨_, _, kept⟩ | lost
  · rw [kept]
    exact positive
  · rw [lost]
    rfl

/-- Settled numbers are finite, as long as the format has finite numbers at all. -/
theorem Settled.isFinite (settled : x.Settled) (room : 0 < f.infinityCode) : x.IsFinite := by
  rcases x.settle_cases with ⟨finite, _, _⟩ | lost
  · exact finite
  · rw [← settled, lost]
    exact room

/-- A settled zero has no minus. -/
theorem Settled.not_isZero (settled : x.Settled) (negative : x.negative = true) : ¬x.IsZero := by
  intro isZero
  rw [← settled, settle_of_isZero isZero] at negative
  exact Bool.false_ne_true negative

@[simp] theorem neg_neg (x : Number f) : x.neg.neg = x := by
  simp [neg]

theorem isFinite_neg : x.neg.IsFinite ↔ x.IsFinite := Iff.rfl

theorem isZero_neg : x.neg.IsZero ↔ x.IsZero := Iff.rfl

/-- The opposite may be taken before or after settling. -/
theorem settle_neg_settle (x : Number f) : x.settle.neg.settle = x.neg.settle := by
  by_cases finite : x.IsFinite
  · by_cases isZero : x.IsZero
    · rw [settle_of_isZero isZero, settle_of_isZero (isZero_neg.mpr isZero)]
      exact settle_zero true
    · rw [settle_of_finite finite isZero]
  · rw [settle_of_not_isFinite finite, settle_of_not_isFinite (finite ∘ isFinite_neg.mp)]
    exact settle_zero true

theorem IsFinite.not_isInfinite (finite : x.IsFinite) : ¬x.IsInfinite :=
  Nat.ne_of_lt finite

theorem IsFinite.not_isUndefined (finite : x.IsFinite) : ¬x.IsUndefined :=
  Nat.lt_asymm finite

/-- Finite numbers are added step by step. -/
theorem add_of_isFinite (left : x.IsFinite) (right : y.IsFinite) :
    x + y = ofSteps (x.negative && y.negative) (x.signedSteps + y.signedSteps) := by
  change add x y = _
  simp only [add, left.not_isUndefined, right.not_isUndefined, left.not_isInfinite, right.not_isInfinite,
    or_self, if_false]

/-- Finite numbers are multiplied by their steps. -/
theorem mul_of_isFinite (left : x.IsFinite) (right : y.IsFinite) :
    x * y = ofQuotient (x.negative != y.negative) (f.steps x.code * f.steps y.code) (2 ^ f.places) := by
  change mul x y = _
  simp only [mul, left.not_isUndefined, right.not_isUndefined, left.not_isInfinite, right.not_isInfinite,
    or_self, if_false]

/-- Finite numbers are divided by their steps. -/
theorem div_of_isFinite (left : x.IsFinite) (right : y.IsFinite) (nonzero : ¬y.IsZero) :
    x / y = ofQuotient (x.negative != y.negative) (f.steps x.code * 2 ^ f.places) (f.steps y.code) := by
  change div x y = _
  simp only [div, left.not_isUndefined, right.not_isUndefined, left.not_isInfinite, right.not_isInfinite,
    nonzero, or_self, if_false]

/-- Rounding treats both signs alike. -/
theorem ofQuotient_not (negative : Bool) (numerator denominator : Nat) :
    (ofQuotient (!negative) numerator denominator : Number f) =
      (ofQuotient negative numerator denominator).neg := rfl

theorem mul_neg_left (left : x.IsFinite) (right : y.IsFinite) : x.neg * y = (x * y).neg := by
  rw [mul_of_isFinite (isFinite_neg.mpr left) right, mul_of_isFinite left right, ← ofQuotient_not, ← Bool.not_bne]
  rfl

theorem div_neg_left (left : x.IsFinite) (right : y.IsFinite) (nonzero : ¬y.IsZero) :
    x.neg / y = (x / y).neg := by
  rw [div_of_isFinite (isFinite_neg.mpr left) right nonzero, div_of_isFinite left right nonzero, ← ofQuotient_not,
    ← Bool.not_bne]
  rfl

/-- A product is negative if its factors differ in sign. -/
theorem mul_negative (left : x.IsFinite) (right : y.IsFinite) : (x * y).negative = (x.negative != y.negative) := by
  rw [mul_of_isFinite left right]
  rfl

theorem div_negative (left : x.IsFinite) (right : y.IsFinite) (nonzero : ¬y.IsZero) :
    (x / y).negative = (x.negative != y.negative) := by
  rw [div_of_isFinite left right nonzero]
  rfl

/-- A finite number other than zero is the number nearest to its own steps. -/
theorem ofSteps_signedSteps (finite : x.IsFinite) (nonzero : ¬x.IsZero) (zeroSign : Bool) :
    ofSteps zeroSign x.signedSteps = x := by
  have nonzeroSteps : f.steps x.code ≠ 0 := Format.steps_ne_zero nonzero
  have own : f.nearest (f.steps x.code) 1 = x.code := by
    simpa using Format.nearest_steps finite (d := 1) (by decide)
  cases sign : x.negative with
  | false =>
    have steps : x.signedSteps = f.steps x.code := by simp [signedSteps, sign]
    rw [steps, ofSteps, if_neg (by omega)]
    ext
    · simp [ofQuotient, sign]
    · simp [ofQuotient, own]
  | true =>
    have steps : x.signedSteps = -f.steps x.code := by simp [signedSteps, sign]
    rw [steps, ofSteps, if_neg (by omega)]
    ext
    · simp [ofQuotient, sign, Nat.pos_of_ne_zero nonzeroSteps]
    · simp [ofQuotient, own]

/-- A settled number taken from zero is its opposite, with no rounding. -/
theorem zero_sub_settle (settled : x.Settled) (room : 0 < f.infinityCode) :
    (zero false - x).settle = x.neg.settle := by
  have finite := settled.isFinite room
  have origin : (zero false : Number f).IsFinite := room
  have noSteps : (zero false : Number f).signedSteps = 0 := by
    simp [signedSteps, zero, Format.steps_zero]
  have difference : zero false - x = ofSteps false x.neg.signedSteps := by
    change zero false + x.neg = _
    rw [add_of_isFinite origin (isFinite_neg.mpr finite), noSteps, Int.zero_add]
    rfl
  rw [difference]
  by_cases zero : x.IsZero
  · have steps : x.neg.signedSteps = 0 := by
      have code : x.code = 0 := zero
      simp [signedSteps, neg, code, Format.steps_zero]
    rw [steps, settle_of_isZero (isZero_neg.mpr zero), ofSteps, if_pos rfl, settle_zero]
  · rw [ofSteps_signedSteps (isFinite_neg.mpr finite) (zero ∘ isZero_neg.mp)]

end Number

end Calculator
