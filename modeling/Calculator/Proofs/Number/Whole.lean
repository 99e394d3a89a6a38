import Calculator.Proofs.Number.Settled
import Mathlib.Algebra.Order.Ring.Int

namespace Calculator

namespace Format

variable {f : Format}

/-- Some finite magnitude has exactly this many steps. -/
def Holds (f : Format) (steps : Nat) : Prop := ∃ code < f.infinityCode, f.steps code = steps

/-- Rounding leaves alone what is held, whatever denominator it is written with. -/
theorem Holds.nearest {q d : Nat} (held : f.Holds q) (positive : 0 < d) :
    f.nearest (q * d) d < f.infinityCode ∧ f.steps (f.nearest (q * d) d) = q := by
  obtain ⟨code, finite, rfl⟩ := held
  rw [nearest_steps finite positive]
  exact ⟨finite, rfl⟩

/-- A full fraction is held wherever it stands, as far as the exponents reach. -/
theorem holds_of_full {m shift : Nat} (low : 2 ^ f.fractionBits ≤ m) (high : m < 2 ^ (f.fractionBits + 1))
    (finite : shift + 2 < 2 ^ f.exponentBits) : f.Holds (m * 2 ^ shift) := by
  obtain ⟨rest, rfl⟩ := Nat.exists_eq_add_of_le low
  rw [Nat.pow_succ] at high
  have small : rest < 2 ^ f.fractionBits := by omega
  have fraction := Nat.two_pow_pos f.fractionBits
  have run : ((shift + 1) * 2 ^ f.fractionBits + rest) / 2 ^ f.fractionBits = shift + 1 := by
    rw [Nat.add_comm, Nat.add_mul_div_right _ _ fraction, Nat.div_eq_of_lt small, Nat.zero_add]
  have place : ((shift + 1) * 2 ^ f.fractionBits + rest) % 2 ^ f.fractionBits = rest := by
    rw [Nat.add_comm, Nat.add_mul_mod_self_right, Nat.mod_eq_of_lt small]
  refine ⟨(shift + 1) * 2 ^ f.fractionBits + rest, ?_, ?_⟩
  · have next : (shift + 1) * 2 ^ f.fractionBits + 2 ^ f.fractionBits = (shift + 2) * 2 ^ f.fractionBits :=
      (Nat.succ_mul _ _).symm
    have top : (shift + 2) * 2 ^ f.fractionBits ≤ f.infinityCode := Nat.mul_le_mul_right _ (by omega)
    omega
  · have above : 2 ^ f.fractionBits ≤ (shift + 1) * 2 ^ f.fractionBits + rest := by
      rw [Nat.add_mul]
      omega
    rw [steps, if_neg (Nat.not_lt.mpr above), run, place, Nat.add_sub_cancel]

/-- Whatever has no more bits than a full fraction is held, wherever those bits stand. -/
theorem holds_mul_two_pow {m shift : Nat} (short : m < 2 ^ (f.fractionBits + 1))
    (finite : shift + 2 < 2 ^ f.exponentBits) : f.Holds (m * 2 ^ shift) := by
  induction shift generalizing m with
  | zero =>
    refine ⟨m, ?_, by rw [steps_of_lt short, Nat.pow_zero, Nat.mul_one]⟩
    have room : 2 * 2 ^ f.fractionBits ≤ f.infinityCode := Nat.mul_le_mul_right _ (by omega)
    rw [Nat.pow_succ] at short
    omega
  | succ shift ih =>
    by_cases full : 2 ^ f.fractionBits ≤ m
    · exact holds_of_full full short finite
    · have moved := ih (m := m * 2) (by rw [Nat.pow_succ]; omega) (by omega)
      rwa [Nat.mul_assoc, Nat.mul_comm 2, ← Nat.pow_succ] at moved

/-- The exponents of a format reach far enough for whole numbers. -/
def Roomy (f : Format) : Prop := f.places + 4 < 2 ^ f.exponentBits

theorem Roomy.infinityCode_pos (roomy : f.Roomy) : 0 < f.infinityCode :=
  Nat.mul_pos (Nat.sub_pos_of_lt (by unfold Roomy at roomy; omega)) (Nat.two_pow_pos _)

/-- All whole numbers are held up to the first that needs more bits than a full fraction. -/
theorem Roomy.holds_whole (roomy : f.Roomy) {n : Nat} (small : n ≤ 2 ^ (f.fractionBits + 1)) :
    f.Holds (n * 2 ^ f.places) := by
  unfold Roomy at roomy
  rcases Nat.lt_or_eq_of_le small with short | rfl
  · exact holds_mul_two_pow short (by omega)
  · rw [Nat.pow_succ, Nat.mul_assoc, Nat.mul_comm 2, ← Nat.pow_succ]
    exact holds_of_full (Nat.le_refl _) (Nat.pow_lt_pow_right (by decide) (Nat.lt_succ_self _)) (by omega)

/-- From there on every other one is held, up to twice as far. -/
theorem Roomy.holds_even (roomy : f.Roomy) {n : Nat} (small : n ≤ 2 ^ (f.fractionBits + 1)) :
    f.Holds (2 * n * 2 ^ f.places) := by
  unfold Roomy at roomy
  rw [Nat.mul_comm 2, Nat.mul_assoc, Nat.mul_comm 2, ← Nat.pow_succ]
  rcases Nat.lt_or_eq_of_le small with short | rfl
  · exact holds_mul_two_pow short (by omega)
  · rw [Nat.pow_succ, Nat.mul_assoc, Nat.mul_comm 2, ← Nat.pow_succ]
    exact holds_of_full (Nat.le_refl _) (Nat.pow_lt_pow_right (by decide) (Nat.lt_succ_self _)) (by omega)

end Format

namespace Number

variable {f : Format} {n a b : Int}

theorem signedSteps_neg (x : Number f) : x.neg.signedSteps = -x.signedSteps := by
  cases sign : x.negative <;> simp [signedSteps, neg, sign]

/-- The number nearest to a whole number. -/
def ofInt (f : Format) (n : Int) : Number f := ofSteps false (n * (2 ^ f.places : Nat))

@[simp] theorem ofInt_zero : ofInt f 0 = zero false := by
  rw [ofInt, Int.zero_mul]
  exact if_pos rfl

/-- A whole number other than zero is rounded by its magnitude and keeps its sign. -/
theorem ofInt_of_ne_zero (nonzero : n ≠ 0) :
    ofInt f n = ofQuotient (decide (n < 0)) (n.natAbs * 2 ^ f.places) 1 := by
  have scale : (0 : Int) < (2 ^ f.places : Nat) := Int.natCast_pos.mpr (Nat.two_pow_pos _)
  have nonzeroSteps : n * (2 ^ f.places : Nat) ≠ 0 := Int.mul_ne_zero nonzero (Int.ne_of_gt scale)
  have sign : n * (2 ^ f.places : Nat) < 0 ↔ n < 0 := by
    rw [mul_neg_iff]
    omega
  rw [ofInt, ofSteps, if_neg nonzeroSteps, Int.natAbs_mul, Int.natAbs_natCast]
  simp only [sign]

theorem ofInt_negative (n : Int) : (ofInt f n).negative = decide (n < 0) := by
  by_cases isZero : n = 0
  · subst n
    rw [ofInt_zero]
    rfl
  · rw [ofInt_of_ne_zero isZero]
    rfl

/-- A whole number has a magnitude of its own as long as it is not larger than the fraction allows. -/
theorem ofInt_steps (roomy : f.Roomy) (small : n.natAbs ≤ 2 ^ (f.fractionBits + 1)) :
    (ofInt f n).IsFinite ∧ f.steps (ofInt f n).code = n.natAbs * 2 ^ f.places := by
  by_cases isZero : n = 0
  · subst n
    rw [ofInt_zero, Int.natAbs_zero, Nat.zero_mul]
    exact ⟨roomy.infinityCode_pos, Format.steps_zero f⟩
  · have held := (roomy.holds_whole small).nearest (d := 1) (by decide)
    rw [Nat.mul_one] at held
    rw [ofInt_of_ne_zero isZero]
    exact held

theorem ofInt_isFinite (roomy : f.Roomy) (small : n.natAbs ≤ 2 ^ (f.fractionBits + 1)) : (ofInt f n).IsFinite :=
  (ofInt_steps roomy small).1

/-- No other whole number is rounded to zero. -/
theorem ofInt_isZero_iff (roomy : f.Roomy) (small : n.natAbs ≤ 2 ^ (f.fractionBits + 1)) :
    (ofInt f n).IsZero ↔ n = 0 := by
  constructor
  · intro isZero
    have steps := (ofInt_steps roomy small).2
    rw [show (ofInt f n).code = 0 from isZero, Format.steps_zero] at steps
    have scale := Nat.two_pow_pos f.places
    rcases Nat.mul_eq_zero.mp steps.symm with zero | zero
    · exact Int.natAbs_eq_zero.mp zero
    · omega
  · rintro rfl
    rw [ofInt_zero]
    rfl

theorem ofInt_settled (roomy : f.Roomy) (small : n.natAbs ≤ 2 ^ (f.fractionBits + 1)) : (ofInt f n).Settled := by
  by_cases isZero : n = 0
  · subst n
    rw [ofInt_zero]
    exact settle_zero false
  · exact settle_of_finite (ofInt_isFinite roomy small) (isZero ∘ (ofInt_isZero_iff roomy small).mp)

theorem ofInt_signedSteps (roomy : f.Roomy) (small : n.natAbs ≤ 2 ^ (f.fractionBits + 1)) :
    (ofInt f n).signedSteps = n * (2 ^ f.places : Nat) := by
  rw [signedSteps, ofInt_negative, (ofInt_steps roomy small).2]
  by_cases negative : n < 0
  · rw [if_pos (decide_eq_true negative), Int.natCast_mul, ← Int.neg_mul, Int.ofNat_natAbs_of_nonpos (by omega),
      Int.neg_neg]
  · rw [if_neg (by simpa using negative), Int.natCast_mul, Int.natAbs_of_nonneg (by omega)]

/-- Settled, a sum of no steps has no sign to take. -/
theorem settle_ofSteps (zeroSign : Bool) (steps : Int) :
    (ofSteps zeroSign steps : Number f).settle = (ofSteps false steps).settle := by
  by_cases isZero : steps = 0
  · rw [ofSteps, ofSteps, if_pos isZero, if_pos isZero, settle_zero, settle_zero]
  · rw [ofSteps, ofSteps, if_neg isZero, if_neg isZero]

/-- A quotient that is a whole number comes to that number, whatever denominator it is written with. The sign of a
zero does not count. -/
theorem settle_ofQuotient (roomy : f.Roomy) {negative : Bool} {d : Nat} (positive : 0 < d)
    (sign : n ≠ 0 → negative = decide (n < 0)) :
    (ofQuotient negative (n.natAbs * 2 ^ f.places * d) d : Number f).settle = (ofInt f n).settle := by
  by_cases isZero : n = 0
  · subst n
    have held : f.nearest (f.steps 0 * d) d = 0 := Format.nearest_steps roomy.infinityCode_pos positive
    rw [Format.steps_zero] at held
    rw [Int.natAbs_zero, Nat.zero_mul, ofInt_zero, settle_zero]
    exact settle_of_isZero held
  · have reduced := Format.nearest_mul_right (f := f) (n.natAbs * 2 ^ f.places) 1 positive
    rw [Nat.one_mul] at reduced
    rw [ofInt_of_ne_zero isZero, sign isZero]
    congr 1
    ext
    · rfl
    · exact reduced

/-- A product is negative if just one of its factors is. -/
theorem bne_negative (first : a ≠ 0) (second : b ≠ 0) :
    (decide (a < 0) != decide (b < 0)) = decide (a * b < 0) := by
  rw [Bool.eq_iff_iff, bne_iff_ne, decide_eq_true_iff, mul_neg_iff]
  simp only [ne_eq, decide_eq_decide]
  omega

section Arithmetic

variable (roomy : f.Roomy) (left : a.natAbs ≤ 2 ^ (f.fractionBits + 1))
  (right : b.natAbs ≤ 2 ^ (f.fractionBits + 1))

include roomy left right

theorem add_ofInt : (ofInt f a + ofInt f b).settle = (ofInt f (a + b)).settle := by
  rw [add_of_isFinite (ofInt_isFinite roomy left) (ofInt_isFinite roomy right), settle_ofSteps,
    ofInt_signedSteps roomy left, ofInt_signedSteps roomy right, ← Int.add_mul, ← ofInt]

theorem sub_ofInt : (ofInt f a - ofInt f b).settle = (ofInt f (a - b)).settle := by
  change (ofInt f a + (ofInt f b).neg).settle = _
  rw [add_of_isFinite (ofInt_isFinite roomy left) (isFinite_neg.mpr (ofInt_isFinite roomy right)), settle_ofSteps,
    signedSteps_neg, ofInt_signedSteps roomy left, ofInt_signedSteps roomy right, ← Int.neg_mul, ← Int.add_mul,
    ← Int.sub_eq_add_neg, ← ofInt]

theorem mul_ofInt : (ofInt f a * ofInt f b).settle = (ofInt f (a * b)).settle := by
  have steps : f.steps (ofInt f a).code * f.steps (ofInt f b).code =
      (a * b).natAbs * 2 ^ f.places * 2 ^ f.places := by
    rw [(ofInt_steps roomy left).2, (ofInt_steps roomy right).2, Int.natAbs_mul]
    ac_rfl
  rw [mul_of_isFinite (ofInt_isFinite roomy left) (ofInt_isFinite roomy right), steps, ofInt_negative,
    ofInt_negative]
  apply settle_ofQuotient roomy (Nat.two_pow_pos _)
  intro nonzero
  have first : a ≠ 0 := fun isZero => nonzero (by rw [isZero, Int.zero_mul])
  have second : b ≠ 0 := fun isZero => nonzero (by rw [isZero, Int.mul_zero])
  exact bne_negative first second

/-- A quotient without a remainder is exact. -/
theorem div_ofInt (nonzero : b ≠ 0) (whole : b ∣ a) :
    (ofInt f a / ofInt f b).settle = (ofInt f (a / b)).settle := by
  obtain ⟨c, rfl⟩ := whole
  have steps : f.steps (ofInt f (b * c)).code * 2 ^ f.places =
      c.natAbs * 2 ^ f.places * f.steps (ofInt f b).code := by
    rw [(ofInt_steps roomy left).2, (ofInt_steps roomy right).2, Int.natAbs_mul]
    ac_rfl
  have positive : 0 < f.steps (ofInt f b).code := by
    rw [(ofInt_steps roomy right).2]
    exact Nat.mul_pos (Int.natAbs_pos.mpr nonzero) (Nat.two_pow_pos _)
  rw [div_of_isFinite (ofInt_isFinite roomy left) (ofInt_isFinite roomy right)
    (nonzero ∘ (ofInt_isZero_iff roomy right).mp), steps, ofInt_negative, ofInt_negative,
    Int.mul_ediv_cancel_left _ nonzero]
  apply settle_ofQuotient roomy positive
  intro quotient
  rw [← bne_negative nonzero quotient]
  cases decide (b < 0) <;> cases decide (c < 0) <;> rfl

end Arithmetic

end Number

end Calculator
