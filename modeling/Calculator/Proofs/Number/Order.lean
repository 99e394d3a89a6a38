import Calculator.Proofs.Number.Overflow
import Mathlib.Order.WithBotTop

namespace Calculator

namespace Format

variable {f : Format} {a b : Nat}

theorem steps_eq_zero_iff : f.steps a = 0 ↔ a = 0 :=
  ⟨fun zero => by_contra fun nonzero => steps_ne_zero nonzero zero, fun zero => zero ▸ steps_zero f⟩

/-- Finite magnitudes stand in the order of their codes. -/
theorem steps_le_iff (left : a < f.infinityCode) (right : b < f.infinityCode) : f.steps a ≤ f.steps b ↔ a ≤ b := by
  have order {a b : Nat} (left : a < f.infinityCode) (right : b < f.infinityCode) (le : f.steps a ≤ f.steps b) :
      a ≤ b := by
    have rounded := nearest_mono (f := f) 1 le
    have first := nearest_steps left (d := 1) Nat.one_pos
    have second := nearest_steps right (d := 1) Nat.one_pos
    rw [Nat.mul_one] at first second
    rwa [first, second] at rounded
  refine ⟨order left right, ?_⟩
  intro le
  rcases Nat.le_total (f.steps a) (f.steps b) with steps | steps
  · exact steps
  · rw [Nat.le_antisymm le (order right left steps)]

end Format

namespace Number

variable {f : Format} {x y z : Number f}

/-- What a number is worth, whatever its format, with the infinities below and above all else. -/
def worth (x : Number f) : WithBot (WithTop ℚ) :=
  if x.IsFinite then ((x.toRat : WithTop ℚ) : WithBot (WithTop ℚ)) else if x.negative then ⊥ else ⊤

/-- Numbers are compared by what they are worth, so the zeros are equal. What is undefined compares with nothing. -/
instance : LE (Number f) := ⟨fun x y => ¬x.IsUndefined ∧ ¬y.IsUndefined ∧ x.worth ≤ y.worth⟩

theorem isFinite_or_isInfinite (defined : ¬x.IsUndefined) : x.IsFinite ∨ x.IsInfinite :=
  Nat.lt_or_eq_of_le (Nat.not_lt.mp defined)

theorem worth_of_isFinite (finite : x.IsFinite) : x.worth = ((x.toRat : WithTop ℚ) : WithBot (WithTop ℚ)) :=
  if_pos finite

theorem worth_of_isInfinite (infinite : x.IsInfinite) : x.worth = if x.negative then ⊥ else ⊤ :=
  if_neg fun finite => finite.not_isInfinite infinite

/-- The finite numbers have their places between those of the infinities. -/
theorem rank_of_isFinite (finite : x.IsFinite) : -(f.infinityCode : Int) < x.rank ∧ x.rank < f.infinityCode := by
  unfold IsFinite at finite
  unfold rank
  split_ifs <;> omega

theorem rank_of_isInfinite (infinite : x.IsInfinite) :
    x.rank = if x.negative then -(f.infinityCode : Int) else f.infinityCode := by
  rw [rank, show x.code = f.infinityCode from infinite]

/-- Finite numbers are ordered by their places. -/
theorem toRat_le_iff (left : x.IsFinite) (right : y.IsFinite) : x.toRat ≤ y.toRat ↔ x.rank ≤ y.rank := by
  have above := Format.steps_le_iff left right
  have below := Format.steps_le_iff right left
  have first := Format.steps_eq_zero_iff (f := f) (a := x.code)
  have second := Format.steps_eq_zero_iff (f := f) (a := y.code)
  rw [toRat, toRat, div_le_div_iff_of_pos_right (scale_pos f), Int.cast_le, signedSteps, signedSteps, rank, rank]
  split_ifs <;> omega

/-- The place of a number in the order agrees with what it is worth. -/
theorem worth_le_iff (room : 0 < f.infinityCode) (left : ¬x.IsUndefined) (right : ¬y.IsUndefined) :
    x.worth ≤ y.worth ↔ x.rank ≤ y.rank := by
  rcases isFinite_or_isInfinite left with first | first <;> rcases isFinite_or_isInfinite right with second | second
  · rw [worth_of_isFinite first, worth_of_isFinite second, WithBot.coe_le_coe, WithTop.coe_le_coe,
      toRat_le_iff first second]
  · have inside := rank_of_isFinite first
    rw [worth_of_isFinite first, worth_of_isInfinite second, rank_of_isInfinite second]
    split_ifs
    · simpa using inside.1
    · simpa using inside.2.le
  · have inside := rank_of_isFinite second
    rw [worth_of_isInfinite first, worth_of_isFinite second, rank_of_isInfinite first]
    split_ifs
    · simpa using inside.1.le
    · simpa using inside.2
  · rw [worth_of_isInfinite first, worth_of_isInfinite second, rank_of_isInfinite first, rank_of_isInfinite second]
    split_ifs <;> simp [room.ne']

protected theorem le_refl (defined : ¬x.IsUndefined) : x ≤ x := ⟨defined, defined, le_rfl⟩

protected theorem le_trans (first : x ≤ y) (second : y ≤ z) : x ≤ z :=
  ⟨first.1, second.2.1, first.2.2.trans second.2.2⟩

section Larger

variable (room : 0 < f.infinityCode)

include room

/-- What is as large as a bound is kept. -/
theorem max_of_le (le : y ≤ x) : x.max y = x := by
  have rank := (worth_le_iff room le.1 le.2.1).mp le.2.2
  rw [max, if_neg le.2.1, if_neg le.1, if_neg (Int.not_lt.mpr rank)]

/-- What is not as large as a bound gives way to it, and so does what is undefined. -/
theorem max_of_not_le (defined : ¬y.IsUndefined) (short : ¬y ≤ x) : x.max y = y := by
  by_cases undefined : x.IsUndefined
  · rw [max, if_pos undefined]
  · have rank : x.rank < y.rank := by
      rw [← Int.not_le, ← worth_le_iff room defined undefined]
      exact fun worth => short ⟨defined, undefined, worth⟩
    rw [max, if_neg undefined, if_neg defined, if_pos rank]

end Larger

end Number

end Calculator
