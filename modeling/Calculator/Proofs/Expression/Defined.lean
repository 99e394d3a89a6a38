import Calculator.Proofs.Expression.Value
import Calculator.Proofs.Number.Overflow

namespace Calculator

namespace Number

variable {f : Format} {x : Number f}

/-- Settled numbers are the finite ones but for the negative zero. -/
theorem settled_iff (room : 0 < f.infinityCode) : x.Settled ↔ x.IsFinite ∧ x ≠ zero true := by
  constructor
  · intro settled
    refine ⟨settled.isFinite room, ?_⟩
    rintro rfl
    have same : (zero false : Number f) = zero true := (settle_zero true).symm.trans settled
    cases congrArg negative same
  · rintro ⟨finite, other⟩
    by_cases isZero : x.IsZero
    · have positive : x.negative = false := by
        by_contra minus
        exact other (Number.ext (Bool.eq_true_of_not_eq_false minus) isZero)
      exact (settle_of_isZero isZero).trans (Number.ext positive.symm isZero.symm)
    · exact settle_of_finite finite isZero

/-- Of what is defined at all, settling replaces the infinities and the negative zero. -/
theorem settled_or (room : 0 < f.infinityCode) (defined : ¬x.IsUndefined) :
    x.Settled ∨ x = zero true ∨ x.IsInfinite := by
  by_cases finite : x.IsFinite
  · by_cases minus : x = zero true
    · exact Or.inr (Or.inl minus)
    · exact Or.inl ((settled_iff room).mpr ⟨finite, minus⟩)
  · exact Or.inr (Or.inr (Nat.le_antisymm (Nat.not_lt.mp defined) (Nat.not_lt.mp finite)))

end Number

namespace Operator

/-- The operation as arithmetic has it, with no exception for a divisor that is zero. -/
def compute : Operator → Value → Value → Value
  | plus, x, y => x + y
  | minus, x, y => x - y
  | times, x, y => x * y
  | divide, x, y => x / y

/-- The operation on exact quantities. -/
def exact : Operator → ℚ → ℚ → ℚ
  | plus, p, q => p + q
  | minus, p, q => p - q
  | times, p, q => p * q
  | divide, p, q => p / q

/-- Division by zero, which is not carried out. -/
def Declines (op : Operator) (y : Value) : Prop := op = divide ∧ y.IsZero

variable {op : Operator} {x y : Value}

theorem apply_of_declines (declines : op.Declines y) : op.apply x y = .zero false := by
  obtain ⟨rfl, zero⟩ := declines
  exact divide_by_zero zero

theorem apply_of_not_declines (accepts : ¬op.Declines y) : op.apply x y = op.compute x y := by
  cases op with
  | plus => rfl
  | minus => rfl
  | times => rfl
  | divide => exact divide_by_nonzero fun zero => accepts ⟨rfl, zero⟩

section Finite

variable (left : x.IsFinite) (right : y.IsFinite) (accepts : ¬op.Declines y)

include left right accepts

/-- What is carried out on finite operands has a result. -/
theorem not_isUndefined_compute : ¬(op.compute x y).IsUndefined := by
  cases op with
  | plus => exact Number.not_isUndefined_add left right
  | minus => exact Number.not_isUndefined_sub left right
  | times => exact Number.not_isUndefined_mul left right
  | divide => exact Number.not_isUndefined_div left right fun zero => accepts ⟨rfl, zero⟩

/-- If that result is infinite, then the exact one is too large for any finite number. -/
theorem exceeded_compute (infinite : (op.compute x y).IsInfinite) :
    Format.double.Exceeded (op.exact x.toRat y.toRat) := by
  cases op with
  | plus => exact Number.exceeded_add left right infinite
  | minus => exact Number.exceeded_sub left right infinite
  | times => exact Number.exceeded_mul left right infinite
  | divide => exact Number.exceeded_div left right (fun zero => accepts ⟨rfl, zero⟩) infinite

end Finite

/-- What holds of an operation in the course of computing a value: it is carried out on operands that are finite and
no negative zeros, its divisor is not zero, it has a result, and if settling changes that result then because it is
a negative zero or because the exact one is too large. -/
structure Sound (op : Operator) (x y : Value) : Prop where
  operands : (x.IsFinite ∧ x ≠ .zero true) ∧ y.IsFinite ∧ y ≠ .zero true
  declined : op.Declines y → op.apply x y = .zero false
  carried_out : ¬op.Declines y → op.apply x y = op.compute x y
  defined : ¬(op.apply x y).IsUndefined
  settles : (op.apply x y).settle = op.apply x y ∨ op.apply x y = .zero true ∨
    (op.apply x y).IsInfinite ∧ Format.double.Exceeded (op.exact x.toRat y.toRat)

/-- On settled operands every operation is sound: a division by zero is not carried out, and what is carried out has
finite operands. -/
theorem sound_of_settled (op : Operator) (first : x.Settled) (second : y.Settled) : op.Sound x y := by
  have left := (Number.settled_iff Value.room).mp first
  have right := (Number.settled_iff Value.room).mp second
  by_cases declines : op.Declines y
  · have result : op.apply x y = .zero false := apply_of_declines declines
    refine ⟨⟨left, right⟩, fun _ => result, absurd declines, ?_, Or.inl ?_⟩
    · rw [result]
      exact Nat.not_lt_zero _
    · rw [result, Number.settle_zero]
  · have result : op.apply x y = op.compute x y := apply_of_not_declines declines
    have defined := not_isUndefined_compute left.1 right.1 declines
    refine ⟨⟨left, right⟩, fun other => absurd other declines, fun _ => result, ?_, ?_⟩
    · rw [result]
      exact defined
    · rw [result]
      rcases Number.settled_or Value.room defined with settled | minus | infinite
      · exact Or.inl settled
      · exact Or.inr (Or.inl minus)
      · exact Or.inr (Or.inr ⟨infinite, exceeded_compute left.1 right.1 declines infinite⟩)

end Operator

namespace Expression

/-- Whatever the texts of its operands, an expression has a finite value that is no negative zero, so settling
leaves it alone; and every operation on the way to it is a sound one. -/
theorem value_defined :
    (∀ e : Expression, e.value.IsFinite ∧ e.value ≠ .zero true ∧ e.value.settle = e.value) ∧
    ∀ op left right, (node op left right).value = (op.apply left.value right.value).settle ∧
      op.Sound left.value right.value := by
  constructor
  · intro e
    have settled := e.value_settled
    obtain ⟨finite, other⟩ := (Number.settled_iff Value.room).mp settled
    exact ⟨finite, other, settled⟩
  · intro op left right
    exact ⟨rfl, op.sound_of_settled left.value_settled right.value_settled⟩

example : (node .times (leaf (.typed "1e308".toList)) (leaf (.typed "10".toList))).value = .zero false ∧
    (Operator.times.apply (leaf (.typed "0".toList)).value (leaf (.closed "-1".toList)).value) = .zero true := by
  decide +kernel

end Expression

end Calculator
