import Calculator.Proofs.Expression.Places

namespace Calculator

namespace Operand

theorem value_settled (o : Operand) : o.value.Settled := Number.settle_settled _

theorem value_empty : empty.value = .zero false := rfl

theorem value_zero : (typed ['0']).value = .zero false := by
  rw [value, text, Value.read?_zero]
  rfl

/-- Writing a value down and reading it again loses nothing. -/
theorem value_of_text {o : Operand} {v : Value} (shown : o.text = v.shown) : o.value = v.settle := by
  rw [value, shown, Value.read?_shown, Option.getD_some, v.settle_settled]

end Operand

namespace Expression

/-- Every value on the way is settled. -/
theorem value_settled (e : Expression) : e.value.Settled := by
  cases e with
  | leaf o => exact o.value_settled
  | node => exact Number.settle_settled _

/-- Folding keeps the value. -/
theorem value_folded (e : Expression) : e.folded.value = e.value := by
  rw [folded_eq, value, Operand.value_of_text rfl, e.value_settled]

/-- A final result has the value of what it ends. -/
theorem value_finish (e : Expression) : e.finish.value = e.value := by
  rw [finish, value, Operand.value_of_text rfl, e.value_settled]

theorem folded_of_value {a b : Expression} (value : a.value = b.value) : a.folded = b.folded := by
  rw [folded, folded, value]

theorem finish_of_value {a b : Expression} (value : a.value = b.value) : a.finish = b.finish := by
  rw [finish, finish, value]

end Expression

/-- The text of a value is a number as it is written out: digits, perhaps with a point and a minus. As an open
operand or as a final result it has bit for bit the value that was written, once settled, so two values share their
text only if they settle to the same bits. -/
theorem Value.shown_faithful :
    (∀ v : Value, Canonical v.shown ∧ v.shown ≠ [] ∧ v.shown ≠ "-0".toList ∧
        (∀ c ∈ v.shown, c.isDigit = true ∨ c = '.' ∨ c = '-') ∧
        (Expression.ofText v.shown).value.toWord = v.settle.toWord ∧
        (Expression.leaf (.closed v.shown)).value.toWord = v.settle.toWord) ∧
      ∀ v w : Value, v.shown = w.shown ↔ v.settle.toWord = w.settle.toWord := by
  constructor
  · intro v
    have canonical := v.shown_canonical
    have typed : (Operand.typed v.shown).value = v.settle := Operand.value_of_text rfl
    have closed : (Operand.closed v.shown).value = v.settle := Operand.value_of_text rfl
    refine ⟨canonical, canonical.ne_nil, canonical.ne_minus_zero, fun c => canonical.char, ?_, ?_⟩
    · rw [Expression.ofText_of_ne_nil canonical.ne_nil, Expression.value, typed]
    · rw [Expression.value, closed]
  · intro v w
    rw [Value.shown_inj, Number.toWord_inj]

namespace Operator

variable {op : Operator} {x y : Value}

theorem divide_by_zero (zero : y.IsZero) : divide.apply x y = .zero false := if_pos zero

theorem divide_by_nonzero (nonzero : ¬y.IsZero) : divide.apply x y = x / y := if_neg nonzero

/-- Products and quotients of values that are not negative are not negative. -/
theorem apply_negative (tight : op.Tight) (left : x.Settled) (right : y.Settled) (first : x.negative = false)
    (second : y.negative = false) : (op.apply x y).settle.negative = false := by
  have leftFinite := left.isFinite Value.room
  have rightFinite := right.isFinite Value.room
  apply Number.settle_negative
  rcases tight with rfl | rfl
  · change (x * y).negative = false
    rw [Number.mul_negative leftFinite rightFinite, first, second]
    rfl
  · by_cases zero : y.IsZero
    · rw [divide_by_zero zero]
      rfl
    · rw [divide_by_nonzero zero, Number.div_negative leftFinite rightFinite zero, first, second]
      rfl

/-- The sign of the first factor may be taken out, for rounding treats both signs alike. -/
theorem apply_neg_left (tight : op.Tight) (left : x.Settled) (right : y.Settled) :
    (op.apply x.neg y).settle = (op.apply x y).settle.neg.settle := by
  have leftFinite := left.isFinite Value.room
  have rightFinite := right.isFinite Value.room
  rw [Number.settle_neg_settle]
  rcases tight with rfl | rfl
  · exact congrArg Number.settle (Number.mul_neg_left leftFinite rightFinite)
  · by_cases zero : y.IsZero
    · rw [divide_by_zero zero, divide_by_zero zero]
      exact (Number.settle_zero true).symm
    · rw [divide_by_nonzero zero, divide_by_nonzero zero, Number.div_neg_left leftFinite rightFinite zero]

/-- The difference from nought is the opposite. -/
theorem zero_minus (settled : x.Settled) : (minus.apply (.zero false) x).settle = x.neg.settle :=
  Number.zero_sub_settle settled Value.room

end Operator

end Calculator
