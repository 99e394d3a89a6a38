import Calculator.Proofs.Expression.Forgetting
import Calculator.Proofs.Expression.Ignoring
import Calculator.Proofs.Expression.Tidying

namespace Calculator

/-- The operand that characters make of an empty place. -/
def Operand.filling (s : Text) : Operand := s.foldl extend empty

/-- It is the numeral that they write, tidied. -/
theorem Operand.filling_eq {s : Text} (typeable : ∀ c ∈ s, Typeable c) (nonempty : s ≠ []) :
    filling s = typed (tidy s) :=
  foldl_extend_of_tidy rfl (fun _ member => absurd member List.not_mem_nil) typeable nonempty

namespace Expression

/-- The operator on top of an expression binds looser than another and leaves its right side to it. -/
def Defers (e : Expression) (op : Operator) : Prop :=
  match e with
  | leaf _ => False
  | node top _ _ => top.precedence < op.precedence

instance (e : Expression) (op : Operator) : Decidable (e.Defers op) :=
  match e with
  | leaf _ => inferInstanceAs (Decidable False)
  | node _ _ _ => inferInstanceAs (Decidable (_ < _))

variable {op : Operator} {s : Text}

/-- An empty place is filled and nothing else changes. -/
theorem enter_of_awaiting {e : Expression} (awaiting : e.Awaiting) (typeable : ∀ c ∈ s, Typeable c) :
    e.enter s = e.mapRightmost fun _ => .filling s := by
  rw [enter_typeable e typeable]
  apply mapRightmost_congr
  rw [show e.rightmost = .empty from awaiting]
  rfl

/-- Where the right side is left to it, an operator takes the value of that side. -/
theorem applyOperator_of_defers {top : Operator} {left right : Expression}
    (entered : ¬(node top left right).Ignores)
    (defers : (node top left right).Defers op) :
    (node top left right).applyOperator op = node top left (node op right.folded (leaf .empty)) := by
  obtain ⟨loose, tight⟩ := (Operator.precedence_lt_iff top op).mp defers
  exact applyOperator_of_climbs entered loose tight

/-- Where the right side is not left to it, an operator has all that was entered on its left, with the value it had.
-/
theorem applyOperator_of_not_defers {e : Expression} (entered : ¬e.Ignores) (whole : ¬e.Defers op) :
    ∃ left, e.applyOperator op = node op left (leaf .empty) ∧ left.value = e.value := by
  cases e with
  | leaf o => exact ⟨leaf o, rfl, rfl⟩
  | node top left right =>
    have taken : (node top left right).TakenWhole op := ⟨entered, Nat.not_lt.mp whole⟩
    exact ⟨_, taken.applyOperator_eq, value_folded _⟩

/-- What an operator and the operand typed after it make of any expression at all. Under an operator that binds
looser they work on its right side alone, and the left side stays as it is; everywhere else they work on the value
of the whole. Where an operand is awaited already the operator is ignored, and what is typed fills the empty place.
-/
theorem value_after_operator (op : Operator) {s : Text} (typeable : ∀ c ∈ s, Typeable c) (nonempty : s ≠ []) :
    (∀ top left right, ¬(node top left right).Ignores → top.precedence < op.precedence →
      ∃ last, ((node top left right).press (.operator op)).enter s = node top left last ∧
        (node top left last).value =
          (top.apply left.value (op.apply right.value (Operand.filling s).value).settle).settle) ∧
    (∀ e : Expression, ¬e.Ignores → ¬e.Defers op →
      ((e.press (.operator op)).enter s).value = (op.apply e.value (Operand.filling s).value).settle) ∧
    (∀ e : Expression, e.Ignores → e.press (.operator op) = e ∧ e.enter s = e.mapRightmost fun _ => .filling s) ∧
    Operand.filling s = .typed (tidy s) := by
  refine ⟨?_, ?_, ?_, Operand.filling_eq typeable nonempty⟩
  · intro top left right entered defers
    refine ⟨node op right.folded (leaf (.filling s)), ?_, ?_⟩
    · rw [press, applyOperator_of_defers entered defers]
      exact enter_of_awaiting rfl typeable
    · rw [value, value, value_folded, value]
  · intro e entered whole
    obtain ⟨left, taken, same⟩ := applyOperator_of_not_defers entered whole
    have filled : (node op left (leaf .empty)).enter s = node op left (leaf (.filling s)) :=
      enter_of_awaiting rfl typeable
    rw [press, taken, filled, value, same, value]
  · intro e ignores
    exact ⟨ignores.applyOperator_eq op, enter_of_awaiting ignores.awaiting typeable⟩

/-- A product after a sum, after a product that no keys lead to, and after a sum that still waits. -/
theorem value_after_operator_product :
    let s := "03".toList
    let sum := node .plus (leaf (.typed ['1'])) (leaf (.typed ['2']))
    let product := node .times sum (leaf (.closed "inf".toList))
    let waiting := node .minus product (leaf .empty)
    (∀ c ∈ s, Typeable c) ∧ s ≠ [] ∧ ¬sum.Ignores ∧ Operator.plus.precedence < Operator.times.precedence ∧
      ¬product.Ignores ∧ ¬product.Defers .times ∧ waiting.Ignores ∧
      (∃ last, (sum.press (.operator .times)).enter s = node .plus (leaf (.typed ['1'])) last ∧
        (node .plus (leaf (.typed ['1'])) last).value.shown = ['7']) ∧
      ((product.press (.operator .times)).enter s).value =
        (Operator.times.apply product.value (Operand.filling s).value).settle ∧
      waiting.press (.operator .times) = waiting ∧
      waiting.enter s = node .minus product (leaf (.filling s)) ∧ Operand.filling s = .typed ['3'] := by
  intro s sum product waiting
  have typeable : ∀ c ∈ s, Typeable c := by simp [s, Typeable]
  have nonempty : s ≠ [] := by decide
  have tighter : Operator.plus.precedence < Operator.times.precedence := by decide
  obtain ⟨right, whole, ignored, filled⟩ := value_after_operator .times typeable nonempty
  obtain ⟨last, form, value⟩ := right .plus (leaf (.typed ['1'])) (leaf (.typed ['2'])) (by decide) tighter
  obtain ⟨same, entered⟩ := ignored waiting (by decide)
  refine ⟨typeable, nonempty, by decide, tighter, by decide, by decide, by decide, ⟨last, form, ?_⟩,
    whole product (by decide) (by decide), same, entered, filled⟩
  rw [value]
  decide +kernel

end Expression

end Calculator
