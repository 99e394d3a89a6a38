import Calculator.Proofs.Expression.Value

namespace Calculator.Expression

/-- After a final result a digit or the point does what it does at the start: a closed operand gives way to the
initial nought. -/
theorem press_typed_of_equals (e : Expression) {c : Char} (typeable : Typeable c) :
    (e.press .equals).press (.typed c typeable) = start.press (.typed c typeable) := by
  have finished : (e.press .equals).press (.typed c typeable) = leaf (Operand.extend (.closed e.value.shown) c) :=
    if_pos typeable
  have initial : start.press (.typed c typeable) = leaf (Operand.extend (.typed ['0']) c) := if_pos typeable
  rw [finished, initial]
  rfl

/-- An operator takes the whole of an expression as its left operand: the expression is a node that waits for
nothing, and its own operator binds no looser. -/
def TakenWhole (e : Expression) (op : Operator) : Prop :=
  match e with
  | leaf _ => False
  | node top _ right => ¬right.Awaiting ∧ op.precedence ≤ top.precedence

instance (e : Expression) (op : Operator) : Decidable (e.TakenWhole op) :=
  match e with
  | leaf _ => inferInstanceAs (Decidable False)
  | node _ _ _ => inferInstanceAs (Decidable (_ ∧ _))

theorem TakenWhole.applyOperator_eq {e : Expression} {op : Operator} (whole : e.TakenWhole op) :
    e.applyOperator op = node op e.folded (leaf .empty) := by
  match e, whole with
  | node top left right, ⟨entered, low⟩ => rw [applyOperator, if_neg entered, if_neg (Nat.not_lt.mpr low)]

/-- An operator that takes two expressions of one value makes the same of both. -/
theorem TakenWhole.applyOperator_of_value {a b : Expression} {op : Operator} (first : a.TakenWhole op)
    (second : b.TakenWhole op) (value : a.value = b.value) : a.applyOperator op = b.applyOperator op := by
  rw [first.applyOperator_eq, second.applyOperator_eq, folded_of_value value]

/-- Nothing is left of what was entered before clear, nor before equals if a digit or the point comes next. Whatever
comes after equals, and whatever comes after an operator that takes all that was entered, only the value is left. -/
theorem run_forgets :
    (∀ before after c typeable, start.run (before ++ .equals :: .typed c typeable :: after) =
      start.run (.typed c typeable :: after)) ∧
    (∀ before after, start.run (before ++ .clear :: after) = start.run after) ∧
    (∀ before other, (start.run before).value = (start.run other).value →
      ∀ after, start.run (before ++ .equals :: after) = start.run (other ++ .equals :: after)) ∧
    ∀ (a b : Expression) op, a.TakenWhole op → b.TakenWhole op → a.value = b.value →
      ∀ after, a.run (.operator op :: after) = b.run (.operator op :: after) := by
  refine ⟨?_, ?_, ?_, ?_⟩
  · intro before after c typeable
    rw [run_append, run_cons, run_cons, press_typed_of_equals, ← run_cons]
  · intro before after
    rw [run_append, run_cons]
    rfl
  · intro before other value after
    have finished : (start.run before).press .equals = (start.run other).press .equals := finish_of_value value
    rw [run_append, run_cons, finished, ← run_cons, ← run_append]
  · intro a b op first second value after
    have taken : a.press (.operator op) = b.press (.operator op) := first.applyOperator_of_value second value
    rw [run_cons, taken, ← run_cons]

/-- Six as a product that was typed, as a difference, and as a product of a sum that no keys lead to. -/
theorem run_forgets_six :
    let typed := "2*3".toList.filterMap Key.ofChar?
    let other := "10-4".toList.filterMap Key.ofChar?
    let sum := node .times (node .plus (leaf (.typed ['2'])) (leaf (.closed ['1']))) (leaf (.typed ['2']))
    (start.run typed).value = (start.run other).value ∧
      start.run (typed ++ [.equals, .operator .plus]) = start.run (other ++ [.equals, .operator .plus]) ∧
      (start.run typed).TakenWhole .divide ∧ sum.TakenWhole .divide ∧ (start.run typed).value = sum.value ∧
      (start.run typed).run [.operator .divide, .point] = sum.run [.operator .divide, .point] := by
  intro typed other sum
  obtain ⟨_, _, equals, operator⟩ := run_forgets
  have same : (start.run typed).value = (start.run other).value := by decide +kernel
  have first : (start.run typed).TakenWhole .divide := by decide +kernel
  have second : sum.TakenWhole .divide := by decide +kernel
  have value : (start.run typed).value = sum.value := by decide +kernel
  exact ⟨same, equals typed other same _, first, second, value, operator _ _ .divide first second value _⟩

end Calculator.Expression
