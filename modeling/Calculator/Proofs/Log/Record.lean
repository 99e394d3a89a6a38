import Calculator.Log.Event
import Calculator.Proofs.Expression.Entering
import Calculator.Proofs.Expression.Ignoring

namespace Calculator

open Expression (start replay)

namespace Event

/-- What is logged of a key before its application. -/
inductive Announced (e : Expression) : Key → List Event → Prop
  | typed {c : Char} {typeable : Typeable c} : Announced e (.typed c typeable) []
  | taken {op : Operator} : ¬e.Ignores → Announced e (.operator op) []
  | ignored {op : Operator} : e.Ignores → Announced e (.operator op) [operatorIgnored op]
  | finished : Announced e .equals [finalResult e.line e.value.shown]
  | cleared : Announced e .clear [cleared]

/-- The events of a key are what is announced and then its application. -/
theorem ofPress_announced (e : Expression) (k : Key) :
    ∃ before, Announced e k before ∧ ofPress e k = before ++ [keyApplied k (e.press k).line (e.press k).depth] := by
  cases k with
  | typed c typeable => exact ⟨[], .typed, rfl⟩
  | operator op =>
    by_cases ignores : e.Ignores
    · exact ⟨[operatorIgnored op], .ignored ignores, by rw [ofPress, ofOperator, if_pos ignores]⟩
    · exact ⟨[], .taken ignores, by rw [ofPress, ofOperator, if_neg ignores]⟩
  | equals => exact ⟨[ofFinish e], .finished, rfl⟩
  | clear => exact ⟨[cleared], .cleared, rfl⟩

end Event

end Calculator
