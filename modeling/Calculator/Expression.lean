import Calculator.Operator
import Calculator.Text

namespace Calculator

/-- One place of an expression. -/
inductive Operand where
  /-- Nothing has been typed here yet. -/
  | empty
  /-- A numeral that further typing extends. -/
  | typed (t : Text)
  /-- A final result: typing starts a new numeral in its place. -/
  | closed (t : Text)
deriving DecidableEq

namespace Operand

/-- What an operand shows. -/
def text : Operand → Text
  | empty => []
  | typed t => t
  | closed t => t

/-- An open operand with a text; the empty text is the empty place. -/
def ofText (t : Text) : Operand := if t = [] then empty else typed t

/-- The numeral that a typed character is added to. After a final result that is the initial zero again. -/
def base : Operand → Text
  | empty => []
  | typed t => t
  | closed _ => ['0']

/-- The operand after one more character. A second point changes nothing, and a digit takes the place of a lone
zero, so that no numeral has two points or a superfluous leading zero. -/
def extend (o : Operand) (c : Char) : Operand :=
  if c = '.' ∧ '.' ∈ o.base then typed o.base
  else if c ≠ '.' ∧ o.base = ['0'] then typed [c]
  else typed (o.base ++ [c])

end Operand

/-- What has been entered: operands joined by operators. Typing changes the rightmost operand only. -/
inductive Expression where
  | leaf (operand : Operand)
  | node (op : Operator) (left right : Expression)
deriving DecidableEq

namespace Expression

/-- An open operand with a text. -/
def ofText (t : Text) : Expression := leaf (.ofText t)

/-- The expression at the start and after clear: a zero that the first digit replaces. -/
def start : Expression := ofText ['0']

theorem start_eq : start = leaf (.typed ['0']) := rfl

/-- The operand that typing changes. -/
def rightmost : Expression → Operand
  | leaf o => o
  | node _ _ right => right.rightmost

/-- The expression with its rightmost operand replaced. -/
def mapRightmost (f : Operand → Operand) : Expression → Expression
  | leaf o => leaf (f o)
  | node op left right => node op left (right.mapRightmost f)

/-- How many operators stand on the way to the rightmost operand. -/
def depth : Expression → Nat
  | leaf _ => 0
  | node _ _ right => right.depth + 1

/-- An operator still waits for its right operand, or nothing has been entered at all. -/
def Awaiting (e : Expression) : Prop := e.rightmost = .empty

instance (e : Expression) : Decidable e.Awaiting := inferInstanceAs (Decidable (_ = _))

@[simp] theorem rightmost_mapRightmost (f : Operand → Operand) (e : Expression) :
    (e.mapRightmost f).rightmost = f e.rightmost := by
  induction e with
  | leaf => rfl
  | node _ _ _ _ ih => exact ih

end Expression

end Calculator
