namespace Calculator

/-- The four operators of the calculator. -/
inductive Operator where
  | plus
  | minus
  | times
  | divide
deriving DecidableEq

namespace Operator

/-- The sign an operator is shown with. -/
def symbol : Operator → Char
  | plus => '+'
  | minus => '-'
  | times => '*'
  | divide => '/'

/-- Products and quotients bind tighter than sums and differences. -/
def precedence : Operator → Nat
  | plus | minus => 1
  | times | divide => 2

/-- The operator a character stands for. Besides its own sign an operator has the typographic ones, and
multiplication the letter that looks like its sign. -/
def ofChar? : Char → Option Operator
  | '+' => some plus
  | '-' | '−' => some minus
  | '*' | '×' | 'x' | 'X' => some times
  | '/' | '÷' => some divide
  | _ => none

@[simp] theorem ofChar?_symbol (op : Operator) : ofChar? op.symbol = some op := by cases op <;> rfl

end Operator

end Calculator
