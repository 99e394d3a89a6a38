import Calculator.Decimal.Numeral
import Calculator.Expression
import Calculator.Number.Arithmetic
import Calculator.Number.Text

namespace Calculator

/-- The numbers that the calculator computes with. -/
abbrev Value := Number .double

/-- A value as the calculator writes it: the shortest digits that read back, and a zero for what it never
shows. -/
def Value.shown (v : Value) : Text := v.settle.text

/-- One operation. Dividing by zero gives zero, for a display in the middle of typing is no place for an
error. -/
def Operator.apply : Operator → Value → Value → Value
  | plus, x, y => x + y
  | minus, x, y => x - y
  | times, x, y => x * y
  | divide, x, y => if y.IsZero then .zero false else x / y

/-- The value of an operand. An empty place counts zero, and so does a text that is no numeral. -/
def Operand.value (o : Operand) : Value := ((Number.read? .double o.text).getD (.zero false)).settle

/-- The value of an expression. Each result is settled before it is used again, so no operation ever meets an
infinity, a negative zero or an undefined number. -/
def Expression.value : Expression → Value
  | leaf o => o.value
  | node op left right => (op.apply left.value right.value).settle

namespace Expression

/-- An expression on the left of an empty place: an operand as it was entered, anything else by its value. -/
def summary : Expression → Text
  | leaf o => o.text
  | e => e.value.shown

/-- The large figure: the operand being typed or, as long as its place is empty, the one before the operator. -/
def readout : Expression → Text
  | leaf o => o.text
  | node _ left (leaf .empty) => left.summary
  | node _ _ right => right.readout

/-- The whole expression. It needs no parentheses, for what would need them has been computed already. -/
def line : Expression → Text
  | leaf o => o.text
  | node op left right => left.line ++ [' ', op.symbol, ' '] ++ right.line

end Expression

end Calculator
