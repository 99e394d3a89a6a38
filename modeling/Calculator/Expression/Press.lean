import Calculator.Expression.Value
import Calculator.Key

namespace Calculator.Expression

/-- The value of an expression as one open operand. -/
def folded (e : Expression) : Expression := ofText e.value.shown

/-- The final result, which the next digit starts over from. -/
def finish (e : Expression) : Expression := leaf (.closed e.value.shown)

/-- A typed character goes to the rightmost operand; one that no numeral has changes nothing. -/
def typeChar (e : Expression) (c : Char) : Expression :=
  if Typeable c then e.mapRightmost (·.extend c) else e

/-- An operator after a node that still waits for an operand is ignored. -/
def Ignores : Expression → Prop
  | leaf _ => False
  | node _ _ right => right.Awaiting

instance (e : Expression) : Decidable e.Ignores :=
  match e with
  | leaf _ => inferInstanceAs (Decidable False)
  | node _ _ right => inferInstanceAs (Decidable right.Awaiting)

/-- An operator takes a lone operand as its left one. At a node, one that binds tighter takes the right side
only; any other takes the whole, which is how operators of one precedence group to the left. -/
def applyOperator (e : Expression) (op : Operator) : Expression :=
  match e with
  | leaf o => node op (leaf o) (leaf .empty)
  | node top left right =>
    if right.Awaiting then node top left right
    else if top.precedence < op.precedence then node top left (node op right.folded (leaf .empty))
    else node op (node top left right).folded (leaf .empty)

/-- The expression after a key. -/
def press (e : Expression) : Key → Expression
  | .typed c _ => e.typeChar c
  | .operator op => e.applyOperator op
  | .equals => e.finish
  | .clear => start

/-- The expression after keys pressed one after another. -/
def run (e : Expression) (keys : List Key) : Expression := keys.foldl press e

/-- The expression after the keys of a text, pressed from the start. -/
def replay (t : Text) : Except UnknownKey Expression := (Key.read t).map start.run

@[simp] theorem run_nil (e : Expression) : e.run [] = e := rfl

@[simp] theorem run_cons (e : Expression) (k : Key) (keys : List Key) :
    e.run (k :: keys) = (e.press k).run keys := rfl

@[simp] theorem run_append (e : Expression) (first second : List Key) :
    e.run (first ++ second) = (e.run first).run second := List.foldl_append

end Calculator.Expression
