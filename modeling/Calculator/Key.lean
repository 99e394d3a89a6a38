import Calculator.Operator
import Calculator.Text

namespace Calculator

/-- The characters that numerals are typed with: the ten digits and the point. -/
def Typeable (c : Char) : Prop := c.isDigit = true ∨ c = '.'

instance (c : Char) : Decidable (Typeable c) := inferInstanceAs (Decidable (_ ∨ _))

/-- A key of the calculator. -/
inductive Key where
  | typed (c : Char) (typeable : Typeable c)
  | operator (op : Operator)
  | equals
  | clear
deriving DecidableEq

/-- A character that is no key, and how many characters stand before it. -/
structure UnknownKey where
  char : Char
  position : Nat
deriving DecidableEq

namespace UnknownKey

/-- What the user is told, with the character in quotes. -/
def message (e : UnknownKey) : Text :=
  "touche inconnue ".toList ++ quoted '\'' [e.char] ++ " (position ".toList ++ Nat.toDigits 10 e.position ++
    [')']

end UnknownKey

namespace Key

/-- The key of the point. -/
def point : Key := typed '.' (Or.inr rfl)

/-- The key a character stands for: a comma is another point, and the letter for clear has both cases. -/
def ofChar? (c : Char) : Option Key :=
  if typeable : Typeable c then some (typed c typeable)
  else if c = ',' then some point
  else if c = '=' then some equals
  else if c = 'c' ∨ c = 'C' then some clear
  else (Operator.ofChar? c).map operator

/-- What stands on a key. -/
def label : Key → Text
  | typed c _ => [c]
  | operator op => [op.symbol]
  | equals => ['=']
  | clear => "Clear".toList

/-- The keys of a text from a position on, blanks left out, or the first character that is neither. -/
def readFrom (position : Nat) : Text → Except UnknownKey (List Key)
  | [] => .ok []
  | c :: rest =>
    if isBlank c then readFrom (position + 1) rest
    else
      match ofChar? c with
      | none => .error ⟨c, position⟩
      | some k => (readFrom (position + 1) rest).map (k :: ·)

/-- The keys of a text. Either all of it reads or none: a key text is never applied in part. -/
def read (t : Text) : Except UnknownKey (List Key) := readFrom 0 t

end Key

end Calculator
