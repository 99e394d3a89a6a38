import Calculator.Text

namespace Calculator

/-- How much detail a log event is: the later in this list, the more. -/
inductive Level where
  | error
  | warn
  | info
  | debug
  | trace
deriving DecidableEq

namespace Level

/-- The place of a level, counted from the most severe. -/
def rank : Level → Nat
  | error => 1
  | warn => 2
  | info => 3
  | debug => 4
  | trace => 5

/-- The name of a level in a log line. -/
def name : Level → Text
  | error => "ERROR".toList
  | warn => "WARN".toList
  | info => "INFO".toList
  | debug => "DEBUG".toList
  | trace => "TRACE".toList

/-- The levels from the most severe on. -/
def all : List Level := [error, warn, info, debug, trace]

end Level

/-- How much detail is let through: everything up to a level, or nothing at all. -/
abbrev Limit := Option Level

namespace Limit

/-- The place of a limit. No level comes before the limit that lets nothing through. -/
def rank (limit : Limit) : Nat := limit.elim 0 Level.rank

/-- The name of a limit. -/
def name (limit : Limit) : Text := limit.elim "OFF".toList Level.name

/-- The limits from the narrowest on. -/
def all : List Limit := none :: Level.all.map some

/-- Whether a level is let through. -/
def Allows (limit : Limit) (level : Level) : Prop := level.rank ≤ limit.rank

instance (limit : Limit) (level : Level) : Decidable (limit.Allows level) := inferInstanceAs (Decidable (_ ≤ _))

/-- A limit by its place, which may have a plus sign and zeros in front, or by its name in letters of either
case. -/
def read? (t : Text) : Option Limit :=
  let digits := if t.head? = some '+' then t.tail else t
  if digits ≠ [] ∧ digits.all Char.isDigit then
    let place := Nat.ofDigitChars 10 digits 0
    all.find? fun limit => limit.rank = place
  else
    let word := t.map Char.toUpper
    all.find? fun limit => limit.name = word

end Limit

end Calculator
