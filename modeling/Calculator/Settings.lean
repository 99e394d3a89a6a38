import Calculator.Expression.Value

namespace Calculator

/-- The numbers that window sizes are given in. -/
abbrev Size := Number .single

namespace Size

/-- A size given as a whole number. -/
def ofNat (n : Nat) : Size := .ofQuotient false (n * 2 ^ Format.single.places) 1

/-- The least width that the buttons fit in. -/
def leastWidth : Size := ofNat 300

/-- The least height that the buttons fit in. -/
def leastHeight : Size := ofNat 440

end Size

/-- How the program is started. -/
structure Settings where
  /-- Keys to replay without a window. -/
  replay : Option Text
  /-- What to log. -/
  log : Option Text
  width : Size
  height : Size
deriving DecidableEq

namespace Settings

/-- The settings when nothing is asked for. -/
def default : Settings := ⟨none, none, Size.ofNat 360, Size.ofNat 520⟩

/-- The size of the window: what was asked for, but never too small for the buttons. -/
def windowSize (s : Settings) : Size × Size := (s.width.max Size.leastWidth, s.height.max Size.leastHeight)

end Settings

end Calculator
