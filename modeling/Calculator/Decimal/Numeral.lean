import Calculator.Decimal

namespace Calculator

/-- What a numeral says before it is rounded to a format. -/
inductive Numeral where
  | finite (negative : Bool) (magnitude : Decimal)
  | infinite (negative : Bool)
  | undefined (negative : Bool)
deriving DecidableEq

namespace Numeral

/-- The nearest number of a format. -/
def toNumber (f : Format) : Numeral → Number f
  | finite negative magnitude => ⟨negative, magnitude.code f, f.nearest_lt_codeCount _ _⟩
  | infinite negative => .infinity negative
  | undefined negative => .undefined negative

/-- A text without its leading sign, and whether that sign is a minus. -/
def splitSign : Text → Bool × Text
  | '-' :: rest => (true, rest)
  | '+' :: rest => (false, rest)
  | rest => (false, rest)

/-- The number that decimal digits write, as long as it stays below `2 ^ 16`: once it does not, the digits left
are skipped. Only a coefficient of tens of thousands of digits could tell the difference. -/
def saturatedDigits (digits : Text) : Nat :=
  digits.foldl (fun n c => if n < 2 ^ (16 : Nat) then 10 * n + (c.toNat - '0'.toNat) else n) 0

/-- The exponent that ends a numeral: nothing, or the letter, an optional sign and at least one digit. -/
def exponent? : Text → Option Int
  | [] => some 0
  | mark :: rest =>
    if mark = 'e' ∨ mark = 'E' then
      let (negative, digits) := splitSign rest
      if digits = [] ∨ ¬digits.all Char.isDigit then none
      else if negative then some (-saturatedDigits digits) else some (saturatedDigits digits)
    else none

/-- The digits after a point, if a point is next, and what follows them. -/
def splitPlaces : Text → Text × Text
  | '.' :: rest => (rest.takeWhile Char.isDigit, rest.dropWhile Char.isDigit)
  | rest => ([], rest)

/-- Digits with at most one point among or around them, then an exponent. At least one digit is needed. -/
def decimal? (t : Text) : Option Decimal :=
  let whole := t.takeWhile Char.isDigit
  let (places, rest) := splitPlaces (t.dropWhile Char.isDigit)
  if whole = [] ∧ places = [] then none
  else (exponent? rest).map fun exponent =>
    ⟨Nat.ofDigitChars 10 (whole ++ places) 0, exponent - places.length⟩

/-- A numeral with an optional sign: a decimal or, in letters of either case, an infinity or the undefined
number. -/
def read? (t : Text) : Option Numeral :=
  let (negative, body) := splitSign t
  match decimal? body with
  | some magnitude => some (finite negative magnitude)
  | none =>
    let word := body.map Char.toLower
    if word = "inf".toList ∨ word = "infinity".toList then some (infinite negative)
    else if word = "nan".toList then some (undefined negative)
    else none

end Numeral

/-- The number nearest to what a text writes, if it is a numeral. -/
def Number.read? (f : Format) (t : Text) : Option (Number f) := (Numeral.read? t).map (Numeral.toNumber f)

end Calculator
