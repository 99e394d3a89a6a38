import Calculator.Text
import Mathlib.Data.Nat.Init
import Mathlib.Tactic.SplitIfs

namespace Calculator

/-- What a hexadecimal digit counts. -/
def hexValue (c : Char) : Nat := if c.isDigit then c.toNat - '0'.toNat else c.toNat - 'a'.toNat + 10

/-- Where the reading of a quotation has come to. -/
inductive Quotation where
  /-- Between two characters. -/
  | inside
  /-- After a backslash. -/
  | escape
  /-- Before the number of a character. -/
  | brace
  /-- In the number of a character, of which this much has been read. -/
  | number (n : Nat)

namespace Quotation

/-- The character that a letter after a backslash stands for. -/
def shortEscape : Char → Char
  | '0' => '\x00'
  | 't' => '\t'
  | 'r' => '\r'
  | 'n' => '\n'
  | c => c

/-- The text of the rest of a quotation, up to the quote that ends it. -/
def readFrom (quote : Char) : Quotation → Text → Option Text
  | _, [] => none
  | inside, c :: rest =>
    if c = quote then if rest = [] then some [] else none
    else if c = '\\' then readFrom quote escape rest
    else (readFrom quote inside rest).map (c :: ·)
  | escape, c :: rest =>
    if c = 'u' then readFrom quote brace rest else (readFrom quote inside rest).map (shortEscape c :: ·)
  | brace, c :: rest => if c = '\x7b' then readFrom quote (number 0) rest else none
  | number n, c :: rest =>
    if c = '\x7d' then (readFrom quote inside rest).map (Char.ofNat n :: ·)
    else readFrom quote (number (16 * n + hexValue c)) rest

/-- The text that a quotation tells. -/
def read? (quote : Char) : Text → Option Text
  | [] => none
  | c :: rest => if c = quote then readFrom quote inside rest else none

variable {quote : Char}

end Quotation

section Quoted

variable {quote : Char} (mark : quote = '"' ∨ quote = '\'')

include mark

end Quoted

end Calculator
