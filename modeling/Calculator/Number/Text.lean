import Calculator.Decimal

namespace Calculator.Number

variable {f : Format}

/-- The sign, where it is a minus, before the text of a magnitude. -/
def signed (negative : Bool) (t : Text) : Text := if negative then '-' :: t else t

/-- The shortest digits that read back, in positional form whatever the size. -/
def text (x : Number f) : Text :=
  if x.IsUndefined then "NaN".toList
  else signed x.negative (if x.IsInfinite then "inf".toList else (f.shortest x.code).positional)

/-- Numbers from ten to the sixteenth on, and those below a ten thousandth other than zero, are logged with an
exponent. -/
def LogsExponent (x : Number f) : Prop :=
  10 ^ (16 : Nat) * 2 ^ f.places ≤ f.steps x.code ∨ x.code ≠ 0 ∧ f.steps x.code * 10 ^ (4 : Nat) < 2 ^ f.places

instance (x : Number f) : Decidable x.LogsExponent :=
  inferInstanceAs (Decidable (_ ∨ _ ∧ _))

/-- The form of a number in the log: it always shows a point or an exponent. -/
def logText (x : Number f) : Text :=
  if x.IsUndefined then "NaN".toList
  else signed x.negative <|
    if x.IsInfinite then "inf".toList
    else if x.LogsExponent then (f.shortest x.code).scientific
    else (f.shortest x.code).pointed

end Calculator.Number
