import Calculator.Number

namespace Calculator.Number

variable {f g : Format}

/-- The number with the opposite sign. -/
def neg (x : Number f) : Number f := { x with negative := !x.negative }

/-- The number nearest to a whole number of steps; a zero takes the sign given. -/
def ofSteps (zeroSign : Bool) (steps : Int) : Number f :=
  if steps = 0 then zero zeroSign else ofQuotient (decide (steps < 0)) steps.natAbs 1

/-- The exact sum, rounded once. A zero sum is positive unless both operands are negative zeros, and
infinities of opposite sign have no sum. -/
def add (x y : Number f) : Number f :=
  if x.IsUndefined ∨ y.IsUndefined then undefined false
  else if x.IsInfinite then
    if y.IsInfinite ∧ x.negative ≠ y.negative then undefined false else x
  else if y.IsInfinite then y
  else ofSteps (x.negative && y.negative) (x.signedSteps + y.signedSteps)

/-- The sum with the opposite of the second operand. -/
def sub (x y : Number f) : Number f := x.add y.neg

/-- The exact product, rounded once. A product of two step counts is in steps of steps, hence the division. -/
def mul (x y : Number f) : Number f :=
  let sign := x.negative != y.negative
  if x.IsUndefined ∨ y.IsUndefined then undefined false
  else if x.IsInfinite ∨ y.IsInfinite then
    if x.IsZero ∨ y.IsZero then undefined false else infinity sign
  else ofQuotient sign (f.steps x.code * f.steps y.code) (2 ^ f.places)

/-- The exact quotient, rounded once. A finite number over zero is infinite, and zero over zero has no value. -/
def div (x y : Number f) : Number f :=
  let sign := x.negative != y.negative
  if x.IsUndefined ∨ y.IsUndefined then undefined false
  else if x.IsInfinite then if y.IsInfinite then undefined false else infinity sign
  else if y.IsInfinite then zero sign
  else if y.IsZero then if x.IsZero then undefined false else infinity sign
  else ofQuotient sign (f.steps x.code * 2 ^ f.places) (f.steps y.code)

instance : Add (Number f) := ⟨add⟩
instance : Sub (Number f) := ⟨sub⟩
instance : Mul (Number f) := ⟨mul⟩
instance : Div (Number f) := ⟨div⟩

/-- The larger of two numbers; an undefined one yields to the other. -/
def max (x y : Number f) : Number f :=
  if x.IsUndefined then y
  else if y.IsUndefined then x
  else if x.rank < y.rank then y else x

/-- The nearest number of another format. -/
def toFormat (g : Format) (x : Number f) : Number g :=
  if x.IsUndefined then undefined x.negative
  else if x.IsInfinite then infinity x.negative
  else ofQuotient x.negative (f.steps x.code * 2 ^ g.places) (2 ^ f.places)

/-- Finite numbers other than zero stay as they are; everything else becomes positive zero. -/
def settle (x : Number f) : Number f :=
  if x.IsFinite ∧ ¬x.IsZero then x else zero false

end Calculator.Number
