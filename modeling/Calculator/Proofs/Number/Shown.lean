import Calculator.Expression.Value
import Calculator.Proofs.Decimal.Positional
import Calculator.Proofs.Decimal.Shortest
import Calculator.Proofs.Number.Settled

namespace Calculator

namespace Number

variable {f : Format} {x : Number f}

theorem text_of_isFinite (finite : x.IsFinite) :
    x.text = signed x.negative (f.shortest x.code).positional := by
  rw [text, if_neg finite.not_isUndefined, if_neg finite.not_isInfinite]

/-- A number is told by its word. -/
theorem toWord_inj {x y : Number f} : x.toWord = y.toWord ↔ x = y := by
  refine ⟨?_, congrArg toWord⟩
  intro same
  rw [← ofWord_toWord x, same, ofWord_toWord]

/-- A sign before the magnitude reads back with it. -/
theorem read?_signed {t : Text} (spells : f.Spells t x.code) : read? f (signed x.negative t) = some x := by
  obtain ⟨c, rest, rfl, digit⟩ := spells.head
  obtain ⟨d, magnitude, code⟩ := spells.read
  have sign : Numeral.splitSign (signed x.negative (c :: rest)) = (x.negative, c :: rest) := by
    cases x.negative with
    | false => exact Numeral.splitSign_of_isDigit digit rest
    | true => rfl
  rw [read?_of_decimal? sign magnitude, Option.some.injEq]
  ext
  · rfl
  · exact code

/-- The text of a finite number reads back as that number, its sign included. -/
theorem read?_text (finite : x.IsFinite) : read? f x.text = some x := by
  have spells := (f.shortest x.code).positional_spells f
  rw [Format.code_shortest finite] at spells
  rw [text_of_isFinite finite, read?_signed spells]

end Number

namespace Value

variable {v : Value}

theorem room : 0 < Format.double.infinityCode := by decide

theorem settle_isFinite (v : Value) : v.settle.IsFinite := v.settle_settled.isFinite room

/-- What is shown reads back as the settled value. -/
@[simp] theorem read?_shown (v : Value) : Number.read? .double v.shown = some v.settle :=
  Number.read?_text v.settle_isFinite

@[simp] theorem shown_settle (v : Value) : Value.shown v.settle = v.shown := by
  rw [shown, v.settle_settled, ← shown]

/-- Without a sign a value is shown as a magnitude. -/
theorem shown_plain (positive : v.settle.negative = false) : Plain v.shown := by
  rw [shown, Number.text_of_isFinite v.settle_isFinite, positive]
  exact Decimal.positional_plain _

theorem read?_zero : Number.read? .double ['0'] = some (.zero false) := by decide +kernel

theorem settle_neg (negative : v.settle.negative = true) : v.neg.settle = v.settle.neg := by
  have nonzero := v.settle_settled.not_isZero negative
  rw [← Number.settle_neg_settle]
  exact Number.settle_of_finite (Number.isFinite_neg.mpr v.settle_isFinite) (nonzero ∘ Number.isZero_neg.mp)

/-- Below zero a value is shown as a minus before its opposite, and that opposite is never shown as a zero. -/
theorem shown_minus (negative : v.settle.negative = true) :
    v.shown = '-' :: Value.shown v.neg ∧ v.neg.settle.negative = false ∧ Value.shown v.neg ≠ ['0'] := by
  have finite := v.settle_isFinite
  have opposite := settle_neg negative
  have positive : v.neg.settle.negative = false := by
    rw [opposite]
    simp only [Number.neg, negative, Bool.not_true]
  refine ⟨?_, positive, ?_⟩
  · rw [shown, shown, opposite, Number.text_of_isFinite finite,
      Number.text_of_isFinite (Number.isFinite_neg.mpr finite), negative]
    simp [Number.neg, negative, Number.signed]
  · intro zero
    have back := read?_shown v.neg
    rw [zero, read?_zero, opposite, Option.some.injEq] at back
    exact v.settle_settled.not_isZero negative (Number.isZero_neg.mp (back ▸ rfl))

/-- Values are shown without superfluous zeros, points and signs. -/
theorem shown_canonical (v : Value) : Canonical v.shown := by
  cases sign : v.settle.negative with
  | false => exact .plain (shown_plain sign)
  | true =>
    obtain ⟨minus, positive, nonzero⟩ := shown_minus sign
    rw [minus]
    exact .minus (shown_plain positive) nonzero

theorem shown_ne_nil (v : Value) : v.shown ≠ [] := v.shown_canonical.ne_nil

/-- Values are written alike exactly if they are one value once settled. -/
theorem shown_inj {v w : Value} : v.shown = w.shown ↔ v.settle = w.settle := by
  constructor
  · intro same
    have read := read?_shown v
    rw [same, read?_shown w, Option.some.injEq] at read
    exact read.symm
  · intro same
    rw [shown, same, ← shown]

end Value

end Calculator
