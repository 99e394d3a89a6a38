import Calculator.Decimal.Numeral
import Calculator.Proofs.Decimal.Digits

namespace Calculator

/-- A numeral in the course of typing that has digits before its point: `7`, `7.`, `7.80`. -/
inductive Begun : Text → Prop
  | whole {w : Text} : Whole w → Begun w
  | places {w p : Text} : Whole w → Digits p → Begun (w ++ '.' :: p)

/-- A numeral in the course of typing, which may start with its point: `7.80`, `.80`, `.`. -/
inductive Partial : Text → Prop
  | begun {t : Text} : Begun t → Partial t
  | bare {p : Text} : Digits p → Partial ('.' :: p)

/-- A magnitude as it is written out: the point stands only before digits of which the last is no zero. -/
inductive Plain : Text → Prop
  | whole {w : Text} : Whole w → Plain w
  | places {w p : Text} {c : Char} : Whole w → Digits p → c.isDigit = true → c ≠ '0' →
      Plain (w ++ '.' :: (p ++ [c]))

/-- A number as it is written out, with a minus only before what is not a zero. -/
inductive Canonical : Text → Prop
  | plain {t : Text} : Plain t → Canonical t
  | minus {t : Text} : Plain t → t ≠ ['0'] → Canonical ('-' :: t)

/-- What is written out could also have been typed. -/
theorem Plain.begun {t : Text} (plain : Plain t) : Begun t := by
  cases plain with
  | whole whole => exact .whole whole
  | places whole front last _ => exact .places whole (front.concat last)

theorem Begun.exists_head {t : Text} (begun : Begun t) : ∃ c rest, t = c :: rest ∧ c.isDigit = true := by
  cases begun with
  | whole whole => exact whole.exists_head
  | places whole =>
    obtain ⟨c, rest, rfl, digit⟩ := whole.exists_head
    exact ⟨c, _, rfl, digit⟩

theorem Begun.ne_nil {t : Text} (begun : Begun t) : t ≠ [] := by
  obtain ⟨c, rest, rfl, _⟩ := begun.exists_head
  exact List.cons_ne_nil c rest

theorem Canonical.ne_nil {t : Text} (canonical : Canonical t) : t ≠ [] := by
  cases canonical with
  | plain plain => exact plain.begun.ne_nil
  | minus => exact List.cons_ne_nil _ _

theorem Begun.char {t : Text} (begun : Begun t) {c : Char} (member : c ∈ t) : c.isDigit = true ∨ c = '.' := by
  cases begun with
  | whole whole => exact Or.inl (whole.all_digits c member)
  | places whole places =>
    rcases List.mem_append.mp member with front | back
    · exact Or.inl (whole.all_digits c front)
    · exact (List.mem_cons.mp back).symm.imp_left (places c)

theorem Partial.char {t : Text} (part : Partial t) {c : Char} (member : c ∈ t) : c.isDigit = true ∨ c = '.' := by
  cases part with
  | begun begun => exact begun.char member
  | bare places => exact (List.mem_cons.mp member).symm.imp_left (places c)

theorem Partial.not_mem {t : Text} {c : Char} (part : Partial t) (digit : c.isDigit = false) (point : c ≠ '.') :
    c ∉ t := by
  intro member
  rcases part.char member with other | other
  · exact ne_of_isDigit other digit rfl
  · exact point other

/-- Nothing but digits, a point and a minus stands in a number that is written out. -/
theorem Canonical.char {t : Text} (canonical : Canonical t) {c : Char} (member : c ∈ t) :
    c.isDigit = true ∨ c = '.' ∨ c = '-' := by
  cases canonical with
  | plain plain => exact (plain.begun.char member).imp_right Or.inl
  | minus plain _ =>
    rcases List.mem_cons.mp member with minus | back
    · exact Or.inr (Or.inr minus)
    · exact (plain.begun.char back).imp_right Or.inl

/-- A zero is written out without a sign. -/
theorem Canonical.ne_minus_zero {t : Text} (canonical : Canonical t) : t ≠ ['-', '0'] := by
  cases canonical with
  | plain plain =>
    obtain ⟨c, rest, rfl, digit⟩ := plain.begun.exists_head
    intro zero
    exact ne_of_isDigit (d := '-') digit rfl (List.cons.inj zero).1
  | minus _ nonzero => simpa using nonzero

/-- Nobody types a minus into a numeral. -/
theorem Partial.no_minus {t : Text} (part : Partial t) : '-' ∉ t := part.not_mem rfl (by decide)

namespace Numeral

/-- Digits alone are a whole number of ones. -/
theorem decimal?_whole {w : Text} (digits : Digits w) (nonempty : w ≠ []) :
    decimal? w = some ⟨Nat.ofDigitChars 10 w 0, 0⟩ := by
  have front : w.takeWhile Char.isDigit = w := List.takeWhile_eq_self_iff.mpr digits
  have rest : w.dropWhile Char.isDigit = [] := List.dropWhile_eq_nil_iff.mpr digits
  simp [decimal?, front, rest, splitPlaces, exponent?, nonempty]

/-- A point needs a digit on one side of it only. -/
theorem decimal?_places {w p : Text} (whole : Digits w) (places : Digits p) (digit : w ≠ [] ∨ p ≠ []) :
    decimal? (w ++ '.' :: p) = some ⟨Nat.ofDigitChars 10 (w ++ p) 0, -p.length⟩ := by
  have front : (w ++ '.' :: p).takeWhile Char.isDigit = w := by
    simp [List.takeWhile_append_of_pos whole]
  have back : (w ++ '.' :: p).dropWhile Char.isDigit = '.' :: p := by
    simp [List.dropWhile_append_of_pos whole]
  have digits : p.takeWhile Char.isDigit = p := List.takeWhile_eq_self_iff.mpr places
  have rest : p.dropWhile Char.isDigit = [] := List.dropWhile_eq_nil_iff.mpr places
  have nonempty : ¬(w = [] ∧ p = []) := by
    rintro ⟨noWhole, noPlaces⟩
    exact digit.elim (· noWhole) (· noPlaces)
  simp [decimal?, front, back, splitPlaces, digits, rest, exponent?, nonempty]

theorem splitSign_of_no_minus {t : Text} (minus : '-' ∉ t) (plus : '+' ∉ t) : splitSign t = (false, t) := by
  cases t with
  | nil => rfl
  | cons c rest =>
    simp only [List.mem_cons, not_or] at minus plus
    unfold splitSign
    split
    · rename_i sign
      exact absurd (List.cons.inj sign).1.symm minus.1
    · rename_i sign
      exact absurd (List.cons.inj sign).1.symm plus.1
    · rfl

/-- A text that starts with a digit has no sign. -/
theorem splitSign_of_isDigit {c : Char} (digit : c.isDigit = true) (rest : Text) :
    splitSign (c :: rest) = (false, c :: rest) := by
  unfold splitSign
  split
  · rename_i sign
    exact absurd (List.cons.inj sign).1 (ne_of_isDigit digit rfl)
  · rename_i sign
    exact absurd (List.cons.inj sign).1 (ne_of_isDigit digit rfl)
  · rfl

end Numeral

theorem Partial.splitSign {t : Text} (part : Partial t) : Numeral.splitSign t = (false, t) :=
  Numeral.splitSign_of_no_minus part.no_minus (part.not_mem rfl (by decide))

/-- A digit before the point is all that it takes to be read. -/
theorem Begun.exists_decimal {t : Text} (begun : Begun t) : ∃ d, Numeral.decimal? t = some d := by
  cases begun with
  | whole whole => exact ⟨_, Numeral.decimal?_whole whole.all_digits whole.ne_nil⟩
  | places whole places => exact ⟨_, Numeral.decimal?_places whole.all_digits places (Or.inl whole.ne_nil)⟩

namespace Number

variable {f : Format}

/-- A sign and a magnitude are read one after the other. -/
theorem read?_of_decimal? {negative : Bool} {t body : Text} {d : Decimal}
    (sign : Numeral.splitSign t = (negative, body)) (magnitude : Numeral.decimal? body = some d) :
    read? f t = some ⟨negative, d.code f, f.nearest_lt_codeCount _ _⟩ := by
  simp only [read?, Numeral.read?, sign, magnitude, Option.map_some, Numeral.toNumber]

/-- What is typed reads as a number with no sign, but for the lone point. -/
theorem read?_partial {t : Text} (part : Partial t) (digits : t ≠ ['.']) :
    ∃ x, read? f t = some x ∧ x.negative = false := by
  have sign := part.splitSign
  obtain ⟨d, magnitude⟩ : ∃ d, Numeral.decimal? t = some d := by
    cases part with
    | begun begun => exact begun.exists_decimal
    | @bare p places =>
      have digit : p ≠ [] := by
        rintro rfl
        exact digits rfl
      exact ⟨_, Numeral.decimal?_places (w := []) .nil places (Or.inr digit)⟩
  exact ⟨_, read?_of_decimal? sign magnitude, rfl⟩

/-- Whatever is written out can be read. -/
theorem read?_canonical {t : Text} (canonical : Canonical t) : ∃ x, read? f t = some x := by
  cases canonical with
  | plain plain =>
    obtain ⟨d, magnitude⟩ := plain.begun.exists_decimal
    exact ⟨_, read?_of_decimal? (Partial.begun plain.begun).splitSign magnitude⟩
  | minus plain _ =>
    obtain ⟨d, magnitude⟩ := plain.begun.exists_decimal
    exact ⟨_, read?_of_decimal? rfl magnitude⟩

/-- The lone point is no numeral. -/
theorem read?_point : read? f ['.'] = none := rfl

end Number

end Calculator
