import Calculator.Key
import Calculator.Proofs.Decimal.Forms

namespace Calculator

/-- A text without the points after its first. -/
def dropLaterPoints : Text → Text
  | [] => []
  | c :: rest => if c = '.' then '.' :: rest.filter (· ≠ '.') else c :: dropLaterPoints rest

/-- Digits without superfluous zeros: a zero in front goes as long as something follows it. -/
def dropLeadingZeros : Text → Text
  | [] => []
  | c :: rest => if c = '0' ∧ rest ≠ [] then dropLeadingZeros rest else c :: rest

/-- A text without the points after its first, and then without superfluous zeros in front of the point. -/
def tidy (t : Text) : Text :=
  dropLeadingZeros ((dropLaterPoints t).takeWhile (· ≠ '.')) ++ (dropLaterPoints t).dropWhile (· ≠ '.')

section LeadingZeros

variable {w : Text}

theorem dropLeadingZeros_of_zero (more : w ≠ []) : dropLeadingZeros ('0' :: w) = dropLeadingZeros w :=
  if_pos ⟨rfl, more⟩

theorem dropLeadingZeros_of_ne_zero {c : Char} (nonzero : c ≠ '0') : dropLeadingZeros (c :: w) = c :: w :=
  if_neg fun zero => nonzero zero.1

theorem dropLeadingZeros_singleton (c : Char) : dropLeadingZeros [c] = [c] := if_neg fun zero => zero.2 rfl

/-- A whole number has no superfluous zero to lose. -/
theorem Whole.dropLeadingZeros_eq (whole : Whole w) : dropLeadingZeros w = w := by
  cases whole with
  | zero => exact dropLeadingZeros_singleton '0'
  | digits _ nonzero _ => exact dropLeadingZeros_of_ne_zero nonzero

theorem dropLeadingZeros_suffix (w : Text) : dropLeadingZeros w <:+ w := by
  induction w with
  | nil => exact List.suffix_refl []
  | cons c w ih =>
    rw [dropLeadingZeros]
    split
    · exact ih.trans (List.suffix_cons c w)
    · exact List.suffix_refl _

/-- A lone zero gives way to a digit that comes after it, all else stays. -/
theorem dropLeadingZeros_concat (w : Text) (c : Char) :
    dropLeadingZeros (w ++ [c]) = if dropLeadingZeros w = ['0'] then [c] else dropLeadingZeros w ++ [c] := by
  induction w with
  | nil => exact dropLeadingZeros_singleton c
  | cons d w ih =>
    by_cases zero : d = '0'
    · subst d
      have more : w ++ [c] ≠ [] := List.append_ne_nil_of_right_ne_nil _ (List.cons_ne_nil c [])
      rw [List.cons_append, dropLeadingZeros_of_zero more, ih]
      by_cases last : w = []
      · subst w
        rfl
      · rw [dropLeadingZeros_of_zero last]
    · rw [List.cons_append, dropLeadingZeros_of_ne_zero zero, dropLeadingZeros_of_ne_zero zero,
        if_neg fun lone => zero (List.cons.inj lone).1, List.cons_append]

end LeadingZeros

section Points

variable {w : Text}

theorem dropLaterPoints_of_not_mem (absent : '.' ∉ w) : dropLaterPoints w = w := by
  induction w with
  | nil => rfl
  | cons c w ih =>
    simp only [List.mem_cons, not_or] at absent
    rw [dropLaterPoints, if_neg (Ne.symm absent.1), ih absent.2]

/-- Up to its first point a text stays as it is. -/
theorem dropLaterPoints_append (absent : '.' ∉ w) (u : Text) :
    dropLaterPoints (w ++ '.' :: u) = w ++ '.' :: u.filter (· ≠ '.') := by
  induction w with
  | nil => exact if_pos rfl
  | cons c w ih =>
    simp only [List.mem_cons, not_or] at absent
    rw [List.cons_append, dropLaterPoints, if_neg (Ne.symm absent.1), ih absent.2, List.cons_append]

end Points

/-- What is typed is digits alone, or digits up to a first point. -/
theorem digits_or_point {t : Text} (typeable : ∀ c ∈ t, Typeable c) :
    Digits t ∨ ∃ w u, Digits w ∧ t = w ++ '.' :: u := by
  induction t with
  | nil => exact Or.inl .nil
  | cons c t ih =>
    obtain ⟨head, tail⟩ := List.forall_mem_cons.mp typeable
    rcases head with digit | rfl
    · rcases ih tail with digits | ⟨w, u, digits, rfl⟩
      · exact Or.inl (.cons digit digits)
      · exact Or.inr ⟨c :: w, u, .cons digit digits, rfl⟩
    · exact Or.inr ⟨[], t, .nil, rfl⟩

namespace Digits

variable {w : Text}

theorem no_point (digits : Digits w) : '.' ∉ w := digits.not_mem rfl

theorem dropLeadingZeros (digits : Digits w) : Digits (dropLeadingZeros w) :=
  fun c member => digits c ((dropLeadingZeros_suffix w).subset member)

theorem dropLaterPoints_eq (digits : Digits w) : dropLaterPoints w = w := dropLaterPoints_of_not_mem digits.no_point

theorem dropLaterPoints_append (digits : Digits w) (u : Text) :
    dropLaterPoints (w ++ '.' :: u) = w ++ '.' :: u.filter (· ≠ '.') :=
  Calculator.dropLaterPoints_append digits.no_point u

theorem tidy_eq (digits : Digits w) : tidy w = Calculator.dropLeadingZeros w := by
  have before (c : Char) (member : c ∈ w) : decide (c ≠ '.') = true :=
    decide_eq_true (ne_of_isDigit (digits c member) rfl)
  rw [tidy, digits.dropLaterPoints_eq, List.takeWhile_eq_self_iff.mpr before, List.dropWhile_eq_nil_iff.mpr before,
    List.append_nil]

/-- In front of the first point the zeros go, behind it the other points. -/
theorem tidy_append (digits : Digits w) (u : Text) :
    tidy (w ++ '.' :: u) = Calculator.dropLeadingZeros w ++ '.' :: u.filter (· ≠ '.') := by
  have before (c : Char) (member : c ∈ w) : decide (c ≠ '.') = true :=
    decide_eq_true (ne_of_isDigit (digits c member) rfl)
  rw [tidy, digits.dropLaterPoints_append, List.takeWhile_append_of_pos before, List.dropWhile_append_of_pos before]
  simp

/-- Behind the first point everything is added at the end, further points left out. -/
theorem tidy_append_append (digits : Digits w) (u v : Text) :
    tidy (w ++ '.' :: u ++ v) = tidy (w ++ '.' :: u) ++ v.filter (· ≠ '.') := by
  rw [List.append_assoc, List.cons_append, digits.tidy_append, digits.tidy_append, List.filter_append,
    List.append_assoc, List.cons_append]

theorem filter_eq (digits : Digits w) : w.filter (· ≠ '.') = w :=
  List.filter_eq_self.mpr fun c member => decide_eq_true (ne_of_isDigit (digits c member) rfl)

end Digits

theorem Begun.tidy_eq {t : Text} (begun : Begun t) : tidy t = t := by
  cases begun with
  | whole whole => rw [whole.all_digits.tidy_eq, whole.dropLeadingZeros_eq]
  | places whole places => rw [whole.all_digits.tidy_append, whole.dropLeadingZeros_eq, places.filter_eq]

/-- Numerals in the course of typing are tidy already. -/
theorem Partial.tidy_eq {t : Text} (part : Partial t) : tidy t = t := by
  cases part with
  | begun begun => exact begun.tidy_eq
  | @bare p places =>
    have point := Digits.nil.tidy_append p
    rwa [places.filter_eq] at point

end Calculator
