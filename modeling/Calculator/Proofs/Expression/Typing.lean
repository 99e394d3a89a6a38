import Calculator.Expression
import Calculator.Key
import Calculator.Proofs.Decimal.Forms

namespace Calculator

/-- Eleven characters are typed into numerals and no others, whatever digits other scripts have. -/
theorem typeable_iff_mem (c : Char) : Typeable c ↔ c ∈ "0123456789.".toList := by
  constructor
  · rintro (digit | rfl)
    · have among : ∀ n < 10, Char.ofNat (48 + n) ∈ "0123456789.".toList := by decide
      obtain ⟨low, high⟩ : 48 ≤ c.toNat ∧ c.toNat ≤ 57 := Char.isDigit_iff_toNat.mp digit
      have offset : 48 + (c.toNat - 48) = c.toNat := by omega
      rw [← Char.ofNat_toNat c, ← offset]
      exact among (c.toNat - 48) (by omega)
    · decide
  · intro member
    have listed : "0123456789.".toList.all (fun d => decide (Typeable d)) = true := rfl
    exact of_decide_eq_true (List.all_eq_true.mp listed c member)

namespace Operand

/-- Typing makes an open operand, and the character is in its text. -/
theorem mem_extend (o : Operand) (c : Char) : ∃ t, o.extend c = typed t ∧ c ∈ t := by
  unfold extend
  split
  · rename_i second
    exact ⟨_, rfl, second.1 ▸ second.2⟩
  · split
    · exact ⟨_, rfl, List.mem_singleton_self c⟩
    · exact ⟨_, rfl, List.mem_append_right _ (List.mem_singleton_self c)⟩

theorem extend_eq_typed (o : Operand) (c : Char) : ∃ t, o.extend c = typed t ∧ t ≠ [] := by
  obtain ⟨t, typed, member⟩ := o.mem_extend c
  exact ⟨t, typed, List.ne_nil_of_mem member⟩

/-- A second point is left out. -/
theorem extend_second_point {t : Text} (point : '.' ∈ t) : (typed t).extend '.' = typed t :=
  if_pos ⟨rfl, point⟩

theorem extend_point {t : Text} (first : '.' ∉ t) : (typed t).extend '.' = typed (t ++ ['.']) := by
  rw [extend, if_neg fun second => first second.2, if_neg fun other => other.1 rfl]
  rfl

/-- A lone nought gives way to a digit. -/
theorem extend_zero {c : Char} (digit : c.isDigit = true) : (typed ['0']).extend c = typed [c] := by
  have other := ne_of_isDigit (d := '.') digit rfl
  rw [extend, if_neg fun point => other point.1, if_pos ⟨other, rfl⟩]

theorem extend_digit {t : Text} {c : Char} (digit : c.isDigit = true) (larger : t ≠ ['0']) :
    (typed t).extend c = typed (t ++ [c]) := by
  have other := ne_of_isDigit (d := '.') digit rfl
  rw [extend, if_neg fun point => other point.1, if_neg fun zero => larger zero.2]
  rfl

theorem extend_empty (c : Char) : empty.extend c = typed [c] := by
  rw [extend, if_neg (by simp [base]), if_neg (by simp [base])]
  rfl

/-- A character leaves an operand as it is in two cases only. A final result is never one of them. -/
theorem extend_eq_self_iff (o : Operand) (c : Char) :
    o.extend c = o ↔ (c = '.' ∧ ∃ t, o = typed t ∧ '.' ∈ t) ∨ (c = '0' ∧ o = typed ['0']) := by
  constructor
  · intro same
    obtain ⟨t, form, _⟩ := o.extend_eq_typed c
    obtain rfl : o = typed t := same.symm.trans form
    unfold extend at same
    split at same
    · rename_i second
      exact Or.inl ⟨second.1, t, rfl, second.2⟩
    · split at same
      · rename_i zero
        have digit : [c] = ['0'] := (typed.inj same).trans zero.2
        exact Or.inr ⟨List.head_eq_of_cons_eq digit, congrArg typed zero.2⟩
      · have longer := congrArg List.length (typed.inj same)
        simp [base] at longer
  · rintro (⟨rfl, t, rfl, point⟩ | ⟨rfl, rfl⟩)
    · exact extend_second_point point
    · rfl

/-- A point typed twice is one point. -/
theorem extend_point_extend_point (o : Operand) : (o.extend '.').extend '.' = o.extend '.' := by
  obtain ⟨t, form, point⟩ := o.mem_extend '.'
  exact (extend_eq_self_iff _ _).mpr (Or.inl ⟨rfl, t, form, point⟩)

end Operand

/-- A numeral with a digit in front stays one. -/
theorem Begun.extend {t : Text} {c : Char} (typeable : Typeable c) (begun : Begun t) :
    ∃ s, (Operand.typed t).extend c = .typed s ∧ Begun s := by
  cases begun with
  | whole whole =>
    rcases typeable with digit | rfl
    · by_cases zero : t = ['0']
      · subst t
        exact ⟨_, Operand.extend_zero digit, .whole (.ofDigit digit)⟩
      · exact ⟨_, Operand.extend_digit digit zero, .whole (whole.concat zero digit)⟩
    · exact ⟨_, Operand.extend_point (whole.all_digits.not_mem rfl), .places whole .nil⟩
  | @places w p whole places =>
    rcases typeable with digit | rfl
    · have longer : w ++ '.' :: p ≠ ['0'] := by
        intro zero
        have point : '.' ∈ w ++ '.' :: p := by simp
        rw [zero] at point
        simp at point
      refine ⟨_, Operand.extend_digit digit longer, ?_⟩
      rw [List.append_assoc]
      exact .places whole (places.concat digit)
    · exact ⟨_, Operand.extend_second_point (by simp), .places whole places⟩

/-- A numeral in the course of typing stays one. -/
theorem Partial.extend {t : Text} {c : Char} (typeable : Typeable c) (part : Partial t) :
    ∃ s, (Operand.typed t).extend c = .typed s ∧ Partial s := by
  cases part with
  | begun begun =>
    obtain ⟨s, typed, begun⟩ := begun.extend typeable
    exact ⟨s, typed, .begun begun⟩
  | bare places =>
    rcases typeable with digit | rfl
    · exact ⟨_, Operand.extend_digit digit (by simp), .bare (places.concat digit)⟩
    · exact ⟨_, Operand.extend_second_point (by simp), .bare places⟩

theorem Partial.of_typeable {c : Char} (typeable : Typeable c) : Partial [c] := by
  rcases typeable with digit | rfl
  · exact .begun (.whole (.ofDigit digit))
  · exact .bare .nil

namespace Operand

/-- Digits are appended one by one where no zero gives way to them. -/
theorem foldl_extend_digits {s p : Text} (nonempty : s ≠ []) (larger : s ≠ ['0']) (digits : Digits p) :
    p.foldl extend (typed s) = typed (s ++ p) := by
  induction p generalizing s with
  | nil => simp
  | cons c p ih =>
    obtain ⟨digit, digits⟩ := List.forall_mem_cons.mp digits
    have longer : s ++ [c] ≠ ['0'] := by
      intro zero
      have length := congrArg List.length zero
      have positive := List.length_pos_of_ne_nil nonempty
      simp only [List.length_append, List.length_singleton] at length
      omega
    rw [List.foldl_cons, extend_digit digit larger, ih (by simp) longer digits, List.append_assoc]
    rfl

end Operand

section Retype

variable {o : Operand} {t : Text}

/-- A place that its first digit replaces is filled by a whole number as it stands. -/
theorem Whole.retype (fresh : ∀ c : Char, c.isDigit = true → o.extend c = .typed [c]) (whole : Whole t) :
    t.foldl Operand.extend o = .typed t := by
  cases whole with
  | zero => exact fresh '0' rfl
  | digits digit nonzero rest =>
    rw [List.foldl_cons, fresh _ digit, Operand.foldl_extend_digits (by simp) (by simpa using nonzero) rest]
    rfl

theorem Begun.retype (fresh : ∀ c : Char, c.isDigit = true → o.extend c = .typed [c]) (begun : Begun t) :
    t.foldl Operand.extend o = .typed t := by
  cases begun with
  | whole whole => exact whole.retype fresh
  | @places w p whole places =>
    have point := Operand.extend_point (whole.all_digits.not_mem rfl : '.' ∉ w)
    have longer : w ++ ['.'] ≠ ['0'] := by
      intro zero
      have last := congrArg (·.getLast?) zero
      simp at last
    rw [List.foldl_append, whole.retype fresh, List.foldl_cons, point,
      Operand.foldl_extend_digits (by simp) longer places, List.append_assoc]
    rfl

/-- Typing a numeral over the initial zero gives that numeral back. -/
theorem Begun.retype_zero (begun : Begun t) : t.foldl Operand.extend (.typed ['0']) = .typed t :=
  begun.retype fun _ => Operand.extend_zero

/-- Typing a numeral into an empty place gives that numeral back. -/
theorem Partial.retype_empty (part : Partial t) : t.foldl Operand.extend .empty = .typed t := by
  cases part with
  | begun begun => exact begun.retype fun c _ => Operand.extend_empty c
  | bare places =>
    rw [List.foldl_cons, Operand.extend_empty, Operand.foldl_extend_digits (by simp) (by simp) places]
    rfl

end Retype

end Calculator
