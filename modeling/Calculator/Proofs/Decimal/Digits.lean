import Calculator.Decimal
import Mathlib.Data.List.DropRight

namespace Calculator

/-- Decimal digits and nothing else, possibly none at all. -/
def Digits (t : Text) : Prop := ∀ c ∈ t, c.isDigit = true

/-- A whole number as it is written: a lone zero, or digits that do not start with one. -/
inductive Whole : Text → Prop
  | zero : Whole ['0']
  | digits {c : Char} {rest : Text} : c.isDigit = true → c ≠ '0' → Digits rest → Whole (c :: rest)

theorem Digits.nil : Digits [] := by simp [Digits]

theorem Digits.cons {c : Char} {t : Text} (head : c.isDigit = true) (tail : Digits t) : Digits (c :: t) :=
  List.forall_mem_cons.mpr ⟨head, tail⟩

theorem Digits.append {s t : Text} (first : Digits s) (second : Digits t) : Digits (s ++ t) :=
  List.forall_mem_append.mpr ⟨first, second⟩

theorem Digits.concat {t : Text} {c : Char} (first : Digits t) (last : c.isDigit = true) : Digits (t ++ [c]) :=
  first.append (.cons last .nil)

/-- The front of digits is digits. -/
theorem Digits.of_append_left {s t : Text} (digits : Digits (s ++ t)) : Digits s :=
  (List.forall_mem_append.mp digits).1

theorem ne_of_isDigit {c d : Char} (digit : c.isDigit = true) (other : d.isDigit = false) : c ≠ d := by
  rintro rfl
  rw [digit] at other
  cases other

/-- What is no digit is nowhere among digits. -/
theorem Digits.not_mem {t : Text} {c : Char} (digits : Digits t) (other : c.isDigit = false) : c ∉ t :=
  fun member => ne_of_isDigit (digits c member) other rfl

theorem toDigits_digits (n : Nat) : Digits (Nat.toDigits 10 n) :=
  fun _ member => Nat.isDigit_of_mem_toDigits (by decide) (by decide) member

theorem Whole.all_digits {t : Text} (whole : Whole t) : Digits t := by
  cases whole with
  | zero => exact .cons rfl .nil
  | digits head _ tail => exact .cons head tail

/-- A whole number starts with a digit. -/
theorem Whole.exists_head {t : Text} (whole : Whole t) : ∃ c rest, t = c :: rest ∧ c.isDigit = true := by
  cases whole with
  | zero => exact ⟨_, _, rfl, rfl⟩
  | digits digit _ _ => exact ⟨_, _, rfl, digit⟩

/-- A single digit is a whole number, zero or not. -/
theorem Whole.ofDigit {c : Char} (digit : c.isDigit = true) : Whole [c] := by
  by_cases zero : c = '0'
  · subst c
    exact .zero
  · exact .digits digit zero .nil

theorem Whole.ne_nil {t : Text} (whole : Whole t) : t ≠ [] := by
  cases whole <;> simp

/-- One more digit may follow any whole number but a lone zero. -/
theorem Whole.concat {t : Text} {c : Char} (whole : Whole t) (other : t ≠ ['0']) (digit : c.isDigit = true) :
    Whole (t ++ [c]) := by
  cases whole with
  | zero => exact absurd rfl other
  | digits head nonzero tail => exact .digits head nonzero (tail.concat digit)

/-- Only zero is written as a lone zero. -/
theorem eq_zero_of_toDigits {n : Nat} (zero : Nat.toDigits 10 n = ['0']) : n = 0 := by
  have value := Nat.ofDigitChars_ten_toDigits (n := n)
  rw [zero] at value
  exact value.symm

/-- Written in base ten a number has no superfluous zero in front. -/
theorem toDigits_whole (n : Nat) : Whole (Nat.toDigits 10 n) := by
  induction n using Nat.strong_induction_on with
  | _ n ih =>
    by_cases short : n < 10
    · rw [Nat.toDigits_of_lt_base short]
      exact .ofDigit (by simpa [Nat.isDigit_digitChar] using short)
    · rw [Nat.toDigits_of_base_le (by decide) (by omega)]
      have front := ih (n / 10) (by omega)
      have digit : (n % 10).digitChar.isDigit = true := by
        rw [Nat.isDigit_digitChar]
        exact decide_eq_true (Nat.mod_lt n (by decide))
      refine front.concat ?_ digit
      intro zero
      have front := eq_zero_of_toDigits zero
      omega

theorem dropTrailingZeros_eq_rdropWhile (t : Text) : dropTrailingZeros t = t.rdropWhile (· == '0') := rfl

/-- Only zeros are dropped, and only from the end. -/
theorem dropTrailingZeros_append_zeros (t : Text) :
    ∃ n, dropTrailingZeros t ++ List.replicate n '0' = t := by
  have zeros : t.rtakeWhile (· == '0') = List.replicate (t.rtakeWhile (· == '0')).length '0' :=
    List.eq_replicate_of_mem fun c member => by simpa using List.mem_rtakeWhile_imp member
  refine ⟨(t.rtakeWhile (· == '0')).length, ?_⟩
  rw [← zeros, dropTrailingZeros_eq_rdropWhile]
  exact List.rdropWhile_append_rtakeWhile

/-- What is left ends with a digit that is no zero, if anything is left. -/
theorem dropTrailingZeros_last (t : Text) :
    dropTrailingZeros t = [] ∨ ∃ p c, dropTrailingZeros t = p ++ [c] ∧ c ≠ '0' := by
  rw [dropTrailingZeros_eq_rdropWhile]
  by_cases empty : t.rdropWhile (· == '0') = []
  · exact Or.inl empty
  · have last := List.rdropWhile_last_not (· == '0') t empty
    refine Or.inr ⟨_, _, (List.dropLast_append_getLast empty).symm, ?_⟩
    simpa using last

end Calculator
