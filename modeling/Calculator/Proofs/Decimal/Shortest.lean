import Calculator.Number.Rounding
import Calculator.Proofs.Decimal.Digits

namespace Calculator

/-- A search along the first numbers stops at the first that answers. -/
theorem exists_first_of_findSome? {α : Type} {n : Nat} {answer? : Nat → Option α} {a : α}
    (found : (List.range n).findSome? answer? = some a) :
    ∃ i < n, answer? i = some a ∧ ∀ j < i, answer? j = none := by
  induction n with
  | zero => cases found
  | succ n ih =>
    rw [List.range_succ, List.findSome?_append, Option.or_eq_some_iff] at found
    rcases found with early | ⟨unanswered, last⟩
    · obtain ⟨i, small, first⟩ := ih early
      exact ⟨i, Nat.lt_succ_of_lt small, first⟩
    · refine ⟨n, Nat.lt_succ_self n, by simpa using last, ?_⟩
      intro j before
      exact List.findSome?_eq_none_iff.mp unanswered j (List.mem_range.mpr before)

/-- A number with more than some digits is no less than the power of ten with one digit more than those. -/
theorem pow_le_of_lt_length_toDigits {n i : Nat} (nonzero : n ≠ 0) (short : i < (Nat.toDigits 10 n).length) :
    10 ^ i ≤ n := by
  cases i with
  | zero => exact Nat.pos_of_ne_zero nonzero
  | succ i =>
    rw [← Nat.not_lt, ← Nat.length_toDigits_le_iff (by decide) (Nat.succ_pos i)]
    omega

namespace Format

variable {f : Format} {code : Nat}

/-- Ten has the factor two, so every magnitude is a decimal. -/
theorem code_exactDecimal (finite : code < f.infinityCode) :
    (f.exactDecimal code).code f = code := by
  have tens : 5 ^ f.places * 2 ^ f.places = 10 ^ f.places := (Nat.mul_pow 5 2 _).symm
  simp only [Decimal.code, Decimal.numerator, Decimal.denominator, exactDecimal, Int.neg_neg,
    Int.toNat_natCast, Int.toNat_neg_natCast, Nat.pow_zero, Nat.mul_one, Nat.mul_assoc, tens]
  exact nearest_steps finite (Nat.pow_pos (by decide))

/-- What is taken from a grid reads back, whichever of its two candidates that is. -/
theorem code_of_onGrid? {exponent : Int} {d : Decimal}
    (found : f.onGrid? code exponent = some d) : d.code f = code := by
  unfold onGrid? at found
  dsimp only at found
  split at found
  · rename_i low
    split at found
    · rename_i both
      cases Option.some.inj found
      exact both.1
    · cases Option.some.inj found
      exact low
  · split at found
    · rename_i high
      cases Option.some.inj found
      exact high
    · cases found

/-- The shortest decimal of a finite magnitude reads back as that magnitude. -/
theorem code_shortest (finite : code < f.infinityCode) : (f.shortest code).code f = code := by
  unfold shortest
  split
  · rename_i zero
    have noSteps : f.steps code * 1 = 0 := by rw [zero, steps, if_pos (Nat.two_pow_pos _)]
    have origin : f.nearest 0 1 = code := noSteps ▸ nearest_steps finite (by decide)
    simpa only [Decimal.code, Decimal.numerator, Decimal.denominator, Nat.zero_mul, Int.neg_zero, Int.toNat_zero,
      Nat.pow_zero] using origin
  · cases found : (List.range (f.fractionBits + 3)).findSome? fun (i : Nat) =>
        f.onGrid? code (f.coarsest code - i) with
    | none => exact code_exactDecimal finite
    | some d =>
      obtain ⟨i, _, grid⟩ := List.exists_of_findSome?_eq_some found
      exact code_of_onGrid? grid

/-- The shortest decimal stands on the first grid with an answer, if any of the grids that are tried has one. -/
theorem exists_onGrid?_of_isSome (nonzero : code ≠ 0) {i : Nat} (tried : i < f.fractionBits + 3)
    (answer : (f.onGrid? code (f.coarsest code - i)).isSome) :
    ∃ first ≤ i, f.onGrid? code (f.coarsest code - first) = some (f.shortest code) ∧
      ∀ j < first, f.onGrid? code (f.coarsest code - j) = none := by
  rw [shortest, if_neg nonzero]
  cases found : (List.range (f.fractionBits + 3)).findSome? fun (i : Nat) =>
      f.onGrid? code (f.coarsest code - i) with
  | none =>
    rw [List.findSome?_eq_none_iff] at found
    rw [found i (List.mem_range.mpr tried)] at answer
    cases answer
  | some d =>
    obtain ⟨first, _, grid, coarser⟩ := exists_first_of_findSome? found
    refine ⟨first, ?_, grid, coarser⟩
    by_contra late
    rw [coarser i (Nat.not_le.mp late)] at answer
    cases answer

end Format

end Calculator
