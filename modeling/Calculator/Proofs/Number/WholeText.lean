import Calculator.Proofs.Number.Shown
import Calculator.Proofs.Number.Whole

namespace Calculator

namespace Decimal

theorem code_of_natCast_exponent (f : Format) (m e : Nat) :
    Decimal.code f ⟨m, e⟩ = f.nearest (m * 10 ^ e * 2 ^ f.places) 1 := by
  simp [code, numerator, denominator]

/-- A whole number is written with its own digits, whatever power of ten it is counted in. -/
theorem positional_of_whole {d : Decimal} {e n : Nat} (exponent : d.exponent = e)
    (value : d.coefficient * 10 ^ e = n) : d.positional = Nat.toDigits 10 n := by
  have places : d.placeCount = 0 := by simp [placeCount, exponent]
  obtain ⟨one, noPlaces⟩ := placeDigits_of_placeCount_eq_zero places
  have whole : d.numerator = n := by rw [numerator, exponent, Int.toNat_natCast, value]
  rw [positional, if_pos noPlaces, wholeDigits, one, whole, Nat.div_one]

end Decimal

namespace Format

variable {f : Format} {code n : Nat}

section Whole

variable (roomy : f.Roomy) (small : n ≤ 2 ^ (f.fractionBits + 1)) (finite : code < f.infinityCode)
  (whole : f.steps code = n * 2 ^ f.places)

include whole

/-- The two neighbours of a whole number on a grid of whole numbers. -/
theorem onGrid?_of_whole (e : Nat) :
    f.onGrid? code e =
      if Decimal.code f ⟨n / 10 ^ e, e⟩ = code then
        if Decimal.code f ⟨n / 10 ^ e + 1, e⟩ = code ∧
            2 ^ f.places * 10 ^ e ≤ 2 * (2 ^ f.places * (n % 10 ^ e)) then
          some ⟨n / 10 ^ e + 1, e⟩
        else some ⟨n / 10 ^ e, e⟩
      else if Decimal.code f ⟨n / 10 ^ e + 1, e⟩ = code then some ⟨n / 10 ^ e + 1, e⟩ else none := by
  have quotient : n * 2 ^ f.places / (2 ^ f.places * 10 ^ e) = n / 10 ^ e := by
    rw [Nat.mul_comm n, Nat.mul_div_mul_left _ _ (Nat.two_pow_pos _)]
  have remainder : n * 2 ^ f.places % (2 ^ f.places * 10 ^ e) = 2 ^ f.places * (n % 10 ^ e) := by
    rw [Nat.mul_comm n, Nat.mul_mod_mul_left]
  simp only [onGrid?, whole, Int.toNat_neg_natCast, Int.toNat_natCast, Nat.pow_zero, Nat.mul_one, quotient,
    remainder]

theorem eq_whole_of_code {m e : Nat} (held : f.Holds (m * 10 ^ e * 2 ^ f.places))
    (back : Decimal.code f ⟨m, e⟩ = code) : m * 10 ^ e = n := by
  have steps := (held.nearest (d := 1) (by decide)).2
  rw [Nat.mul_one, ← Decimal.code_of_natCast_exponent, back, whole] at steps
  exact (Nat.mul_right_cancel (Nat.two_pow_pos _) steps).symm

include finite

theorem code_of_eq_whole {m e : Nat} (value : m * 10 ^ e = n) : Decimal.code f ⟨m, e⟩ = code := by
  have own := nearest_steps finite (d := 1) (by decide)
  rwa [whole, Nat.mul_one, ← value, ← Decimal.code_of_natCast_exponent] at own

include roomy small

omit finite in
/-- The lower neighbour is a whole number that is held, so it reads back as itself. -/
theorem low_eq_whole {e : Nat} (back : Decimal.code f ⟨n / 10 ^ e, e⟩ = code) : n / 10 ^ e * 10 ^ e = n :=
  eq_whole_of_code whole (roomy.holds_whole (Nat.le_trans (Nat.div_mul_le_self n _) small)) back

/-- The upper neighbour is even and at most twice as large, so it is held too, and reads back as itself. -/
theorem high_code_ne {e : Nat} (fits : 10 ^ e ≤ n) (low : Decimal.code f ⟨n / 10 ^ e, e⟩ ≠ code) :
    Decimal.code f ⟨n / 10 ^ e + 1, e⟩ ≠ code := by
  intro back
  cases e with
  | zero => exact low (code_of_eq_whole finite whole (by simp))
  | succ e =>
    have unit : 10 ^ (e + 1) = 2 * (5 * 10 ^ e) := by omega
    have below : n / 10 ^ (e + 1) * 10 ^ (e + 1) ≤ n := Nat.div_mul_le_self n _
    have next : (n / 10 ^ (e + 1) + 1) * 10 ^ (e + 1) = n / 10 ^ (e + 1) * 10 ^ (e + 1) + 10 ^ (e + 1) :=
      Nat.succ_mul _ _
    have even : (n / 10 ^ (e + 1) + 1) * 10 ^ (e + 1) = 2 * ((n / 10 ^ (e + 1) + 1) * (5 * 10 ^ e)) := by
      rw [unit]
      ac_rfl
    have value : (n / 10 ^ (e + 1) + 1) * 10 ^ (e + 1) = n := by
      refine eq_whole_of_code whole ?_ back
      rw [even]
      exact roomy.holds_even (by omega)
    have above : n < 10 ^ (e + 1) * (n / 10 ^ (e + 1) + 1) := Nat.lt_mul_div_succ n (Nat.pow_pos (by decide))
    rw [Nat.mul_comm, value] at above
    exact Nat.lt_irrefl n above

/-- On a grid of whole numbers that is not too coarse nothing reads back as a whole number but that number. -/
theorem eq_whole_of_onGrid? {e : Nat} (fits : 10 ^ e ≤ n) {d : Decimal} (found : f.onGrid? code e = some d) :
    d.exponent = e ∧ d.coefficient * 10 ^ e = n := by
  rw [onGrid?_of_whole whole] at found
  split at found
  · rename_i low
    have value := low_eq_whole roomy small whole low
    have noRest : n % 10 ^ e = 0 := by
      have split := Nat.div_add_mod' n (10 ^ e)
      omega
    have far : ¬2 ^ f.places * 10 ^ e ≤ 2 * (2 ^ f.places * (n % 10 ^ e)) := by
      rw [noRest, Nat.mul_zero, Nat.mul_zero, Nat.not_le]
      exact Nat.mul_pos (Nat.two_pow_pos _) (Nat.pow_pos (by decide))
    rw [if_neg (far ∘ And.right)] at found
    cases found
    exact ⟨rfl, value⟩
  · rename_i low
    rw [if_neg (high_code_ne roomy small finite whole fits low)] at found
    cases found

omit roomy small in
/-- The finest of these grids has the number itself. -/
theorem isSome_onGrid?_zero : (f.onGrid? code ((0 : Nat) : Int)).isSome := by
  have low := code_of_eq_whole (m := n / 10 ^ 0) (e := 0) finite whole (by simp)
  rw [onGrid?_of_whole whole, if_pos low]
  split <;> rfl

/-- The shortest decimal of a whole number is that number in ones, tens, hundreds or whatever serves. -/
theorem shortest_of_whole (nonzero : n ≠ 0) :
    ∃ e : Nat, (f.shortest code).exponent = e ∧ (f.shortest code).coefficient * 10 ^ e = n := by
  have scale := Nat.two_pow_pos f.places
  have nonzeroCode : code ≠ 0 := by
    rintro rfl
    rw [steps_zero] at whole
    rcases Nat.mul_eq_zero.mp whole.symm with zero | zero
    · exact nonzero zero
    · omega
  have coarsest : f.coarsest code = ((Nat.toDigits 10 n).length : Int) - 1 := by
    have above : 2 ^ f.places ≤ n * 2 ^ f.places := Nat.le_mul_of_pos_left _ (Nat.pos_of_ne_zero nonzero)
    simp only [Format.coarsest, whole, if_pos above, Nat.mul_div_cancel n scale]
  have length : (Nat.toDigits 10 n).length ≤ f.fractionBits + 3 := by
    rw [Nat.length_toDigits_le_iff (by decide) (by omega)]
    calc n
      _ ≤ 2 ^ (f.fractionBits + 1) := small
      _ < 2 ^ (f.fractionBits + 3) := Nat.pow_lt_pow_right (by decide) (by omega)
      _ ≤ 10 ^ (f.fractionBits + 3) := Nat.pow_le_pow_left (by decide) _
  have positive : 0 < (Nat.toDigits 10 n).length := Nat.length_toDigits_pos
  have last : (f.onGrid? code (f.coarsest code - ((Nat.toDigits 10 n).length - 1 : Nat))).isSome := by
    rw [coarsest,
      show ((Nat.toDigits 10 n).length : Int) - 1 - ((Nat.toDigits 10 n).length - 1 : Nat) = (0 : Nat) by omega]
    exact isSome_onGrid?_zero finite whole
  obtain ⟨first, early, grid, _⟩ := exists_onGrid?_of_isSome nonzeroCode (by omega) last
  have place : ((Nat.toDigits 10 n).length : Int) - 1 - first = ((Nat.toDigits 10 n).length - 1 - first : Nat) := by
    omega
  rw [coarsest, place] at grid
  exact ⟨_, eq_whole_of_onGrid? roomy small finite whole (pow_le_of_lt_length_toDigits nonzero (by omega)) grid⟩

end Whole

end Format

/-- A whole number is written as whole numbers are: all of its digits, a minus where it is negative, and no more. -/
theorem Number.text_ofInt {f : Format} {n : Int} (roomy : f.Roomy) (small : n.natAbs ≤ 2 ^ (f.fractionBits + 1)) :
    (ofInt f n).text = n.repr.toList := by
  obtain ⟨finite, steps⟩ := ofInt_steps roomy small
  have digits : (f.shortest (ofInt f n).code).positional = Nat.toDigits 10 n.natAbs := by
    by_cases isZero : n = 0
    · subst n
      rw [ofInt_zero, Int.natAbs_zero]
      exact Decimal.positional_of_whole (e := 0) rfl rfl
    · have nonzero := Int.natAbs_ne_zero.mpr isZero
      obtain ⟨e, exponent, value⟩ := Format.shortest_of_whole roomy small finite steps nonzero
      exact Decimal.positional_of_whole exponent value
  rw [text_of_isFinite finite, digits, ofInt_negative]
  cases n with
  | ofNat m => simp [signed, Int.repr, Nat.repr]
  | negSucc m => simp [signed, Int.repr, Nat.repr]

end Calculator
