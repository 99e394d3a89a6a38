import Calculator.Proofs.Decimal.Magnitude
import Calculator.Proofs.Decimal.Positional

namespace Calculator

namespace Numeral

/-- Numbers up to this size are read in full. -/
theorem saturatedDigits_toDigits {n : Nat} (small : n ≤ 2 ^ (16 : Nat)) :
    saturatedDigits (Nat.toDigits 10 n) = n := by
  have digit {d : Nat} (short : d < 10) : d.digitChar.toNat - '0'.toNat = d := by
    rw [Nat.toNat_digitChar_of_lt_ten short]
    exact Nat.add_sub_cancel_left 48 d
  induction n using Nat.strong_induction_on with
  | _ n ih =>
    by_cases short : n < 10
    · rw [Nat.toDigits_of_lt_base short, saturatedDigits, List.foldl_cons, List.foldl_nil, if_pos (by decide),
        digit short, Nat.mul_zero, Nat.zero_add]
    · have front := ih (n / 10) (by omega) (by omega)
      rw [saturatedDigits] at front
      rw [Nat.toDigits_of_base_le (by decide) (by omega), saturatedDigits, List.foldl_append, front,
        List.foldl_cons, List.foldl_nil, if_pos (by omega), digit (Nat.mod_lt n (by decide)), Nat.div_add_mod]

/-- An exponent is read as its sign and its digits. -/
theorem exponent?_of_splitSign {negative : Bool} {rest digits : Text} (sign : splitSign rest = (negative, digits))
    (nonempty : digits ≠ []) (decimal : Digits digits) :
    exponent? ('e' :: rest) =
      some (if negative then -(saturatedDigits digits : Int) else saturatedDigits digits) := by
  have readable : ¬(digits = [] ∨ ¬digits.all Char.isDigit = true) := by
    rw [List.all_eq_true.mpr decimal]
    simp [nonempty]
  simp only [exponent?, true_or, if_true, sign, if_neg readable]
  split_ifs <;> rfl

/-- An exponent is read as it is written, with a minus where it is negative. -/
theorem exponent?_toDigits {e : Int} (small : e.natAbs ≤ 2 ^ (16 : Nat)) :
    exponent? ('e' :: if e < 0 then '-' :: Nat.toDigits 10 e.natAbs else Nat.toDigits 10 e.natAbs) = some e := by
  have digits := toDigits_digits e.natAbs
  have nonempty := (toDigits_whole e.natAbs).ne_nil
  split_ifs with negative
  · have sign : splitSign ('-' :: Nat.toDigits 10 e.natAbs) = (true, Nat.toDigits 10 e.natAbs) := rfl
    rw [exponent?_of_splitSign sign nonempty digits, saturatedDigits_toDigits small, if_pos rfl,
      Int.ofNat_natAbs_of_nonpos (by omega), Int.neg_neg]
  · have sign := splitSign_of_no_minus (digits.not_mem (c := '-') rfl) (digits.not_mem (c := '+') rfl)
    rw [exponent?_of_splitSign sign nonempty digits, saturatedDigits_toDigits small, if_neg Bool.false_ne_true,
      Int.natAbs_of_nonneg (by omega)]

/-- A numeral is read as digits, places and an exponent, once it is known where they part. -/
theorem decimal?_of_splitPlaces {t whole after places rest : Text} (front : t.takeWhile Char.isDigit = whole)
    (back : t.dropWhile Char.isDigit = after) (point : splitPlaces after = (places, rest)) (nonempty : whole ≠ []) :
    decimal? t = (exponent? rest).map fun e => ⟨Nat.ofDigitChars 10 (whole ++ places) 0, e - places.length⟩ := by
  simp [decimal?, front, back, point, nonempty]

/-- Digits, a point only where places follow, and an exponent. -/
theorem decimal?_marked {w p : Text} (whole : Digits w) (nonempty : w ≠ []) (places : Digits p) (rest : Text) :
    decimal? (w ++ (if p = [] then [] else '.' :: p) ++ 'e' :: rest) =
      (exponent? ('e' :: rest)).map fun e => ⟨Nat.ofDigitChars 10 (w ++ p) 0, e - p.length⟩ := by
  have front {t after : Text} {mark : Char} (digits : Digits t) (stop : mark.isDigit = false) :
      (t ++ mark :: after).takeWhile Char.isDigit = t := by
    rw [List.takeWhile_append_of_pos digits, List.takeWhile_cons_of_neg (by simp [stop]), List.append_nil]
  have back {t after : Text} {mark : Char} (digits : Digits t) (stop : mark.isDigit = false) :
      (t ++ mark :: after).dropWhile Char.isDigit = mark :: after := by
    rw [List.dropWhile_append_of_pos digits, List.dropWhile_cons_of_neg (by simp [stop])]
  split_ifs with noPlaces
  · subst p
    rw [List.append_nil]
    have exponent : (w ++ 'e' :: rest).dropWhile Char.isDigit = 'e' :: rest := back whole rfl
    have read := decimal?_of_splitPlaces (front whole rfl) exponent rfl nonempty
    rwa [List.append_nil] at read
  · rw [List.append_assoc, List.cons_append]
    refine decimal?_of_splitPlaces (front whole rfl) (back whole rfl) ?_ nonempty
    rw [splitPlaces, front places rfl, back places rfl]

end Numeral

namespace Decimal

variable {f : Format} {d : Decimal}

/-- The digits after the first, up to the last that is not zero. -/
def laterDigits (d : Decimal) : Text := dropTrailingZeros ((Nat.toDigits 10 d.coefficient).drop 1)

/-- What the scientific form of a decimal is read as. -/
def respelled (d : Decimal) : Decimal :=
  ⟨Nat.ofDigitChars 10 ((Nat.toDigits 10 d.coefficient).take 1 ++ d.laterDigits) 0,
    d.leading - d.laterDigits.length⟩

/-- The scientific form, with its parts named. -/
theorem scientific_eq (d : Decimal) :
    d.scientific =
      (Nat.toDigits 10 d.coefficient).take 1 ++ (if d.laterDigits = [] then [] else '.' :: d.laterDigits) ++
        'e' :: if d.leading < 0 then '-' :: Nat.toDigits 10 d.leading.natAbs
          else Nat.toDigits 10 d.leading.natAbs := rfl

theorem laterDigits_digits (d : Decimal) : Digits d.laterDigits := by
  obtain ⟨n, split⟩ := dropTrailingZeros_append_zeros ((Nat.toDigits 10 d.coefficient).drop 1)
  have digits : Digits ((Nat.toDigits 10 d.coefficient).drop 1) :=
    fun c member => toDigits_digits _ c (List.mem_of_mem_drop member)
  rw [← split] at digits
  exact digits.of_append_left

/-- The scientific form is a numeral. -/
theorem decimal?_scientific (small : d.leading.natAbs ≤ 2 ^ (16 : Nat)) :
    Numeral.decimal? d.scientific = some d.respelled := by
  have first : Digits ((Nat.toDigits 10 d.coefficient).take 1) :=
    fun c member => toDigits_digits _ c (List.mem_of_mem_take member)
  have nonempty : (Nat.toDigits 10 d.coefficient).take 1 ≠ [] := by simp
  rw [scientific_eq, Numeral.decimal?_marked first nonempty d.laterDigits_digits, Numeral.exponent?_toDigits small]
  rfl

/-- Only zeros at the end of the digits are left out. -/
theorem toRat_respelled (d : Decimal) : d.respelled.toRat = d.toRat := by
  obtain ⟨n, split⟩ := dropTrailingZeros_append_zeros ((Nat.toDigits 10 d.coefficient).drop 1)
  have length : 0 < (Nat.toDigits 10 d.coefficient).length := Nat.length_toDigits_pos
  have digits : (Nat.toDigits 10 d.coefficient).take 1 ++ d.laterDigits ++ List.replicate n '0' =
      Nat.toDigits 10 d.coefficient := by
    rw [List.append_assoc, laterDigits, split, List.take_append_drop]
  have count : d.laterDigits.length + n + 1 = (Nat.toDigits 10 d.coefficient).length := by
    rw [← digits, List.length_append, List.length_append, List.length_take, List.length_replicate]
    omega
  have coefficient : 10 ^ n * d.respelled.coefficient = d.coefficient := by
    rw [respelled, ← Nat.ofDigitChars_replicate_zero, ← Nat.ofDigitChars_append, digits,
      Nat.ofDigitChars_ten_toDigits]
  have exponent : d.respelled.exponent = d.exponent + n := by
    change d.leading - d.laterDigits.length = d.exponent + n
    rw [leading]
    omega
  rw [toRat, toRat, ← coefficient, exponent, zpow_add₀ (by norm_num), zpow_natCast, Nat.cast_mul, Nat.cast_pow,
    Nat.cast_ofNat]
  ac_rfl

/-- The pointed form is a numeral of the same magnitude. -/
theorem exists_decimal?_pointed (f : Format) (d : Decimal) :
    ∃ e, Numeral.decimal? d.pointed = some e ∧ e.code f = d.code f := by
  have whole := d.wholeDigits_whole
  by_cases noPlaces : d.placeDigits = []
  · have read := Numeral.decimal?_places whole.all_digits (.cons (c := '0') rfl .nil) (Or.inl whole.ne_nil)
    rw [pointed, if_pos noPlaces]
    have tenfold : Nat.ofDigitChars 10 (d.wholeDigits ++ ['0']) 0 = Nat.ofDigitChars 10 d.wholeDigits 0 * 10 := by
      rw [Nat.ofDigitChars_append, Nat.mul_comm]
      rfl
    refine ⟨_, read, (code_congr f ?_).trans (d.code_reread f)⟩
    rw [reread, noPlaces, List.append_nil, toRat, toRat, tenfold]
    simp
  · have same : d.pointed = d.positional := by rw [pointed, positional, if_neg noPlaces, if_neg noPlaces]
    exact ⟨d.reread, same ▸ d.decimal?_positional, d.code_reread f⟩

theorem pointed_spells (f : Format) (d : Decimal) : f.Spells d.pointed (d.code f) where
  head := by
    obtain ⟨c, rest, whole, digit⟩ := d.wholeDigits_whole.exists_head
    unfold pointed
    split_ifs <;> exact ⟨c, _, by rw [whole, List.cons_append], digit⟩
  space := by
    have whole := d.wholeDigits_whole.all_digits.not_mem (c := ' ') rfl
    have places := d.placeDigits_digits.not_mem (c := ' ') rfl
    unfold pointed
    split_ifs <;> simp [whole, places]
  read := exists_decimal?_pointed f d

theorem scientific_spells (f : Format) {d : Decimal} (small : d.leading.natAbs ≤ 2 ^ (16 : Nat)) :
    f.Spells d.scientific (d.code f) where
  head := by
    obtain ⟨c, rest, whole, digit⟩ := (toDigits_whole d.coefficient).exists_head
    exact ⟨c, _, by rw [scientific, whole]; rfl, digit⟩
  space := by
    have first : ' ' ∉ (Nat.toDigits 10 d.coefficient).take 1 :=
      fun member => (toDigits_digits d.coefficient).not_mem rfl (List.mem_of_mem_take member)
    have later : ' ' ∉ d.laterDigits := d.laterDigits_digits.not_mem rfl
    have exponent : ' ' ∉ Nat.toDigits 10 d.leading.natAbs := (toDigits_digits _).not_mem rfl
    rw [scientific_eq]
    split_ifs <;> simp [first, later, exponent]
  read := ⟨d.respelled, decimal?_scientific small, code_congr f d.toRat_respelled⟩

end Decimal

end Calculator
