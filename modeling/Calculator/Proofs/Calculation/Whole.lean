import Calculator.Proofs.Calculation
import Calculator.Proofs.Number.WholeText

namespace Calculator

/-- Whole numbers up to here are values with no rounding. -/
def Small (n : Int) : Prop := n.natAbs ≤ 2 ^ 53

instance (n : Int) : Decidable (Small n) := inferInstanceAs (Decidable (_ ≤ _))

namespace Operator

/-- One operation on whole numbers. A quotient is meant only where nothing remains. -/
def onInt : Operator → Int → Int → Int
  | plus, a, b => a + b
  | minus, a, b => a - b
  | times, a, b => a * b
  | divide, a, b => a / b

end Operator

namespace Value

theorem roomy : Format.double.Roomy := by
  unfold Format.Roomy
  decide

abbrev ofInt (n : Int) : Value := Number.ofInt .double n

/-- A small whole number is settled from the start. -/
theorem settle_ofInt {n : Int} (small : Small n) : (ofInt n).settle = ofInt n := Number.ofInt_settled roomy small

/-- A small whole number is shown as whole numbers are written. -/
theorem shown_ofInt {n : Int} (small : Small n) : (ofInt n).shown = n.repr.toList := by
  rw [shown, settle_ofInt small]
  exact Number.text_ofInt roomy small

end Value

open Value (ofInt roomy)

/-- An operation on small whole numbers is exact where it comes to a small whole number again. A quotient by zero is
zero in both worlds. -/
theorem Operator.apply_ofInt {op : Operator} {a b : Int} (left : Small a) (right : Small b)
    (whole : op = divide → b ∣ a) (small : Small (op.onInt a b)) :
    (op.apply (ofInt a) (ofInt b)).settle = ofInt (op.onInt a b) := by
  rw [← Value.settle_ofInt small]
  cases op with
  | plus => exact Number.add_ofInt roomy left right
  | minus => exact Number.sub_ofInt roomy left right
  | times => exact Number.mul_ofInt roomy left right
  | divide =>
    by_cases zero : b = 0
    · subst b
      rw [divide_by_zero ((Number.ofInt_isZero_iff roomy right).mpr rfl), onInt, Int.ediv_zero]
      exact congrArg Number.settle Number.ofInt_zero.symm
    · rw [divide_by_nonzero (zero ∘ (Number.ofInt_isZero_iff roomy right).mp)]
      exact Number.div_ofInt roomy left right zero (whole rfl)

namespace Chain

variable {α β γ : Type}

theorem map_map (f : α → β) (g : β → γ) (c : Chain α) : (c.map f).map g = c.map (g ∘ f) := by
  induction c with
  | single => rfl
  | link before op x ih => simp only [map, ih, Function.comp_apply]

theorem last_map (f : α → β) (c : Chain α) : (c.map f).last = f c.last := by
  cases c <;> rfl

theorem map_mapLast {f : α → β} {g : α → α} {h : β → β} (same : ∀ x, f (g x) = h (f x)) (c : Chain α) :
    (c.mapLast g).map f = (c.map f).mapLast h := by
  cases c with
  | single x => exact congrArg single (same x)
  | link before op x => exact congrArg ((before.map f).link op) (same x)

/-- Items may be replaced before or after they are gathered into terms. -/
theorem terms_map (f : α → β) (c : Chain α) : (c.map f).terms = c.terms.map (map f) := by
  induction c with
  | single => rfl
  | link before op x ih =>
    by_cases tight : op.Tight
    · rw [map, terms_link_of_tight tight, terms_link_of_tight tight, ih]
      have inner (c : Chain α) : (c.link op x).map f = (c.map f).link op (f x) := rfl
      exact (map_mapLast inner before.terms).symm
    · rw [map, terms_link_of_loose tight, terms_link_of_loose tight, ih]
      rfl

/-- The whole number that items come to, computed from left to right. -/
def result (number : α → Int) : Chain α → Int
  | single x => number x
  | link before op x => op.onInt (before.result number) (number x)

/-- All items are as asked for, and all that is computed on the way is a small whole number. -/
def Within (asked : α → Prop) (number : α → Int) : Chain α → Prop
  | single x => asked x
  | link before op x => before.Within asked number ∧ asked x ∧ (op = .divide → number x ∣ before.result number) ∧
      Small (op.onInt (before.result number) (number x))

instance decidableWithin (asked : α → Prop) [DecidablePred asked] (number : α → Int) :
    (c : Chain α) → Decidable (c.Within asked number)
  | single x => inferInstanceAs (Decidable (asked x))
  | link before _ _ =>
    have := decidableWithin asked number before
    inferInstanceAs (Decidable (_ ∧ _ ∧ _ ∧ _))

/-- What is computed with values is then what is computed with whole numbers. -/
theorem Within.compute_eq {asked : α → Prop} {number : α → Int} {value : α → Value} {c : Chain α}
    (within : c.Within asked number) (exact : ∀ x, asked x → Small (number x) ∧ value x = ofInt (number x)) :
    Small (c.result number) ∧ (c.map value).compute = ofInt (c.result number) := by
  induction c with
  | single x => exact exact x within
  | link before op x ih =>
    obtain ⟨early, item, whole, small⟩ := within
    obtain ⟨left, computed⟩ := ih early
    obtain ⟨right, same⟩ := exact x item
    refine ⟨small, ?_⟩
    rw [map, compute, computed, same]
    exact Operator.apply_ofInt left right whole small

end Chain

/-- The keys that whole numbers are calculated with. -/
inductive WholeKey where
  | digit (d : Fin 10)
  | operator (op : Operator)
deriving DecidableEq

def WholeKey.key : WholeKey → Key
  | digit d => .typed (Nat.digitChar d) (Or.inl (by simp [Nat.isDigit_digitChar]))
  | operator op => .operator op

/-- A calculation of whole numbers, the last of which may not have begun. -/
abbrev WholeCalculation := Chain (Option Nat)

namespace WholeCalculation

open Chain

/-- The number of a place; what has not begun counts zero. -/
def number (n : Option Nat) : Int := n.getD 0

def start : WholeCalculation := single (some 0)

/-- The calculation after a key. A digit is put behind the last number, and an operator that follows another is
ignored. -/
def press (c : WholeCalculation) : WholeKey → WholeCalculation
  | .digit d => c.mapLast fun n => some (10 * n.getD 0 + d)
  | .operator op => if c.last = none then c else c.link op none

def run (c : WholeCalculation) (keys : List WholeKey) : WholeCalculation := keys.foldl press c

/-- Products before sums, and each from left to right. -/
def value (c : WholeCalculation) : Int := c.terms.result (result number)

/-- Everything typed and everything computed on the way is a small whole number. -/
def Exact (c : WholeCalculation) : Prop := c.terms.Within (Within (Small ∘ number) number) (result number)

instance (c : WholeCalculation) : Decidable c.Exact :=
  inferInstanceAs (Decidable (Within (Within (Small ∘ number) number) _ _))

def written (n : Option Nat) : Operand := n.elim .empty fun n => .typed (Nat.toDigits 10 n)

/-- A digit behind the text of a number gives the text of the number with that digit; a lone nought gives way. -/
theorem written_extend (n : Option Nat) (d : Fin 10) :
    (written n).extend (Nat.digitChar d) = written (some (10 * n.getD 0 + d)) := by
  have digit : (Nat.digitChar d).isDigit = true := by simp [Nat.isDigit_digitChar]
  match n with
  | none =>
    change Operand.empty.extend _ = .typed _
    rw [Operand.extend_empty, Option.getD_none, Nat.mul_zero, Nat.zero_add, Nat.toDigits_of_lt_base d.isLt]
  | some 0 =>
    change (Operand.typed ['0']).extend _ = .typed _
    rw [Operand.extend_zero digit, Option.getD_some, Nat.mul_zero, Nat.zero_add, Nat.toDigits_of_lt_base d.isLt]
  | some (n + 1) =>
    have other : Nat.toDigits 10 (n + 1) ≠ ['0'] := fun zero => Nat.succ_ne_zero n (eq_zero_of_toDigits zero)
    change (Operand.typed _).extend _ = .typed _
    rw [Operand.extend_digit digit other, Option.getD_some,
      ← Nat.toDigits_append_toDigits (by decide) (Nat.succ_pos n) d.isLt, Nat.toDigits_of_lt_base d.isLt]

theorem written_eq_empty_iff (n : Option Nat) : written n = .empty ↔ n = none := by
  cases n <;> simp [written]

/-- The text of a small whole number is worth that number, and a place where nothing stands is worth zero. -/
theorem written_value {n : Option Nat} (small : Small (number n)) : (written n).value = ofInt (number n) := by
  cases n with
  | none => exact Operand.value_empty.trans Number.ofInt_zero.symm
  | some n =>
    rw [← Value.settle_ofInt small]
    apply Operand.value_of_text
    rw [Value.shown_ofInt small]
    simp [written, number, Operand.text, Int.repr, Nat.repr]

/-- A key does to the texts of whole numbers what it does to the numbers. -/
theorem press_map (c : WholeCalculation) (k : WholeKey) :
    Calculation.press (c.map written) k.key = (c.press k).map written := by
  cases k with
  | digit d => exact (map_mapLast (fun n => (written_extend n d).symm) c).symm
  | operator op =>
    change (if (c.map written).last = .empty then _ else _) = _
    simp only [last_map, written_eq_empty_iff, press]
    split <;> rfl

theorem run_map (c : WholeCalculation) (keys : List WholeKey) :
    Calculation.run (c.map written) (keys.map WholeKey.key) = (c.run keys).map written := by
  induction keys generalizing c with
  | nil => rfl
  | cons k keys ih =>
    have next := ih (c.press k)
    rw [← press_map] at next
    exact next

/-- An exact calculation has the same result with values as with whole numbers. -/
theorem Exact.value_eq {c : WholeCalculation} (exact : c.Exact) :
    Small c.value ∧ Calculation.value (c.map written) = ofInt c.value := by
  have term (t : Chain (Option Nat)) (within : t.Within (Small ∘ number) number) :
      Small (t.result number) ∧ Calculation.product (t.map written) = ofInt (t.result number) := by
    rw [Calculation.product, map_map]
    exact within.compute_eq fun n small => ⟨small, written_value small⟩
  rw [Calculation.value, Calculation.total, terms_map, map_map]
  exact exact.compute_eq term

/-- A calculation of whole numbers is exact as long as everything typed and everything computed on the way stays
small: equals then shows the number that the calculation comes to, as whole numbers are written. -/
theorem readout_of_exact (keys : List WholeKey) (exact : (start.run keys).Exact) :
    (Expression.start.run (keys.map WholeKey.key ++ [.equals])).readout = (start.run keys).value.repr.toList := by
  have tracks := Calculation.start_tracks.run (keys.map WholeKey.key)
  have begin : Calculation.start = start.map written := rfl
  obtain ⟨small, value⟩ := exact.value_eq
  rw [Expression.run_append]
  change Value.shown (Expression.value _) = _
  rw [tracks.value_eq, begin, run_map, value, Value.shown_ofInt small]

/-- Nought less a square, with an operator to ignore and one that still waits for its operand. -/
def square : List WholeKey :=
  [.digit 0, .operator .minus, .operator .times, .digit 9, .digit 4, .digit 9, .digit 0, .digit 6, .digit 2,
    .digit 6, .digit 5, .operator .times, .digit 9, .digit 4, .digit 9, .digit 0, .digit 6, .digit 2, .digit 6,
    .digit 5, .operator .plus]

theorem readout_of_exact_square :
    square.map WholeKey.key = "0-*94906265*94906265+".toList.filterMap Key.ofChar? ∧ (start.run square).Exact ∧
      (Expression.start.run (square.map WholeKey.key ++ [.equals])).readout = "-9007199136250225".toList := by
  have exact : (start.run square).Exact := by decide
  refine ⟨by decide, exact, ?_⟩
  rw [readout_of_exact square exact]
  decide

end WholeCalculation

end Calculator
