import Calculator.Expression.Press
import Calculator.Proofs.Number.Shown

namespace Calculator

namespace Operator

/-- Products and quotients. -/
def Tight (op : Operator) : Prop := op = times ∨ op = divide

instance (op : Operator) : Decidable op.Tight := inferInstanceAs (Decidable (_ ∨ _))

/-- Products and quotients bind tighter than sums and differences, and there are no other differences. -/
theorem precedence_lt_iff (top op : Operator) : top.precedence < op.precedence ↔ ¬top.Tight ∧ op.Tight := by
  cases top <;> cases op <;> decide

end Operator

namespace Expression

/-- One of the two sides of an operator. -/
inductive Side where
  | left
  | right
deriving DecidableEq

/-- The part of an expression that a path of sides leads to. -/
def at? : Expression → List Side → Option Expression
  | e, [] => some e
  | leaf _, _ :: _ => none
  | node _ left _, .left :: path => left.at? path
  | node _ _ right, .right :: path => right.at? path

/-- A path that takes the right side every time. -/
def OnRight (path : List Side) : Prop := ∀ side ∈ path, side = .right

theorem ofText_of_ne_nil {t : Text} (nonempty : t ≠ []) : ofText t = leaf (.typed t) :=
  congrArg leaf (if_neg nonempty)

/-- What is folded never is an empty place. -/
theorem folded_eq (e : Expression) : e.folded = leaf (.typed e.value.shown) :=
  ofText_of_ne_nil (Value.shown_ne_nil _)

/-- An operator that binds no tighter than the one on top takes the value of the whole. -/
theorem applyOperator_of_folds {top op : Operator} {left right : Expression}
    (entered : ¬(node top left right).Awaiting)
    (folds : op.Tight → top.Tight) :
    (node top left right).applyOperator op = node op (node top left right).folded (leaf .empty) := by
  have low : ¬top.precedence < op.precedence := by
    rw [Operator.precedence_lt_iff]
    exact fun climbs => climbs.1 (folds climbs.2)
  rw [applyOperator, if_neg (show ¬right.Awaiting from entered), if_neg low]

/-- A product or quotient under a sum or difference takes the value of the right side only. -/
theorem applyOperator_of_climbs {top op : Operator} {left right : Expression}
    (entered : ¬(node top left right).Awaiting)
    (loose : ¬top.Tight) (tight : op.Tight) :
    (node top left right).applyOperator op = node top left (node op right.folded (leaf .empty)) := by
  have low := (Operator.precedence_lt_iff top op).mpr ⟨loose, tight⟩
  rw [applyOperator, if_neg (show ¬right.Awaiting from entered), if_pos low]

/-- At a node an operator is ignored, or it takes the right side only, or it takes the whole. -/
theorem applyOperator_cases (top op : Operator) (left right : Expression) :
    (node top left right).applyOperator op = node top left right ∨
      (¬top.Tight ∧ op.Tight ∧
        (node top left right).applyOperator op = node top left (node op right.folded (leaf .empty))) ∨
      ((op.Tight → top.Tight) ∧
        (node top left right).applyOperator op = node op (node top left right).folded (leaf .empty)) := by
  by_cases awaiting : (node top left right).Awaiting
  · exact Or.inl (if_pos awaiting)
  · by_cases climbs : ¬top.Tight ∧ op.Tight
    · exact Or.inr (Or.inl ⟨climbs.1, climbs.2, applyOperator_of_climbs awaiting climbs.1 climbs.2⟩)
    · have folds (tight : op.Tight) : top.Tight := Decidable.byContradiction fun loose => climbs ⟨loose, tight⟩
      exact Or.inr (Or.inr ⟨folds, applyOperator_of_folds awaiting folds⟩)

/-- What is asked of the operands of an expression, place by place: where an operand stands alone, on the left of
the first operator, on the left of a product under a sum, and at the right end. -/
structure Places where
  alone : Operand → Prop
  first : Operator → Operand → Prop
  factor : Operand → Prop
  last : Operand → Prop

/-- An expression of one of the three forms that pressing keys leads to, with operands as they are asked for. -/
inductive Fits (P : Places) : Expression → Prop
  | alone {o : Operand} : P.alone o → Fits P (leaf o)
  | pair {op : Operator} {l r : Operand} : P.first op l → P.last r → Fits P (node op (leaf l) (leaf r))
  | nested {op inner : Operator} {l m r : Operand} : ¬op.Tight → inner.Tight → P.first op l → P.factor m →
      P.last r → Fits P (node op (leaf l) (node inner (leaf m) (leaf r)))

/-- What typing and operators need so that operands stay as they are asked for. -/
structure Places.Kept (P : Places) : Prop where
  alone_extend {o : Operand} {c : Char} : Typeable c → P.alone o → P.alone (o.extend c)
  last_extend {o : Operand} {c : Char} : Typeable c → P.last o → P.last (o.extend c)
  last_empty : P.last .empty
  first_of_alone {op : Operator} {o : Operand} : P.alone o → P.first op o
  first_of_node {top op : Operator} {left right : Expression} : Fits P (node top left right) →
    (op.Tight → top.Tight) → P.first op (.typed (node top left right).value.shown)
  factor_of_last {o : Operand} : P.last o → P.factor (.typed o.value.shown)
  factor_of_product {inner : Operator} {m r : Operand} : inner.Tight → P.factor m → P.last r →
    P.factor (.typed (node inner (leaf m) (leaf r)).value.shown)

namespace Fits

variable {P : Places} {e : Expression}

theorem typeChar (kept : P.Kept) (fits : Fits P e) {c : Char} (typeable : Typeable c) : Fits P (e.typeChar c) := by
  rw [Expression.typeChar, if_pos typeable]
  cases fits with
  | alone whole => exact .alone (kept.alone_extend typeable whole)
  | pair first last => exact .pair first (kept.last_extend typeable last)
  | nested loose tight first factor last =>
    exact .nested loose tight first factor (kept.last_extend typeable last)

theorem applyOperator (kept : P.Kept) (fits : Fits P e) (op : Operator) : Fits P (e.applyOperator op) := by
  have whole := fits
  cases fits with
  | alone alone => exact .pair (kept.first_of_alone alone) kept.last_empty
  | @pair top l r first last =>
    rcases applyOperator_cases top op (leaf l) (leaf r) with same | ⟨loose, tight, climbs⟩ | ⟨folds, step⟩
    · rw [same]
      exact whole
    · rw [climbs, folded_eq]
      exact .nested loose tight first (kept.factor_of_last last) kept.last_empty
    · rw [step, folded_eq]
      exact .pair (kept.first_of_node whole folds) kept.last_empty
  | @nested top inner l m r _ innerTight first factor last =>
    rcases applyOperator_cases top op (leaf l) (node inner (leaf m) (leaf r)) with
      same | ⟨loose, tight, climbs⟩ | ⟨folds, step⟩
    · rw [same]
      exact whole
    · rw [climbs, folded_eq]
      exact .nested loose tight first (kept.factor_of_product innerTight factor last) kept.last_empty
    · rw [step, folded_eq]
      exact .pair (kept.first_of_node whole folds) kept.last_empty

theorem press (kept : P.Kept) (initial : P.alone (.typed ['0'])) (fits : Fits P e) {k : Key}
    (result : k = .equals → P.alone (.closed e.value.shown)) : Fits P (e.press k) := by
  cases k with
  | typed c typeable => exact fits.typeChar kept typeable
  | operator op => exact fits.applyOperator kept op
  | equals => exact .alone (result rfl)
  | clear => exact .alone initial

/-- What every key keeps holds after any keys. -/
theorem run (kept : P.Kept) (initial : P.alone (.typed ['0'])) (fits : Fits P e) {keys : List Key}
    (result : .equals ∈ keys → ∀ v : Value, P.alone (.closed v.shown)) : Fits P (e.run keys) := by
  induction keys generalizing e with
  | nil => exact fits
  | cons k keys ih =>
    refine ih (fits.press kept initial ?_) fun member => result (List.mem_cons_of_mem k member)
    rintro rfl
    exact result List.mem_cons_self _

/-- Every leaf stands in one of five places. -/
theorem leaf_at (fits : Fits P e) {path : List Side} {o : Operand} (found : e.at? path = some (leaf o)) :
    (path = [] ∧ P.alone o ∧ e = leaf o) ∨ (path = [.left] ∧ ∃ op, P.first op o) ∨
      (path = [.right, .left] ∧ P.factor o) ∨ ((path = [.right] ∨ path = [.right, .right]) ∧ P.last o) := by
  cases fits with
  | alone alone =>
    match path, found with
    | [], found =>
      cases found
      exact Or.inl ⟨rfl, alone, rfl⟩
  | @pair op l r first last =>
    match path, found with
    | [.left], found =>
      cases found
      exact Or.inr (Or.inl ⟨rfl, op, first⟩)
    | [.right], found =>
      cases found
      exact Or.inr (Or.inr (Or.inr ⟨Or.inl rfl, last⟩))
  | @nested op inner l m r loose tight first factor last =>
    match path, found with
    | [.left], found =>
      cases found
      exact Or.inr (Or.inl ⟨rfl, op, first⟩)
    | [.right, .left], found =>
      cases found
      exact Or.inr (Or.inr (Or.inl ⟨rfl, factor⟩))
    | [.right, .right], found =>
      cases found
      exact Or.inr (Or.inr (Or.inr ⟨Or.inr rfl, last⟩))

/-- The left side of every operator is a leaf. -/
theorem node_at (fits : Fits P e) {path : List Side} {op : Operator} {left right : Expression}
    (found : e.at? path = some (node op left right)) : ∃ o, left = leaf o ∧ (P.first op o ∨ P.factor o) := by
  cases fits with
  | alone alone =>
    match path, found with
    | [], found => cases found
  | pair first last =>
    match path, found with
    | [], found =>
      cases found
      exact ⟨_, rfl, Or.inl first⟩
    | [.left], found => cases found
    | [.right], found => cases found
  | nested loose tight first factor last =>
    match path, found with
    | [], found =>
      cases found
      exact ⟨_, rfl, Or.inl first⟩
    | [.left], found => cases found
    | [.right], found =>
      cases found
      exact ⟨_, rfl, Or.inr factor⟩
    | [.right, .left], found => cases found
    | [.right, .right], found => cases found

end Fits

end Expression

end Calculator
