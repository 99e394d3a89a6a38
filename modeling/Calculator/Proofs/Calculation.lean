import Calculator.Proofs.Expression.Shape
import Calculator.Proofs.Expression.Value

namespace Calculator

/-- Items joined by operators, from left to right. -/
inductive Chain (α : Type) where
  | single (x : α)
  | link (before : Chain α) (op : Operator) (x : α)
deriving DecidableEq

namespace Chain

variable {α β : Type}

def map (f : α → β) : Chain α → Chain β
  | single x => single (f x)
  | link before op x => link (before.map f) op (f x)

def last : Chain α → α
  | single x => x
  | link _ _ x => x

def mapLast (f : α → α) : Chain α → Chain α
  | single x => single (f x)
  | link before op x => link before op (f x)

/-- The terms of a chain, which its sums and differences join, each a chain of its factors. -/
def terms : Chain α → Chain (Chain α)
  | single x => single (single x)
  | link before op x =>
    if op.Tight then before.terms.mapLast (·.link op x) else before.terms.link op (single x)

/-- The result of computing from left to right, whatever the operators. -/
def compute : Chain Value → Value
  | single x => x
  | link before op x => (op.apply before.compute x).settle

@[simp] theorem last_mapLast (f : α → α) (c : Chain α) : (c.mapLast f).last = f c.last := by
  cases c <;> rfl

@[simp] theorem mapLast_mapLast (f g : α → α) (c : Chain α) : (c.mapLast f).mapLast g = c.mapLast (g ∘ f) := by
  cases c <;> rfl

/-- A product or a quotient goes on with the last term. -/
theorem terms_link_of_tight {op : Operator} (tight : op.Tight) (c : Chain α) (x : α) :
    (c.link op x).terms = c.terms.mapLast (·.link op x) := if_pos tight

/-- A sum or a difference begins a new term. -/
theorem terms_link_of_loose {op : Operator} (loose : ¬op.Tight) (c : Chain α) (x : α) :
    (c.link op x).terms = c.terms.link op (single x) := if_neg loose

/-- The last factor of the last term is the last item. -/
theorem last_terms (c : Chain α) : c.terms.last.last = c.last := by
  cases c with
  | single => rfl
  | link before op x =>
    by_cases tight : op.Tight
    · rw [terms_link_of_tight tight, last_mapLast]
      rfl
    · rw [terms_link_of_loose tight]
      rfl

/-- A change of the last item is a change of the last factor of the last term. -/
theorem terms_mapLast (f : α → α) (c : Chain α) : (c.mapLast f).terms = c.terms.mapLast (mapLast f) := by
  cases c with
  | single => rfl
  | link before op x =>
    by_cases tight : op.Tight
    · rw [mapLast, terms_link_of_tight tight, terms_link_of_tight tight, mapLast_mapLast]
      rfl
    · rw [mapLast, terms_link_of_loose tight, terms_link_of_loose tight]
      rfl

end Chain

/-- A calculation as it was entered: all of its operands, with nothing computed before the end. -/
abbrev Calculation := Chain Operand

namespace Calculation

open Chain

/-- The value of a term: its factors computed from left to right. -/
def product (t : Chain Operand) : Value := (t.map Operand.value).compute

/-- The value of terms: their products computed from left to right. -/
def total (s : Chain (Chain Operand)) : Value := (s.map product).compute

/-- The value of a calculation: products and quotients before sums and differences. -/
def value (c : Calculation) : Value := total c.terms

/-- The calculation at the start and after clear. -/
def start : Calculation := single (.typed ['0'])

/-- The calculation after a key. Operands are never computed before equals, which leaves their value alone. -/
def press (c : Calculation) : Key → Calculation
  | .typed char _ => c.mapLast (·.extend char)
  | .operator op => if c.last = .empty then c else c.link op .empty
  | .equals => single (.closed c.value.shown)
  | .clear => start

def run (c : Calculation) (keys : List Key) : Calculation := keys.foldl press c

@[simp] theorem product_single (o : Operand) : product (single o) = o.value := rfl

@[simp] theorem product_link (t : Chain Operand) (op : Operator) (o : Operand) :
    product (t.link op o) = (op.apply (product t) o.value).settle := rfl

@[simp] theorem total_single (t : Chain Operand) : total (single t) = product t := rfl

@[simp] theorem total_link (s : Chain (Chain Operand)) (op : Operator) (t : Chain Operand) :
    total (s.link op t) = (op.apply (total s) (product t)).settle := rfl

/-- An expression keeps what a calculation still needs: what stands before its last term as one operand, what
stands before the last factor of that term as another, and the last operand itself. -/
inductive Tracks : Expression → Calculation → Prop
  | alone {o : Operand} : o ≠ .empty → Tracks (.leaf o) (single o)
  | product {op : Operator} {l o : Operand} {c : Calculation} {t : Chain Operand} : op.Tight →
      c.terms = single (t.link op o) → l.value = product t → Tracks (.node op (.leaf l) (.leaf o)) c
  | sum {op : Operator} {l o : Operand} {c : Calculation} {s : Chain (Chain Operand)} : ¬op.Tight →
      c.terms = s.link op (single o) → l.value = total s → Tracks (.node op (.leaf l) (.leaf o)) c
  | nested {op inner : Operator} {l m o : Operand} {c : Calculation} {s : Chain (Chain Operand)}
      {t : Chain Operand} : ¬op.Tight → inner.Tight → c.terms = s.link op (t.link inner o) → l.value = total s →
      m.value = Calculation.product t → Tracks (.node op (.leaf l) (.node inner (.leaf m) (.leaf o))) c

theorem start_tracks : Tracks .start start := .alone (by decide)

namespace Tracks

variable {e : Expression} {c : Calculation}

/-- What was computed early counts in the calculation as it was entered. -/
theorem value_eq (tracks : Tracks e c) : e.value = c.value := by
  cases tracks with
  | alone => rfl
  | product _ terms left => rw [value, terms, total_single, product_link, ← left]; rfl
  | sum _ terms left => rw [value, terms, total_link, product_single, ← left]; rfl
  | nested _ _ terms left factor => rw [value, terms, total_link, product_link, ← left, ← factor]; rfl

theorem rightmost_eq (tracks : Tracks e c) : e.rightmost = c.last := by
  cases tracks with
  | alone => rfl
  | product _ terms _ => rw [← last_terms, terms]; rfl
  | sum _ terms _ => rw [← last_terms, terms]; rfl
  | nested _ _ terms _ _ => rw [← last_terms, terms]; rfl

/-- Typing reaches the last operand of both. -/
theorem typeChar (tracks : Tracks e c) {char : Char} (typeable : Typeable char) :
    Tracks (e.typeChar char) (c.mapLast (·.extend char)) := by
  rw [Expression.typeChar, if_pos typeable]
  cases tracks with
  | @alone o entered =>
    obtain ⟨t, typed, _⟩ := o.extend_eq_typed char
    exact .alone (by simp [typed])
  | product tight terms left => exact .product tight (by rw [terms_mapLast, terms]; rfl) left
  | sum loose terms left => exact .sum loose (by rw [terms_mapLast, terms]; rfl) left
  | nested loose tight terms left factor =>
    exact .nested loose tight (by rw [terms_mapLast, terms]; rfl) left factor

/-- The whole expression so far may become the left operand of an operator, unless that operator takes only the
last term. -/
theorem folded (tracks : Tracks e c) {op : Operator} (whole : op.Tight → ∃ t, c.terms = single t) :
    Tracks (.node op e.folded (.leaf .empty)) (c.link op .empty) := by
  have left := e.value_folded.trans tracks.value_eq
  by_cases tight : op.Tight
  · obtain ⟨t, terms⟩ := whole tight
    refine .product (t := t) tight ?_ ?_
    · rw [terms_link_of_tight tight, terms]
      rfl
    · rw [value, terms] at left
      exact left
  · exact .sum tight (terms_link_of_loose tight _ _) left

/-- At an expression with an empty place an operator changes nothing, as in the calculation. -/
theorem ignores (tracks : Tracks e c) (op : Operator) (awaiting : e.Awaiting) : e.applyOperator op = e := by
  cases tracks with
  | alone entered => exact absurd awaiting entered
  | product _ _ _ => exact if_pos awaiting
  | sum _ _ _ => exact if_pos awaiting
  | nested _ _ _ _ _ => exact if_pos awaiting

/-- Whether an operator climbs or folds, the operands that are computed early are finished terms or factors. -/
theorem applyOperator (tracks : Tracks e c) (op : Operator) (entered : ¬e.Awaiting) :
    Tracks (e.applyOperator op) (c.link op .empty) := by
  have before := tracks
  cases tracks with
  | @alone o _ =>
    by_cases tight : op.Tight
    · exact .product (t := single o) tight (terms_link_of_tight tight _ _) rfl
    · exact .sum (s := single (single o)) tight (terms_link_of_loose tight _ _) rfl
  | product topTight terms left =>
    rw [Expression.applyOperator_of_folds entered fun _ => topTight]
    exact before.folded fun _ => ⟨_, terms⟩
  | @sum top l o _ s loose terms left =>
    by_cases tight : op.Tight
    · rw [Expression.applyOperator_of_climbs entered loose tight]
      refine .nested (s := s) (t := single o) loose tight ?_ left (Expression.value_folded (.leaf o))
      rw [terms_link_of_tight tight, terms]
      rfl
    · rw [Expression.applyOperator_of_folds entered (absurd · tight)]
      exact before.folded (absurd · tight)
  | @nested top inner l m o _ s t loose innerTight terms left factor =>
    by_cases tight : op.Tight
    · rw [Expression.applyOperator_of_climbs entered loose tight]
      refine .nested (s := s) (t := t.link inner o) loose tight ?_ left ?_
      · rw [terms_link_of_tight tight, terms]
        rfl
      · rw [product_link, ← factor]
        exact Expression.value_folded (.node inner (.leaf m) (.leaf o))
    · rw [Expression.applyOperator_of_folds entered (absurd · tight)]
      exact before.folded (absurd · tight)

/-- Every key keeps an expression in step with its calculation. -/
theorem press (tracks : Tracks e c) (k : Key) : Tracks (e.press k) (c.press k) := by
  cases k with
  | typed char typeable => exact tracks.typeChar typeable
  | operator op =>
    have last := tracks.rightmost_eq
    by_cases awaiting : e.Awaiting
    · rw [Calculation.press, if_pos (last.symm.trans awaiting), Expression.press, tracks.ignores op awaiting]
      exact tracks
    · rw [Calculation.press, if_neg fun empty => awaiting (last.trans empty)]
      exact tracks.applyOperator op awaiting
  | equals =>
    change Tracks (.leaf (.closed e.value.shown)) (single (.closed c.value.shown))
    rw [tracks.value_eq]
    exact .alone (by simp)
  | clear => exact start_tracks

theorem run (tracks : Tracks e c) (keys : List Key) : Tracks (e.run keys) (c.run keys) := by
  induction keys generalizing e c with
  | nil => exact tracks
  | cons k keys ih => exact ih (tracks.press k)

end Tracks

/-- Computing while operators come in gives after every key the value of the whole calculation entered so far, and
equals shows that value. -/
theorem run_value_eq_calculation (keys : List Key) :
    (Expression.start.run keys).value = (start.run keys).value ∧
      (Expression.start.run (keys ++ [.equals])).readout = (start.run keys).value.shown ∧
      (start.run (keys ++ [.equals])).value = (start.run keys).value := by
  have tracks := start_tracks.run keys
  have final := start_tracks.run (keys ++ [.equals])
  refine ⟨tracks.value_eq, ?_, ?_⟩
  · rw [Expression.run_append]
    exact congrArg Value.shown tracks.value_eq
  · rw [← final.value_eq, ← tracks.value_eq, Expression.run_append]
    exact Expression.value_finish _

example : (start.run ("2+3*4-5".toList.filterMap Key.ofChar?)).value.shown = "9".toList := by decide +kernel

end Calculation

end Calculator
