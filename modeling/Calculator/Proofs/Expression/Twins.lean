import Calculator.Proofs.Expression.Grouping

namespace Calculator

/-- What typing makes of an operand depends on what it adds to. -/
theorem Operand.extend_of_base {o p : Operand} (base : o.base = p.base) (c : Char) : o.extend c = p.extend c := by
  rw [extend, extend, base]

/-- No value is shown as a nought with a bare point. -/
theorem Canonical.ne_zero_point {t : Text} (canonical : Canonical t) : t ≠ ['0', '.'] := by
  intro point
  cases canonical with
  | plain plain =>
    cases plain with
    | whole whole =>
      have digit : '.'.isDigit = true := whole.all_digits '.' (by simp [point])
      cases digit
    | @places w p c whole _ _ _ =>
      have positive := List.length_pos_of_ne_nil whole.ne_nil
      have length := congrArg List.length point
      simp only [List.length_append, List.length_cons, List.length_nil] at length
      omega
  | minus => cases point

/-- A final result other than zero starts over with a character that an open operand of its text takes in. -/
theorem Operand.extend_apart {t : Text} {c : Char} (canonical : Canonical t) (other : t ≠ ['0'])
    (typeable : Typeable c) : ((typed t).extend c).text ≠ ((closed t).extend c).text := by
  have restarted : (closed t).extend c = (typed ['0']).extend c := extend_of_base rfl c
  rw [restarted]
  rcases typeable with digit | rfl
  · rw [extend_zero digit, extend_digit digit other]
    intro same
    have blank : t = [] := List.append_left_eq_self.mp same
    exact canonical.ne_nil blank
  · have zero : (typed ['0']).extend '.' = typed ['0', '.'] := rfl
    rw [zero]
    by_cases second : '.' ∈ t
    · rw [extend_second_point second]
      exact canonical.ne_zero_point
    · rw [extend_point second]
      intro same
      have ends : t ++ ['.'] = ['0'] ++ ['.'] := same
      exact other (List.append_cancel_right ends)

namespace Expression

theorem summary_reopened (e : Expression) : e.reopened.summary = e.summary := by
  cases e with
  | leaf o => exact o.text_reopened
  | node op left right => exact congrArg Value.shown (node op left right).value_reopened

/-- The large figure does not tell a final result from an open operand. -/
theorem readout_reopened (e : Expression) : e.reopened.readout = e.readout := by
  cases e with
  | leaf o => exact o.text_reopened
  | node op left right =>
    cases right with
    | leaf o =>
      cases o with
      | empty => exact left.summary_reopened
      | typed t => rfl
      | closed t => rfl
    | node => rfl

theorem depth_reopened (e : Expression) : e.reopened.depth = e.depth := by
  cases e <;> rfl

theorem awaiting_reopened (e : Expression) : e.reopened.Awaiting ↔ e.Awaiting := by
  cases e with
  | leaf o => cases o <;> simp [Awaiting, reopened, rightmost, Operand.reopened]
  | node => exact Iff.rfl

/-- What is seen of an expression: both displays, its value, its depth, and whether it waits for an operand. -/
structure Alike (a b : Expression) : Prop where
  line : a.line = b.line
  readout : a.readout = b.readout
  value : a.value = b.value
  depth : a.depth = b.depth
  awaiting : a.Awaiting ↔ b.Awaiting

/-- Nothing that is seen tells whether the first operand is a final result. -/
theorem alike_of_reopened {a b : Expression} (same : a.reopened = b.reopened) : Alike a b where
  line := by rw [← a.line_reopened, same, line_reopened]
  readout := by rw [← a.readout_reopened, same, readout_reopened]
  value := by rw [← a.value_reopened, same, value_reopened]
  depth := by rw [← a.depth_reopened, same, depth_reopened]
  awaiting := by rw [← a.awaiting_reopened, same, awaiting_reopened]

/-- Expressions that no keys tell apart. The first operand of a node may be a final result in one of them only, for
typing no longer reaches it; a lone operand has to be one that typing extends in the same way. -/
inductive Twins : Expression → Expression → Prop
  | leaves {o p : Operand} : o.reopened = p.reopened → o.base = p.base → Twins (leaf o) (leaf p)
  | nodes {op : Operator} {left other right : Expression} : left.reopened = other.reopened →
      Twins (node op left right) (node op other right)

theorem Twins.refl (e : Expression) : Twins e e := by
  cases e with
  | leaf o => exact .leaves rfl rfl
  | node op left right => exact .nodes rfl

theorem Twins.of_eq {a b : Expression} (same : a = b) : Twins a b := same ▸ .refl a

theorem Twins.reopened_eq {a b : Expression} (twins : Twins a b) : a.reopened = b.reopened := by
  cases twins with
  | leaves same _ => exact congrArg leaf same
  | @nodes op _ _ right same => exact congrArg (node op · right) same

/-- Typing extends the rightmost operand, which is the first one only in a leaf, and there both add to the same. -/
theorem Twins.typeChar {a b : Expression} (twins : Twins a b) (c : Char) : Twins (a.typeChar c) (b.typeChar c) := by
  by_cases typeable : Typeable c
  · rw [Expression.typeChar, Expression.typeChar, if_pos typeable, if_pos typeable]
    cases twins with
    | leaves _ base => exact .of_eq (congrArg leaf (Operand.extend_of_base base c))
    | nodes same => exact .nodes same
  · rw [Expression.typeChar, Expression.typeChar, if_neg typeable, if_neg typeable]
    exact twins

/-- An operator leaves the left side where it is, unless it takes the value of the whole. -/
theorem twins_applyOperator {a b : Expression} (same : a.reopened = b.reopened) (op : Operator) :
    Twins (a.applyOperator op) (b.applyOperator op) := by
  have value := (alike_of_reopened same).value
  match a, b, same with
  | leaf o, leaf p, same => exact .nodes same
  | node top left right, node _ other _, same =>
    obtain ⟨rfl, leftSame, rfl⟩ := node.inj same
    rw [applyOperator, applyOperator]
    split
    · exact .nodes leftSame
    · split
      · exact .nodes leftSame
      · exact .of_eq (congrArg (node op · (leaf .empty)) (folded_of_value value))

/-- Keys other than those of numerals make twins of expressions that differ in whether the first operand is a final
result. -/
theorem twins_press {a b : Expression} (same : a.reopened = b.reopened) {k : Key} (other : ∀ c h, k ≠ .typed c h) :
    Twins (a.press k) (b.press k) := by
  cases k with
  | typed c h => exact absurd rfl (other c h)
  | operator op => exact twins_applyOperator same op
  | equals =>
    have value := (alike_of_reopened same).value
    exact .of_eq (congrArg (fun v : Value => leaf (.closed v.shown)) value)
  | clear => exact .refl start

theorem Twins.press {a b : Expression} (twins : Twins a b) (k : Key) : Twins (a.press k) (b.press k) := by
  cases k with
  | typed c _ => exact twins.typeChar c
  | operator op => exact twins_press twins.reopened_eq (by simp)
  | equals => exact twins_press twins.reopened_eq (by simp)
  | clear => exact .refl start

/-- Twins stay twins under any keys. -/
theorem Twins.run {a b : Expression} (twins : Twins a b) (keys : List Key) : Twins (a.run keys) (b.run keys) := by
  induction keys generalizing a b with
  | nil => exact twins
  | cons k keys ih => exact ih (twins.press k)

/-- A lone operand that is open in one expression and a final result in the other, and not the zero that both start
over from. -/
def Apart (a b : Expression) : Prop :=
  ∃ t, t ≠ ['0'] ∧ (a = leaf (.typed t) ∧ b = leaf (.closed t) ∨ a = leaf (.closed t) ∧ b = leaf (.typed t))

/-- Expressions that differ in nothing else are twins, or typing tells them apart. -/
theorem twins_or_apart {a b : Expression} (same : a.reopened = b.reopened) : Twins a b ∨ Apart a b := by
  match a, b, same with
  | leaf o, leaf p, same =>
    have operand : o.reopened = p.reopened := leaf.inj same
    by_cases base : o.base = p.base
    · exact Or.inl (.leaves operand base)
    · refine Or.inr ?_
      cases o <;> cases p <;> cases operand
      · exact absurd rfl base
      · exact absurd rfl base
      · exact ⟨_, base, Or.inl ⟨rfl, rfl⟩⟩
      · exact ⟨_, Ne.symm base, Or.inr ⟨rfl, rfl⟩⟩
      · exact absurd rfl base
  | node top left right, node _ other _, same =>
    obtain ⟨rfl, leftSame, rfl⟩ := node.inj same
    exact Or.inl (.nodes leftSame)

theorem Written.closed_canonical {t : Text} (written : Written (leaf (.closed t))) : Canonical t := by
  cases written with
  | alone alone =>
    rcases alone with ⟨s, typed, _⟩ | ⟨v, closed⟩
    · cases typed
    · cases closed
      exact v.shown_canonical

/-- The next character of a numeral shows which of the two it is. -/
theorem Apart.press_line_ne {a b : Expression} (apart : Apart a b) (first : Written a) (second : Written b)
    {c : Char} (typeable : Typeable c) :
    (a.press (.typed c typeable)).line ≠ (b.press (.typed c typeable)).line ∧
      (a.press (.typed c typeable)).readout ≠ (b.press (.typed c typeable)).readout := by
  have typed (o : Operand) : (leaf o).press (.typed c typeable) = leaf (o.extend c) := if_pos typeable
  obtain ⟨t, other, ⟨rfl, rfl⟩ | ⟨rfl, rfl⟩⟩ := apart
  · have texts := Operand.extend_apart second.closed_canonical other typeable
    rw [typed, typed]
    exact ⟨texts, texts⟩
  · have texts := (Operand.extend_apart first.closed_canonical other typeable).symm
    rw [typed, typed]
    exact ⟨texts, texts⟩

/-- Unless typing comes first and tells them apart, they look the same under any keys. -/
theorem run_alike {a b : Expression} (same : a.reopened = b.reopened) {keys : List Key}
    (unapart : Apart a b → ∀ c h, keys.head? ≠ some (.typed c h)) : Alike (a.run keys) (b.run keys) := by
  rcases twins_or_apart same with twins | apart
  · exact alike_of_reopened (twins.run keys).reopened_eq
  · cases keys with
    | nil => exact alike_of_reopened same
    | cons k keys =>
      have other (c : Char) (h : Typeable c) : k ≠ .typed c h := by
        rintro rfl
        exact unapart apart c h rfl
      exact alike_of_reopened ((twins_press same other).run keys).reopened_eq

/-- What is seen of two expressions settles what any keys make of them. Only where one is an open operand and the
other a final result of the same text, other than zero, the next character of a numeral tells them apart. -/
theorem run_alike_of_line {first second : List Key} (same : (start.run first).line = (start.run second).line) :
    (∀ keys done : List Key, done <+: keys →
      (Apart (start.run first) (start.run second) → ∀ c h, keys.head? ≠ some (.typed c h)) →
      Alike ((start.run first).run done) ((start.run second).run done)) ∧
    (Apart (start.run first) (start.run second) → Alike (start.run first) (start.run second) ∧
      ∀ c h, ((start.run first).press (.typed c h)).line ≠ ((start.run second).press (.typed c h)).line ∧
        ((start.run first).press (.typed c h)).readout ≠ ((start.run second).press (.typed c h)).readout) := by
  have left := start_written.run first
  have right := start_written.run second
  have reopened := left.reopened_of_line right same
  constructor
  · intro keys done before unapart
    apply run_alike reopened
    intro apart c h
    cases done with
    | nil => simp
    | cons k done =>
      obtain ⟨rest, rfl⟩ := before
      exact unapart apart c h
  · intro apart
    exact ⟨alike_of_reopened reopened, fun c h => apart.press_line_ne left right h⟩

theorem run_alike_of_line_five :
    (start.enter "5".toList).line = (start.enter "5=".toList).line ∧
      Apart (start.enter "5".toList) (start.enter "5=".toList) ∧
      Alike ((start.enter "5".toList).enter "+3*.".toList) ((start.enter "5=".toList).enter "+3*.".toList) ∧
      ((start.enter "5".toList).press .point).line ≠ ((start.enter "5=".toList).press .point).line := by
  have same : (start.enter "5".toList).line = (start.enter "5=".toList).line := by decide +kernel
  have apart : Apart (start.enter "5".toList) (start.enter "5=".toList) :=
    ⟨['5'], by decide, Or.inl ⟨by decide +kernel, by decide +kernel⟩⟩
  obtain ⟨alike, differ⟩ := run_alike_of_line same
  refine ⟨same, apart, ?_, ((differ apart).2 '.' (Or.inr rfl)).1⟩
  apply alike ("+3*.".toList.filterMap Key.ofChar?) _ (List.prefix_refl _)
  intro _ c h operator
  cases operator

end Expression

end Calculator
