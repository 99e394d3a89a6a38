import Calculator.Proofs.Expression.Shape

namespace Calculator

namespace Key

/-- One of the four keys that carry an operator. -/
def IsOperator (k : Key) : Prop := ∃ op, k = operator op

/-- The keys that are left when every operator right behind an operator is deleted. Whether an operator comes right
before the first of them is given. -/
def singledAfter (following : Bool) : List Key → List Key
  | [] => []
  | operator op :: keys => if following then singledAfter true keys else operator op :: singledAfter true keys
  | k :: keys => k :: singledAfter false keys

/-- The keys without operators right behind an operator. -/
def singled (keys : List Key) : List Key := singledAfter false keys

theorem singledAfter_true_operator (op : Operator) (keys : List Key) :
    singledAfter true (operator op :: keys) = singledAfter true keys := if_pos rfl

theorem singledAfter_false_operator (op : Operator) (keys : List Key) :
    singledAfter false (operator op :: keys) = operator op :: singledAfter true keys := if_neg Bool.false_ne_true

theorem singledAfter_of_not_isOperator {k : Key} (other : ¬k.IsOperator) (following : Bool) (keys : List Key) :
    singledAfter following (k :: keys) = k :: singledAfter false keys := by
  cases k with
  | operator op => exact absurd ⟨op, rfl⟩ other
  | typed | equals | clear => rfl

/-- Behind any key no operator follows an operator, if it is known whether that key is one. -/
theorem singledAfter_isChain {k : Key} {following : Bool} (flag : following = true ↔ k.IsOperator)
    (keys : List Key) :
    (k :: singledAfter following keys).IsChain fun first second => ¬(first.IsOperator ∧ second.IsOperator) := by
  induction keys generalizing k following with
  | nil => exact .singleton k
  | cons next keys ih =>
    by_cases repeated : next.IsOperator
    · obtain ⟨op, rfl⟩ := repeated
      cases following with
      | true =>
        rw [singledAfter_true_operator]
        exact ih flag
      | false =>
        rw [singledAfter_false_operator]
        have other : ¬k.IsOperator := fun operator => Bool.false_ne_true (flag.mpr operator)
        exact .cons_cons (fun both => other both.1) (ih (iff_of_true rfl ⟨op, rfl⟩))
    · rw [singledAfter_of_not_isOperator repeated]
      exact .cons_cons (fun both => repeated both.2) (ih (iff_of_false Bool.false_ne_true repeated))

/-- No operator is left right behind another. -/
theorem singled_isChain (keys : List Key) :
    (singled keys).IsChain fun first second => ¬(first.IsOperator ∧ second.IsOperator) := by
  have other : ¬equals.IsOperator := by
    rintro ⟨op, form⟩
    cases form
  have behind := singledAfter_isChain (iff_of_false Bool.false_ne_true other) keys
  exact behind.of_cons

/-- Keys are deleted and no others put in. -/
theorem singledAfter_sublist (following : Bool) (keys : List Key) : (singledAfter following keys).Sublist keys := by
  induction keys generalizing following with
  | nil => exact .slnil
  | cons k keys ih =>
    by_cases repeated : k.IsOperator
    · obtain ⟨op, rfl⟩ := repeated
      cases following with
      | true => exact (ih true).cons _
      | false => exact (ih true).cons_cons _
    · rw [singledAfter_of_not_isOperator repeated]
      exact (ih false).cons_cons _

end Key

namespace Expression

variable {e : Expression}

/-- What ignores an operator is a node that awaits its right operand. -/
theorem ignores_iff (e : Expression) :
    e.Ignores ↔ (∃ op left right, e = node op left right) ∧ e.Awaiting := by
  cases e with
  | leaf => simp [Ignores]
  | node op left right => exact ⟨fun ignores => ⟨⟨_, _, _, rfl⟩, ignores⟩, And.right⟩

theorem Ignores.awaiting (ignores : e.Ignores) : e.Awaiting := ((ignores_iff e).mp ignores).2

theorem Ignores.applyOperator_eq (ignores : e.Ignores) (op : Operator) : e.applyOperator op = e := by
  obtain ⟨⟨top, left, right, rfl⟩, awaiting⟩ := (ignores_iff e).mp ignores
  exact if_pos awaiting

/-- After an operator any other is ignored. -/
theorem applyOperator_ignores (e : Expression) (op : Operator) : (e.applyOperator op).Ignores := by
  have awaiting : (e.applyOperator op).Awaiting := (e.awaiting_press_iff (.operator op)).mpr ⟨op, rfl⟩
  refine (ignores_iff _).mpr ⟨?_, awaiting⟩
  cases e with
  | leaf o => exact ⟨_, _, _, rfl⟩
  | node top left right =>
    rcases applyOperator_cases top op left right with same | ⟨_, _, climbs⟩ | ⟨_, folds⟩
    · exact ⟨_, _, _, same⟩
    · exact ⟨_, _, _, climbs⟩
    · exact ⟨_, _, _, folds⟩

/-- An operator leaves an expression as it is only where it is ignored. -/
theorem applyOperator_eq_self_iff (e : Expression) (op : Operator) : e.applyOperator op = e ↔ e.Ignores := by
  constructor
  · intro same
    rw [← same]
    exact e.applyOperator_ignores op
  · exact fun ignores => ignores.applyOperator_eq op

/-- An expression that ignores one operator ignores any number of them. -/
theorem Ignores.run_operators (ignores : e.Ignores) (ops : List Operator) : e.run (ops.map .operator) = e := by
  induction ops with
  | nil => rfl
  | cons op ops ih => rw [List.map_cons, run_cons, press, ignores.applyOperator_eq, ih]

/-- The deleted operators are those that an expression ignores. -/
theorem run_singledAfter (e : Expression) {following : Bool} (flag : following = true → e.Ignores)
    (keys : List Key) :
    e.run (Key.singledAfter following keys) = e.run keys := by
  induction keys generalizing e following with
  | nil => rfl
  | cons k keys ih =>
    by_cases repeated : k.IsOperator
    · obtain ⟨op, rfl⟩ := repeated
      cases following with
      | true =>
        have same : e.press (.operator op) = e := (flag rfl).applyOperator_eq op
        rw [Key.singledAfter_true_operator, run_cons, same, ih e flag]
      | false =>
        have ignores : (e.press (.operator op)).Ignores := e.applyOperator_ignores op
        rw [Key.singledAfter_false_operator, run_cons, run_cons, ih _ fun _ => ignores]
    · rw [Key.singledAfter_of_not_isOperator repeated, run_cons, run_cons,
        ih _ fun following => absurd following Bool.false_ne_true]

/-- Of operators in a row the first alone counts, in any expression. An operand is awaited after operators and after
no other key, and an operator changes every expression but a node that awaits one. So keys lead to the same without
the operators right behind an operator. -/
theorem repeated_operators_ignored (e : Expression) :
    (∀ op ops, e.run ((op :: ops).map .operator) = e.press (.operator op)) ∧
    (∀ k, (e.press k).Awaiting ↔ k.IsOperator) ∧
    (∀ op, e.press (.operator op) = e ↔ (∃ top left right, e = node top left right) ∧ e.Awaiting) ∧
    ∀ keys, e.run (Key.singled keys) = e.run keys ∧ (Key.singled keys).Sublist keys ∧
      (Key.singled keys).IsChain fun first second => ¬(first.IsOperator ∧ second.IsOperator) := by
  refine ⟨?_, e.awaiting_press_iff, ?_, ?_⟩
  · intro op ops
    rw [List.map_cons, run_cons]
    exact (e.applyOperator_ignores op).run_operators ops
  · intro op
    exact (e.applyOperator_eq_self_iff op).trans e.ignores_iff
  · intro keys
    exact ⟨e.run_singledAfter (fun following => absurd following Bool.false_ne_true) keys,
      Key.singledAfter_sublist false keys, Key.singled_isChain keys⟩

end Expression

end Calculator
