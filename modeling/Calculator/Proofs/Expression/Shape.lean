import Calculator.Proofs.Expression.Places
import Calculator.Proofs.Expression.Typing

namespace Calculator.Expression

/-- A left operand has been entered, only the first of them may be a final result, and the last place is either
empty or open. No operand that was entered has the empty text. -/
def Places.entered : Places where
  alone o := o.text ≠ []
  first _ o := o.text ≠ []
  factor o := ∃ t, o = .typed t ∧ t ≠ []
  last o := o = .empty ∨ ∃ t, o = .typed t ∧ t ≠ []

theorem Places.entered_kept : entered.Kept where
  alone_extend := by
    intro o c _ _
    obtain ⟨t, typed, nonempty⟩ := o.extend_eq_typed c
    change (o.extend c).text ≠ []
    rw [typed]
    exact nonempty
  last_extend := fun _ _ => Or.inr (Operand.extend_eq_typed _ _)
  last_empty := Or.inl rfl
  first_of_alone := id
  first_of_node := fun _ _ => Value.shown_ne_nil _
  factor_of_last := fun _ => ⟨_, rfl, Value.shown_ne_nil _⟩
  factor_of_product := fun _ _ _ => ⟨_, rfl, Value.shown_ne_nil _⟩

/-- An expression as pressing keys leaves it, as far as its form goes. -/
def Shaped (e : Expression) : Prop := Fits .entered e

theorem start_shaped : Shaped start := .alone (List.cons_ne_nil _ _)

theorem finish_shaped (e : Expression) : Shaped e.finish := .alone (Value.shown_ne_nil _)

namespace Shaped

variable {e : Expression}

theorem press (shaped : Shaped e) (k : Key) : Shaped (e.press k) :=
  Fits.press Places.entered_kept (List.cons_ne_nil _ _) shaped fun _ => Value.shown_ne_nil _

theorem run (shaped : Shaped e) (keys : List Key) : Shaped (e.run keys) :=
  Fits.run Places.entered_kept (List.cons_ne_nil _ _) shaped fun _ v => v.shown_ne_nil

/-- There are two operators at most on the way to any operand. -/
theorem depth_le_two (shaped : Shaped e) : e.depth ≤ 2 := by
  cases shaped <;> simp [depth]

theorem ne_empty (shaped : Shaped e) : e ≠ leaf .empty := by
  rintro rfl
  cases shaped with
  | alone entered => exact entered rfl

/-- What stands on the left of an operator is an operand that was entered. -/
theorem left_entered (shaped : Shaped e) {path : List Side} {op : Operator} {left right : Expression}
    (found : e.at? path = some (node op left right)) : ∃ o, left = leaf o ∧ o ≠ .empty := by
  obtain ⟨o, single, first | ⟨t, rfl, _⟩⟩ := shaped.node_at found
  · refine ⟨o, single, ?_⟩
    rintro rfl
    exact first rfl
  · exact ⟨_, single, by simp⟩

/-- A final result stands alone or on the left of the topmost operator. -/
theorem closed_at (shaped : Shaped e) {path : List Side} {t : Text}
    (found : e.at? path = some (leaf (.closed t))) : path = [] ∨ path = [.left] := by
  rcases shaped.leaf_at found with ⟨top, _, _⟩ | ⟨left, _⟩ | ⟨_, _, factor, _⟩ | ⟨_, empty | ⟨_, typed, _⟩⟩
  · exact Or.inl top
  · exact Or.inr left
  · cases factor
  · cases empty
  · cases typed

/-- No operand that was entered has the empty text. -/
theorem text_ne_nil (shaped : Shaped e) {path : List Side} {o : Operand} (found : e.at? path = some (leaf o))
    (entered : o ≠ .empty) : o.text ≠ [] := by
  rcases shaped.leaf_at found with ⟨_, text, _⟩ | ⟨_, _, text⟩ | ⟨_, _, rfl, text⟩ | ⟨_, empty | ⟨_, rfl, text⟩⟩
  · exact text
  · exact text
  · exact text
  · exact absurd empty entered
  · exact text

/-- An operand is awaited exactly where the text of the rightmost one is empty. -/
theorem awaiting_iff (shaped : Shaped e) : e.Awaiting ↔ e.rightmost.text = [] := by
  have blank_iff (o : Operand) (entered : o = .empty ∨ o.text ≠ []) : o = .empty ↔ o.text = [] := by
    constructor
    · rintro rfl
      rfl
    · intro blank
      exact entered.resolve_right (absurd blank)
  cases shaped with
  | alone text => exact blank_iff _ (Or.inr text)
  | pair _ last => exact blank_iff _ (last.imp_right (by rintro ⟨t, rfl, text⟩; exact text))
  | nested _ _ _ _ last => exact blank_iff _ (last.imp_right (by rintro ⟨t, rfl, text⟩; exact text))

end Shaped

/-- Whatever came before, an operand is awaited exactly after an operator. -/
theorem awaiting_press_iff (e : Expression) (k : Key) : (e.press k).Awaiting ↔ ∃ op, k = .operator op := by
  cases k with
  | typed c typeable =>
    obtain ⟨t, typed, _⟩ := e.rightmost.extend_eq_typed c
    have rightmost : (e.press (.typed c typeable)).rightmost = .typed t := by
      rw [Expression.press, typeChar, if_pos typeable, rightmost_mapRightmost, typed]
    simp [Awaiting, rightmost]
  | operator op =>
    refine iff_of_true ?_ ⟨op, rfl⟩
    cases e with
    | leaf o => rfl
    | node top left right =>
      rw [Expression.press, applyOperator]
      split
      · assumption
      · split <;> rfl
  | equals => simp [Expression.press, finish, Awaiting, rightmost]
  | clear => simp [Expression.press, start_eq, Awaiting, rightmost]

/-- Every expression that keys lead to has one of three forms, every key keeps to them, and equals and clear lead
back to them from any expression at all. -/
theorem run_shaped :
    (∀ keys, Shaped (start.run keys)) ∧ (∀ e k, Shaped e → Shaped (e.press k)) ∧
      (∀ e : Expression, Shaped (e.press .equals) ∧ Shaped (e.press .clear)) ∧
      ∀ e, Shaped e → e.depth ≤ 2 ∧ e ≠ leaf .empty ∧ (e.Awaiting ↔ e.rightmost.text = []) ∧
        (∀ path op left right, e.at? path = some (node op left right) → ∃ o, left = leaf o ∧ o ≠ .empty) ∧
        (∀ path t, e.at? path = some (leaf (.closed t)) → path = [] ∨ path = [.left]) ∧
        ∀ path o, e.at? path = some (leaf o) → o ≠ .empty → o.text ≠ [] := by
  refine ⟨start_shaped.run, fun e k shaped => shaped.press k, fun e => ⟨e.finish_shaped, start_shaped⟩, ?_⟩
  intro e shaped
  exact ⟨shaped.depth_le_two, shaped.ne_empty, shaped.awaiting_iff, fun _ _ _ _ => shaped.left_entered,
    fun _ _ => shaped.closed_at, fun _ _ => shaped.text_ne_nil⟩

end Calculator.Expression
