import Calculator.Proofs.Expression.Entering
import Calculator.Proofs.Expression.Unfinished

namespace Calculator

/-- The operand when typing may extend it again. -/
def Operand.reopened : Operand → Operand
  | closed t => typed t
  | o => o

theorem Operand.text_reopened (o : Operand) : o.reopened.text = o.text := by
  cases o <;> rfl

theorem Operand.value_reopened (o : Operand) : o.reopened.value = o.value := by
  rw [value, o.text_reopened, ← value]

/-- A numeral with a digit in front has no minus there. -/
theorem Begun.head_ne_minus {t : Text} (begun : Begun t) : t.head? ≠ some '-' := by
  obtain ⟨c, rest, rfl, digit⟩ := begun.exists_head
  exact fun minus => ne_of_isDigit (d := '-') digit rfl (Option.some.inj minus)

/-- The opposite of a value below zero is shown with a digit in front. -/
theorem Value.neg_shown_begun {v : Value} (negative : v.settle.negative = true) : Begun (Value.shown v.neg) :=
  (Value.shown_plain (Value.shown_minus negative).2.1).begun

namespace Expression

/-- The expression with its leftmost operand open, as if no final result had been taken. -/
def reopened : Expression → Expression
  | leaf o => leaf o.reopened
  | node op left right => node op left.reopened right

/-- The line starts with a minus which, typed anew, stays a difference from zero: no sum follows that would compute
it first. -/
def KeepsMinus : Expression → Prop
  | leaf o => o.text.head? = some '-'
  | node op (leaf o) _ => op.Tight ∧ o.text.head? = some '-'
  | node _ (node _ _ _) _ => False

/-- A final result and an open operand of its text have the same value. -/
theorem value_reopened (e : Expression) : e.reopened.value = e.value := by
  induction e with
  | leaf o => exact o.value_reopened
  | node op left right ih _ => rw [reopened, value, ih, ← value]

theorem reopened_reopened (e : Expression) : e.reopened.reopened = e.reopened := by
  induction e with
  | leaf o => cases o <;> rfl
  | node op left right ih _ => exact congrArg (node op · right) ih

/-- A minus that is kept is not the difference that it would be typed as. -/
theorem KeepsMinus.reopened_ne {e : Expression} (keeps : e.KeepsMinus) (left right : Expression) :
    e.reopened ≠ node .minus left right := by
  intro same
  match e, keeps with
  | leaf o, _ => cases same
  | node op (leaf o) _, ⟨tight, _⟩ =>
    cases same
    exact absurd tight (by decide)

namespace Places

/-- A first operand has digits in front, or it is a value below zero. -/
theorem first_text {op : Operator} {o : Operand} (first : written.first op o) :
    o.reopened = .typed o.text ∧ (Begun o.text ∨ ∃ v : Value, v.settle.negative = true ∧ o.text = v.shown) := by
  have result (v : Value) : Begun v.shown ∨ ∃ u : Value, u.settle.negative = true ∧ v.shown = u.shown := by
    cases sign : v.settle.negative with
    | false => exact Or.inl (Value.shown_plain sign).begun
    | true => exact Or.inr ⟨v, sign, rfl⟩
  rcases first with ⟨t, rfl, begun⟩ | ⟨v, rfl | rfl⟩
  · exact ⟨rfl, Or.inl begun⟩
  · exact ⟨rfl, result v⟩
  · exact ⟨rfl, result v⟩

theorem known_of_first {op : Operator} {o : Operand} (first : written.first op o) : Key.Known o.text := by
  rcases first with ⟨t, rfl, begun⟩ | ⟨v, rfl | rfl⟩
  · exact begun.known
  · exact v.shown_canonical.known
  · exact v.shown_canonical.known

theorem known_of_last {o : Operand} (last : written.last o) : Key.Known o.text := by
  rcases last with rfl | ⟨t, rfl, part⟩
  · exact fun c member => absurd member List.not_mem_nil
  · exact part.known

theorem last_of_factor {o : Operand} (factor : written.factor o) : written.last o := by
  obtain ⟨v, positive, rfl⟩ := factor
  exact Or.inr ⟨_, rfl, .begun (Value.shown_plain positive).begun⟩

theorem factor_entered {o : Operand} (factor : written.factor o) (op : Operator) (left : Expression) :
    ¬(node op left (leaf o)).Awaiting := by
  obtain ⟨v, _, rfl⟩ := factor
  simp [Awaiting, rightmost]

end Places

theorem folded_shown (v : Value) : (leaf (.typed v.shown)).folded = leaf (.typed v.shown) := by
  rw [folded_eq, value, Operand.value_of_text rfl, Value.shown_settle]

theorem Places.folded_of_factor {o : Operand} (factor : written.factor o) : (leaf o).folded = leaf o := by
  obtain ⟨v, _, rfl⟩ := factor
  exact folded_shown v

theorem entered_of_typed (op : Operator) (left : Expression) (t : Text) :
    ¬(node op left (leaf (.typed t))).Awaiting := by
  simp [Awaiting, rightmost]

/-- To take something away from nought is to take its opposite. -/
theorem value_zero_minus (e : Expression) :
    (node .minus (leaf (.typed ['0'])) e).value = (Number.neg e.value).settle := by
  rw [value, value, Operand.value_zero, Operator.zero_minus e.value_settled]

theorem value_zero_minus_neg (v : Value) :
    (node .minus (leaf (.typed ['0'])) (leaf (.typed (Value.shown v.neg)))).value = v.settle := by
  rw [value_zero_minus, value, Operand.value_of_text rfl, Number.settle_neg_settle, Number.neg_neg]

/-- The line of a written expression can be typed as keys. -/
theorem Written.known_line {e : Expression} (written : Written e) : Key.Known e.line := by
  cases written with
  | @alone o alone =>
    have first : Places.written.first .plus o := Places.written_kept.first_of_alone alone
    exact Places.known_of_first first
  | @pair op _ _ first last =>
    exact ((Places.known_of_first first).append op.known).append (Places.known_of_last last)
  | @nested op inner _ _ _ _ _ first factor last =>
    have product := ((Places.known_of_last (Places.last_of_factor factor)).append inner.known).append
      (Places.known_of_last last)
    exact ((Places.known_of_first first).append op.known).append product

/-- The first operand and its operator, typed anew, come back as they were, unless a minus in front meets an
operator that leaves it alone. -/
theorem enter_first {op : Operator} {o : Operand} (first : Places.written.first op o)
    (free : op.Tight → o.text.head? ≠ some '-') :
    (start.enter o.text).applyOperator op = node op (leaf o.reopened) (leaf .empty) := by
  obtain ⟨typed, text⟩ := Places.first_text first
  rcases text with begun | ⟨v, negative, shown⟩
  · rw [start_enter begun, typed]
    rfl
  · obtain ⟨minus, _, _⟩ := Value.shown_minus negative
    have folds (tight : op.Tight) : Operator.minus.Tight := absurd (by rw [shown, minus]; rfl) (free tight)
    rw [typed, shown, minus, start_enter_minus (Value.neg_shown_begun negative),
      applyOperator_of_folds (entered_of_typed _ _ _) folds, folded_eq, value_zero_minus_neg, Value.shown_settle,
      ← minus]

/-- Where no minus is left over, the line typed anew gives the expression back. -/
theorem Written.enter_line {e : Expression} (written : Written e) (free : ¬e.KeepsMinus) :
    start.enter e.line = e.reopened := by
  cases written with
  | @alone o alone =>
    have first : Places.written.first .plus o := Places.written_kept.first_of_alone alone
    obtain ⟨typed, text⟩ := Places.first_text first
    rcases text with begun | ⟨v, negative, shown⟩
    · exact (start_enter begun).trans (congrArg leaf typed.symm)
    · obtain ⟨minus, _, _⟩ := Value.shown_minus negative
      exact absurd (show o.text.head? = some '-' by rw [shown, minus]; rfl) free
  | @pair op l r first last =>
    have front := enter_first first fun tight minus => free ⟨tight, minus⟩
    rw [line, line, line, enter_append, enter_append, enter_operator, front, enter_last rfl last]
    rfl
  | @nested op inner l m r loose tight first factor last =>
    have front := enter_first first fun tight => absurd tight loose
    have climbs : (node op (leaf l.reopened) (leaf m)).applyOperator inner = _ :=
      applyOperator_of_climbs (Places.factor_entered factor op _) loose tight
    have middle : (node op (leaf l.reopened) (leaf .empty)).enter m.text = node op (leaf l.reopened) (leaf m) :=
      enter_last rfl (Places.last_of_factor factor)
    simp only [line, enter_append, enter_operator]
    rw [front, middle, climbs, Places.folded_of_factor factor, enter_last rfl last]
    rfl

/-- Where a minus is left over, the line typed anew takes the opposite from zero, and that has the same value. -/
theorem Written.enter_line_of_keepsMinus {e : Expression} (written : Written e) (keeps : e.KeepsMinus) :
    ∃ right, start.enter e.line = node .minus (leaf (.typed ['0'])) right ∧
      (start.enter e.line).value = e.value := by
  cases written with
  | @alone o alone =>
    have first : Places.written.first .plus o := Places.written_kept.first_of_alone alone
    obtain ⟨_, begun | ⟨v, negative, shown⟩⟩ := Places.first_text first
    · exact absurd keeps begun.head_ne_minus
    · obtain ⟨minus, _, _⟩ := Value.shown_minus negative
      have entered : start.enter (leaf o).line =
          node .minus (leaf (.typed ['0'])) (leaf (.typed (Value.shown v.neg))) := by
        rw [line, shown, minus, start_enter_minus (Value.neg_shown_begun negative)]
      refine ⟨_, entered, ?_⟩
      rw [entered, value_zero_minus_neg]
      exact (Operand.value_of_text shown).symm
  | @pair op l r first last =>
    obtain ⟨tight, head⟩ := keeps
    obtain ⟨_, begun | ⟨v, negative, shown⟩⟩ := Places.first_text first
    · exact absurd head begun.head_ne_minus
    · obtain ⟨minus, _, _⟩ := Value.shown_minus negative
      have entered : start.enter (node op (leaf l) (leaf r)).line =
          node .minus (leaf (.typed ['0'])) (node op (leaf (.typed (Value.shown v.neg))) (leaf r)) := by
        rw [line, line, line, enter_append, enter_append, enter_operator, shown, minus,
          start_enter_minus (Value.neg_shown_begun negative),
          applyOperator_of_climbs (entered_of_typed _ _ _) (by decide) tight, folded_shown, enter_last rfl last]
        rfl
      have opposite : Number.neg v.neg.settle = v.settle := by
        rw [Value.settle_neg negative, Number.neg_neg]
      refine ⟨_, entered, ?_⟩
      calc (start.enter (node op (leaf l) (leaf r)).line).value
        _ = (Number.neg (op.apply v.neg.settle r.value).settle).settle := by
            rw [entered, value_zero_minus, value, value, value, Operand.value_of_text rfl]
        _ = (op.apply v.settle r.value).settle := by
            rw [← Operator.apply_neg_left tight v.neg.settle_settled r.value_settled, opposite]
        _ = (node op (leaf l) (leaf r)).value := by
            rw [value, value, value, Operand.value_of_text shown]
  | nested loose => exact absurd keeps.1 loose

/-- Without equals no minus is left over and every operand stays open. -/
theorem Fits.unfinished_free {e : Expression} (fits : Fits .unfinished e) : ¬e.KeepsMinus ∧ e.reopened = e := by
  cases fits with
  | alone alone =>
    obtain ⟨t, rfl, begun⟩ := alone
    exact ⟨begun.head_ne_minus, rfl⟩
  | pair first _ =>
    obtain ⟨t, rfl, begun⟩ := first
    exact ⟨fun keeps => (begun keeps.1).head_ne_minus keeps.2, rfl⟩
  | nested loose _ first _ _ =>
    obtain ⟨t, rfl, _⟩ := first
    exact ⟨fun keeps => loose keeps.1, rfl⟩

/-- Typing the line of an expression anew gives an expression of the same value. It is the same expression, as far
as its first operand may be open or closed, exactly if no minus is left over; and if equals was not pressed since
the last clear it is the same in every respect. -/
theorem replay_line (keys : List Key) :
    ∃ e, replay (start.run keys).line = .ok e ∧ e.value = (start.run keys).value ∧
      (e.reopened = (start.run keys).reopened ↔ ¬(start.run keys).KeepsMinus) ∧
      (.equals ∉ keys.rtakeWhile (· ≠ .clear) → e = start.run keys) := by
  have written := start_written.run keys
  have unfinished (absent : .equals ∉ keys.rtakeWhile (· ≠ .clear)) : Fits .unfinished (start.run keys) := by
    rw [← run_since_clear]
    exact run_unfinished absent
  refine ⟨_, replay_of_known written.known_line, ?_⟩
  by_cases keeps : (start.run keys).KeepsMinus
  · obtain ⟨right, entered, same⟩ := written.enter_line_of_keepsMinus keeps
    refine ⟨same, iff_of_false ?_ (not_not_intro keeps), ?_⟩
    · rw [entered]
      exact (keeps.reopened_ne _ _).symm
    · intro absent
      exact absurd keeps (unfinished absent).unfinished_free.1
  · have entered := written.enter_line keeps
    rw [entered]
    refine ⟨value_reopened _, iff_of_true (reopened_reopened _) keeps, ?_⟩
    intro absent
    exact (unfinished absent).unfinished_free.2

example : (start.enter "0-3=*2".toList).line = "-3 * 2".toList ∧
    start.enter "-3 * 2".toList =
      node .minus (leaf (.typed ['0'])) (node .times (leaf (.typed ['3'])) (leaf (.typed ['2']))) := by
  decide +kernel

end Expression

end Calculator
