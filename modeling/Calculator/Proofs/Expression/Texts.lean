import Calculator.Proofs.Expression.Shape
import Calculator.Proofs.Expression.Value

namespace Calculator

theorem Begun.ne_point {t : Text} (begun : Begun t) : t ≠ ['.'] := by
  rintro rfl
  obtain ⟨c, rest, head, digit⟩ := begun.exists_head
  cases head
  cases digit

theorem Canonical.ne_point {t : Text} (canonical : Canonical t) : t ≠ ['.'] := by
  cases canonical with
  | plain plain => exact plain.begun.ne_point
  | minus => simp

/-- A numeral that is typed has no minus in it. -/
theorem Partial.ne_append_minus {t : Text} (part : Partial t) (before after : Text) :
    t ≠ before ++ '-' :: after := by
  rintro rfl
  exact part.no_minus (List.mem_append_right _ List.mem_cons_self)

/-- Only at the front does a minus stand in what a value shows. -/
theorem Canonical.minus_first {t before after : Text} (canonical : Canonical t)
    (split : t = before ++ '-' :: after) : before = [] := by
  cases canonical with
  | plain plain => exact absurd split ((Partial.begun plain.begun).ne_append_minus before after)
  | minus plain _ =>
    cases before with
    | nil => rfl
    | cons c before =>
      exact absurd (List.cons.inj split).2 ((Partial.begun plain.begun).ne_append_minus before after)

/-- A numeral that is typed never counts below zero. -/
theorem Operand.value_negative_of_partial {t : Text} (part : Partial t) : (typed t).value.negative = false := by
  by_cases point : t = ['.']
  · subst t
    rfl
  · obtain ⟨x, read, positive⟩ := Number.read?_partial (f := .double) part point
    rw [value, text, read]
    exact Number.settle_negative positive

namespace Expression

/-- Where the texts of operands come from: typing, with a digit before the point in an operand that stands alone, or
a value written out, which under a sum is never below zero. -/
def Places.written : Places where
  alone o := (∃ t, o = .typed t ∧ Begun t) ∨ ∃ v : Value, o = .closed v.shown
  first _ o := (∃ t, o = .typed t ∧ Begun t) ∨ ∃ v : Value, o = .typed v.shown ∨ o = .closed v.shown
  factor o := ∃ v : Value, v.settle.negative = false ∧ o = .typed v.shown
  last o := o = .empty ∨ ∃ t, o = .typed t ∧ Partial t

theorem Places.last_value_negative {o : Operand} (last : written.last o) : o.value.negative = false := by
  rcases last with rfl | ⟨t, rfl, part⟩
  · rw [Operand.value_empty]
    rfl
  · exact Operand.value_negative_of_partial part

theorem Places.factor_value_negative {o : Operand} (factor : written.factor o) : o.value.negative = false := by
  obtain ⟨v, positive, rfl⟩ := factor
  rw [Operand.value_of_text rfl]
  exact positive

/-- Nor does a product or quotient under a sum. -/
theorem Places.product_value_negative {inner : Operator} {m r : Operand} (tight : inner.Tight)
    (factor : written.factor m) (last : written.last r) : (node inner (leaf m) (leaf r)).value.negative = false :=
  inner.apply_negative tight m.value_settled r.value_settled (factor_value_negative factor)
    (last_value_negative last)

/-- Typing, operators and equals keep the texts to where they come from. -/
theorem Places.written_kept : written.Kept where
  alone_extend := by
    intro o c typeable alone
    refine Or.inl ?_
    rcases alone with ⟨t, rfl, begun⟩ | ⟨v, rfl⟩
    · exact begun.extend typeable
    · exact (Begun.whole .zero).extend typeable
  last_extend := by
    intro o c typeable last
    refine Or.inr ?_
    rcases last with rfl | ⟨t, rfl, part⟩
    · exact ⟨_, Operand.extend_empty c, .of_typeable typeable⟩
    · exact part.extend typeable
  last_empty := Or.inl rfl
  first_of_alone := fun alone => alone.imp_right fun ⟨v, result⟩ => ⟨v, Or.inr result⟩
  first_of_node := fun _ _ => Or.inr ⟨_, Or.inl rfl⟩
  factor_of_last := by
    intro o last
    exact ⟨o.value, Number.settle_negative (last_value_negative last), rfl⟩
  factor_of_product := by
    intro inner m r tight factor last
    exact ⟨_, Number.settle_negative (product_value_negative tight factor last), rfl⟩

/-- An expression as pressing keys leaves it, with the texts of its operands. -/
def Written (e : Expression) : Prop := Fits .written e

theorem start_written : Written start := .alone (Or.inl ⟨_, rfl, .whole .zero⟩)

theorem Written.run {e : Expression} (written : Written e) (keys : List Key) : Written (e.run keys) :=
  Fits.run Places.written_kept (Or.inl ⟨_, rfl, .whole .zero⟩) written fun _ v => Or.inr ⟨v, rfl⟩

/-- Nothing on the right of an operator is below zero. -/
theorem Written.right_value_negative {op : Operator} {left right : Expression}
    (written : Written (node op left right)) : right.value.negative = false := by
  cases written with
  | pair _ last => exact Places.last_value_negative last
  | nested _ tight _ factor last => exact Places.product_value_negative tight factor last

/-- What the text of an operand can be, by the path that leads to it. -/
structure TextAt (path : List Side) (o : Operand) : Prop where
  /-- At the right end stands a numeral in the course of typing. If it stands alone it has a digit before the point.
  -/
  typing : ∀ t, o = .typed t → OnRight path → Partial t ∧ (path = [] → Begun t)
  /-- Elsewhere stands a number written out or, as the first operand only, a typed numeral that has a digit before
  the point. -/
  entered : o ≠ .empty → ¬(OnRight path ∧ ∃ t, o = .typed t) →
    (path = [.left] ∧ ∃ t, o = .typed t ∧ Begun t) ∨ Canonical o.text
  /-- A minus only ever starts a final result or the first operand. -/
  minus : ∀ before after, o.text = before ++ '-' :: after →
    before = [] ∧ ((path = [] ∧ ∃ t, o = .closed t) ∨ path = [.left])
  /-- Every text but the lone point is a numeral. -/
  numeral : o ≠ .empty → (Number.read? .double o.text = none ↔ o.text = ['.'])
  /-- A lone point stands at the right end, after an operator. -/
  point : o.text = ['.'] → path ≠ [] ∧ OnRight path

namespace TextAt

variable {path : List Side} {o : Operand} {t : Text}

theorem of_empty : TextAt path .empty where
  typing := by simp
  entered := by simp
  minus := by simp [Operand.text]
  numeral := by simp
  point := by simp [Operand.text]

/-- A numeral in the course of typing may stand at the right end. -/
theorem of_partial (right : OnRight path) (part : Partial t) (alone : path = [] → Begun t) :
    TextAt path (.typed t) where
  typing := by
    rintro _ ⟨⟩ _
    exact ⟨part, alone⟩
  entered := fun _ elsewhere => absurd ⟨right, t, rfl⟩ elsewhere
  minus := fun before after split => absurd split (part.ne_append_minus before after)
  numeral := by
    intro _
    constructor
    · intro unread
      by_contra other
      obtain ⟨x, read, _⟩ := Number.read?_partial (f := .double) part other
      rw [Operand.text, read] at unread
      cases unread
    · intro point
      rw [point]
      exact Number.read?_point
  point := by
    intro point
    refine ⟨?_, right⟩
    intro top
    exact (alone top).ne_point point

/-- What a value shows may stand wherever no typing goes on, with a minus if the place allows for it. -/
theorem of_canonical (elsewhere : ¬(OnRight path ∧ ∃ t, o = .typed t)) (canonical : Canonical o.text)
    (sign : '-' ∈ o.text → (path = [] ∧ ∃ t, o = .closed t) ∨ path = [.left]) : TextAt path o where
  typing := fun t typed right => absurd ⟨right, t, typed⟩ elsewhere
  entered := fun _ _ => Or.inr canonical
  minus := fun before after split => ⟨canonical.minus_first split, sign (by simp [split])⟩
  numeral := by
    intro _
    obtain ⟨x, read⟩ := Number.read?_canonical (f := .double) canonical
    simp [read, canonical.ne_point]
  point := fun point => absurd point canonical.ne_point

/-- A numeral with a digit before the point may stand on the left of the topmost operator. -/
theorem of_begun_left (begun : Begun t) : TextAt [.left] (.typed t) where
  typing := fun _ _ right => absurd (right .left (by simp)) (by decide)
  entered := fun _ _ => Or.inl ⟨rfl, t, rfl, begun⟩
  minus := fun before after split => absurd split ((Partial.begun begun).ne_append_minus before after)
  numeral := by
    intro _
    obtain ⟨x, read, _⟩ := Number.read?_partial (f := .double) (.begun begun) begun.ne_point
    simp [Operand.text, read, begun.ne_point]
  point := fun point => absurd point begun.ne_point

end TextAt

/-- Every place has the texts that belong to it. -/
theorem Written.textAt {e : Expression} (written : Written e) {path : List Side} {o : Operand}
    (found : e.at? path = some (leaf o)) : TextAt path o := by
  have off_right (rest : List Side) : ¬OnRight (rest ++ [.left]) := fun right =>
    absurd (right .left (by simp)) (by decide)
  rcases written.leaf_at found with ⟨rfl, alone, _⟩ | ⟨rfl, _, first⟩ | ⟨rfl, factor⟩ | ⟨place, last⟩
  · rcases alone with ⟨t, rfl, begun⟩ | ⟨v, rfl⟩
    · exact .of_partial (by simp [OnRight]) (.begun begun) fun _ => begun
    · exact .of_canonical (by simp) v.shown_canonical fun _ => Or.inl ⟨rfl, _, rfl⟩
  · rcases first with ⟨t, rfl, begun⟩ | ⟨v, rfl | rfl⟩
    · exact .of_begun_left begun
    · exact .of_canonical (fun last => off_right [] last.1) v.shown_canonical fun _ => Or.inr rfl
    · exact .of_canonical (by simp) v.shown_canonical fun _ => Or.inr rfl
  · obtain ⟨v, positive, rfl⟩ := factor
    have plain := Value.shown_plain positive
    refine .of_canonical (fun last => off_right [.right] last.1) (.plain plain) ?_
    intro minus
    exact absurd minus (Partial.begun plain.begun).no_minus
  · rcases last with rfl | ⟨t, rfl, part⟩
    · exact .of_empty
    · rcases place with rfl | rfl
      · exact .of_partial (by simp [OnRight]) part (by simp)
      · exact .of_partial (by simp [OnRight]) part (by simp)

/-- The texts of all operands, and the sign of what stands on the right of an operator, after any keys. -/
theorem run_textAt (keys : List Key) :
    (∀ path o, (start.run keys).at? path = some (leaf o) → TextAt path o) ∧
      ∀ op left right, start.run keys = node op left right →
        right.value.IsFinite ∧ right.value.negative = false := by
  have written := start_written.run keys
  refine ⟨fun path o found => written.textAt found, ?_⟩
  intro op left right form
  rw [form] at written
  exact ⟨right.value_settled.isFinite Value.room, written.right_value_negative⟩

end Expression

end Calculator
