import Calculator.Proofs.Expression.Spine

namespace Calculator.Expression

variable {e : Expression} {before : List (Operator × Expression)} {op : Operator} {left : Expression}

theorem lineOf_concat (before : List (Operator × Expression)) (op : Operator) (left : Expression) :
    lineOf (before ++ [(op, left)]) = lineOf before ++ (left.line ++ [' ', op.symbol, ' ']) := by
  rw [lineOf, List.flatMap_append, List.flatMap_singleton]
  rfl

/-- In front of the rightmost operand a line shows nothing, or it ends with an operator and a space. -/
theorem lineOf_ends (spine : List (Operator × Expression)) :
    lineOf spine = [] ∨ ∃ (rest : Text) (op : Operator), lineOf spine = rest ++ [op.symbol, ' '] := by
  rcases List.eq_nil_or_concat spine with rfl | ⟨before, ⟨op, left⟩, rfl⟩
  · exact Or.inl rfl
  · refine Or.inr ⟨lineOf before ++ (left.line ++ [' ']), op, ?_⟩
    rw [List.concat_eq_append, lineOf_concat]
    simp

/-- As soon as something has been typed in its place, the large figure is the operand that typing changes. -/
theorem readout_of_entered (entered : ¬e.Awaiting) : e.readout = e.rightmost.text := by
  induction e with
  | leaf o => rfl
  | node op left right _ ih =>
    cases right with
    | leaf o =>
      cases o with
      | empty => exact absurd rfl entered
      | typed t => rfl
      | closed t => rfl
    | node inner middle last => exact ih entered

/-- Until then it is what stands before the last operator, which is found as far to the right as there are nodes. -/
theorem readout_of_awaiting (awaiting : e.Awaiting) (spine : e.spine = before ++ [(op, left)]) :
    e.readout = left.summary := by
  induction e generalizing before with
  | leaf o => exact absurd spine.symm (List.append_ne_nil_of_right_ne_nil _ (List.cons_ne_nil _ _))
  | node top front right _ ih =>
    cases right with
    | leaf o =>
      obtain rfl : o = .empty := awaiting
      have single : before ++ [(op, left)] = [] ++ [(top, front)] := spine.symm
      obtain ⟨_, last⟩ := List.append_inj' single rfl
      cases last
      rfl
    | node inner middle last =>
      cases before with
      | nil => cases (List.cons.inj spine).2
      | cons first before => exact ih awaiting (List.cons.inj spine).2

/-- Where an operand is awaited, an operator stands before it unless it is all there is. -/
theorem spine_cases (awaiting : e.Awaiting) :
    e = leaf .empty ∨ ∃ before op left, e.spine = before ++ [(op, left)] := by
  cases e with
  | leaf o => exact Or.inl (congrArg leaf awaiting)
  | node top front right =>
    have nonempty : (node top front right).spine ≠ [] := List.cons_ne_nil _ _
    obtain ⟨before, ⟨op, left⟩, last⟩ := (List.eq_nil_or_concat _).resolve_left nonempty
    exact Or.inr ⟨before, op, left, by rw [last, List.concat_eq_append]⟩

/-- What keys lead to has written operands on the left of all its operators. -/
theorem Shaped.left_of_spine (shaped : Shaped e) (member : (op, left) ∈ e.spine) :
    ∃ o, left = leaf o ∧ o.text ≠ [] := by
  cases shaped with
  | alone => cases member
  | pair first _ =>
    cases List.mem_singleton.mp member
    exact ⟨_, rfl, first⟩
  | nested _ _ first factor _ =>
    obtain ⟨t, rfl, text⟩ := factor
    rcases List.mem_cons.mp member with outer | inner
    · cases outer
      exact ⟨_, rfl, first⟩
    · cases List.mem_singleton.mp inner
      exact ⟨_, rfl, text⟩

/-- Where keys lead to an expression that awaits an operand, the last operator has the large figure before it. -/
theorem Shaped.spine_of_awaiting (shaped : Shaped e) (awaiting : e.Awaiting) :
    ∃ before op left, e.spine = before ++ [(op, left)] ∧ left.line = e.readout ∧ e.readout ≠ [] := by
  obtain ⟨before, op, left, spine⟩ := (spine_cases awaiting).resolve_left shaped.ne_empty
  have member : (op, left) ∈ e.spine := by simp [spine]
  obtain ⟨o, rfl, text⟩ := shaped.left_of_spine member
  have readout : e.readout = o.text := readout_of_awaiting awaiting spine
  exact ⟨before, op, leaf o, spine, readout.symm, readout ▸ text⟩

/-- What both displays show. The line of any expression ends with the text of the rightmost operand, and the large
figure is that text unless it is awaited; then it is the operand before the last operator, or the value of what
stands there. After keys from the start it is an operand and never blank, and the line ends with it, or with it and
the operator that waits. -/
theorem displays_agree :
    (∀ e : Expression, e.rightmost.text <:+ e.line ∧ (¬e.Awaiting → e.readout = e.rightmost.text) ∧
      (e.Awaiting → e = leaf .empty ∧ e.readout = [] ∨ ∃ before op left, e.spine = before ++ [(op, left)] ∧
        ((∃ o, left = leaf o ∧ e.readout = o.text) ∨
          ∃ top l r, left = node top l r ∧ e.readout = left.value.shown))) ∧
    ∀ keys : List Key,
      let e := start.run keys
      e.readout ≠ [] ∧ (∀ op left, (op, left) ∈ e.spine → ∃ o, left = leaf o) ∧
      ∃ front : Text, (front = [] ∨ ∃ (rest : Text) (op : Operator), front = rest ++ [op.symbol, ' ']) ∧
        (¬e.Awaiting → e.line = front ++ e.readout) ∧
        (e.Awaiting → ∃ before op left, e.spine = before ++ [(op, left)] ∧
          e.line = front ++ e.readout ++ [' ', op.symbol, ' ']) := by
  constructor
  · intro e
    refine ⟨⟨lineOf e.spine, e.line_eq.symm⟩, readout_of_entered, ?_⟩
    intro awaiting
    rcases spine_cases awaiting with rfl | ⟨before, op, left, spine⟩
    · exact Or.inl ⟨rfl, rfl⟩
    · refine Or.inr ⟨before, op, left, spine, ?_⟩
      have readout := readout_of_awaiting awaiting spine
      cases left with
      | leaf o => exact Or.inl ⟨o, rfl, readout⟩
      | node top l r => exact Or.inr ⟨top, l, r, rfl, readout⟩
  · intro keys e
    have shaped : Shaped e := start_shaped.run keys
    have operands (op : Operator) (left : Expression) (member : (op, left) ∈ e.spine) : ∃ o, left = leaf o := by
      obtain ⟨o, single, _⟩ := shaped.left_of_spine member
      exact ⟨o, single⟩
    by_cases awaiting : e.Awaiting
    · obtain ⟨before, op, left, spine, shown, text⟩ := shaped.spine_of_awaiting awaiting
      refine ⟨text, operands, lineOf before, lineOf_ends before, absurd awaiting, fun _ => ?_⟩
      refine ⟨before, op, left, spine, ?_⟩
      have blank : e.rightmost.text = [] := shaped.awaiting_iff.mp awaiting
      rw [line_eq, spine, lineOf_concat, shown, blank, List.append_nil, List.append_assoc]
    · have readout := readout_of_entered awaiting
      have text : e.readout ≠ [] := by
        rw [readout]
        exact fun blank => awaiting (shaped.awaiting_iff.mpr blank)
      refine ⟨text, operands, lineOf e.spine, lineOf_ends e.spine, fun _ => ?_, fun waits => absurd waits awaiting⟩
      rw [readout, ← line_eq]

end Calculator.Expression
