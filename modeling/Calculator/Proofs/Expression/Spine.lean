import Calculator.Proofs.Expression.Shape

namespace Calculator.Expression

/-- The operators on the way to the rightmost operand, each with what stands on its left. -/
def spine : Expression → List (Operator × Expression)
  | leaf _ => []
  | node op left right => (op, left) :: right.spine

/-- What a line shows of a spine: every left side with its operator. -/
def lineOf (spine : List (Operator × Expression)) : Text :=
  spine.flatMap fun (op, left) => left.line ++ [' ', op.symbol, ' ']

/-- The depth of an expression counts the operators in its spine. -/
theorem length_spine (e : Expression) : e.spine.length = e.depth := by
  induction e with
  | leaf => rfl
  | node _ _ _ _ ih => exact congrArg (· + 1) ih

/-- An expression is its spine and its rightmost operand. -/
theorem ext_spine {a b : Expression} (spine : a.spine = b.spine) (rightmost : a.rightmost = b.rightmost) :
    a = b := by
  induction a generalizing b with
  | leaf o =>
    cases b with
    | leaf p => exact congrArg leaf rightmost
    | node => cases spine
  | node op left right _ ih =>
    cases b with
    | leaf => cases spine
    | node other front last =>
      obtain ⟨top, rest⟩ := List.cons.inj spine
      obtain ⟨rfl, rfl⟩ := Prod.mk.inj top
      exact congrArg (node op left) (ih rest rightmost)

@[simp]
theorem spine_mapRightmost (f : Operand → Operand) (e : Expression) : (e.mapRightmost f).spine = e.spine := by
  induction e with
  | leaf => rfl
  | node op left _ _ ih => exact congrArg ((op, left) :: ·) ih

/-- To leave the rightmost operand as it is is to leave the whole expression as it is. -/
theorem mapRightmost_eq_self_iff (f : Operand → Operand) (e : Expression) :
    e.mapRightmost f = e ↔ f e.rightmost = e.rightmost := by
  rw [← rightmost_mapRightmost f e]
  exact ⟨congrArg rightmost, ext_spine (e.spine_mapRightmost f)⟩

theorem mapRightmost_id (e : Expression) : e.mapRightmost id = e := (mapRightmost_eq_self_iff id e).mpr rfl

theorem mapRightmost_mapRightmost (f g : Operand → Operand) (e : Expression) :
    (e.mapRightmost f).mapRightmost g = e.mapRightmost (g ∘ f) :=
  ext_spine (by simp) (by simp)

/-- Only what becomes of the rightmost operand matters. -/
theorem mapRightmost_congr {e : Expression} {f g : Operand → Operand} (same : f e.rightmost = g e.rightmost) :
    e.mapRightmost f = e.mapRightmost g :=
  ext_spine (by simp) (by simpa using same)

/-- A line shows the spine and then the rightmost operand. -/
theorem line_eq (e : Expression) : e.line = lineOf e.spine ++ e.rightmost.text := by
  induction e with
  | leaf => rfl
  | node op left right _ ih =>
    rw [line, ih, ← List.append_assoc]
    rfl

theorem spine_typeChar (e : Expression) (c : Char) : (e.typeChar c).spine = e.spine := by
  rw [typeChar]
  split
  · exact e.spine_mapRightmost _
  · rfl

theorem rightmost_typeChar (e : Expression) (c : Char) :
    (e.typeChar c).rightmost = if Typeable c then e.rightmost.extend c else e.rightmost := by
  rw [typeChar, apply_ite rightmost, rightmost_mapRightmost]

theorem typeChar_eq_self_iff (e : Expression) (c : Char) :
    e.typeChar c = e ↔ ¬Typeable c ∨ e.rightmost.extend c = e.rightmost := by
  rw [typeChar]
  split
  · rename_i typeable
    rw [mapRightmost_eq_self_iff]
    exact (or_iff_right fun other => other typeable).symm
  · rename_i other
    exact iff_of_true rfl (Or.inl other)

/-- A typed character reaches the rightmost operand of any expression and nothing else. The operators in front and
what stands on their left stay, and the line changes only in the text of that operand. Nothing at all changes where
the character is none of a numeral, a further point, or a zero on a lone zero; so a point typed twice is one point.
-/
theorem typing_reaches_rightmost (e : Expression) (c : Char) :
    ((e.typeChar c).spine = e.spine ∧ (e.typeChar c).depth = e.depth ∧
      (e.typeChar c).rightmost = if Typeable c then e.rightmost.extend c else e.rightmost) ∧
    (e.line = lineOf e.spine ++ e.rightmost.text ∧
      (e.typeChar c).line = lineOf e.spine ++ (e.typeChar c).rightmost.text) ∧
    (e.typeChar c = e ↔ c ∉ "0123456789.".toList ∨ (c = '.' ∧ ∃ t, e.rightmost = .typed t ∧ '.' ∈ t) ∨
      (c = '0' ∧ e.rightmost = .typed ['0'])) ∧
    (e.typeChar '.').typeChar '.' = e.typeChar '.' := by
  have spine := e.spine_typeChar c
  refine ⟨⟨spine, ?_, e.rightmost_typeChar c⟩, ⟨e.line_eq, ?_⟩, ?_, ?_⟩
  · rw [← length_spine, spine, length_spine]
  · rw [line_eq, spine]
  · rw [typeChar_eq_self_iff, typeable_iff_mem, Operand.extend_eq_self_iff]
  · have point : Typeable '.' := Or.inr rfl
    rw [typeChar_eq_self_iff, rightmost_typeChar, if_pos point]
    exact Or.inr e.rightmost.extend_point_extend_point

end Calculator.Expression
