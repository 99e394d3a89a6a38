import Calculator.Proofs.Expression.Spine
import Calculator.Proofs.Expression.Texts
import Calculator.Proofs.Key.Reading

namespace Calculator

open Key (Known)

theorem Begun.known {t : Text} (begun : Begun t) : Known t := by
  intro c member
  rw [Key.ofChar?_of_typeable (begun.char member)]
  exact Or.inr rfl

theorem Partial.known {t : Text} (part : Partial t) : Known t := by
  intro c member
  rw [Key.ofChar?_of_typeable (part.char member)]
  exact Or.inr rfl

/-- What a value shows can be typed as keys. -/
theorem Canonical.known {t : Text} (canonical : Canonical t) : Known t := by
  cases canonical with
  | plain plain => exact plain.begun.known
  | minus plain _ => exact List.forall_mem_cons.mpr ⟨Or.inr rfl, plain.begun.known⟩

/-- An operator in a line can be typed as a key, with the spaces around it. -/
theorem Operator.known (op : Operator) : Known [' ', op.symbol, ' '] := by
  intro c member
  simp only [List.mem_cons, List.not_mem_nil, or_false] at member
  rcases member with rfl | rfl | rfl
  · exact Or.inl rfl
  · rw [Key.ofChar?_symbol]
    exact Or.inr rfl
  · exact Or.inl rfl

namespace Expression

/-- The expression after the keys of a text, white space left out. -/
def enter (e : Expression) (t : Text) : Expression := e.run (t.filterMap Key.ofChar?)

/-- A text of keys and white space is replayed as it is entered at the start. -/
theorem replay_of_known {t : Text} (known : Known t) : replay t = .ok (start.enter t) := by
  rw [replay, Key.read_of_known known]
  rfl

/-- Any text is entered as it is replayed without the characters that are no keys. -/
theorem replay_filter (t : Text) : replay (t.filter fun c => (Key.ofChar? c).isSome) = .ok (start.enter t) := by
  have known : Known (t.filter fun c => (Key.ofChar? c).isSome) :=
    fun c member => Or.inr (List.mem_filter.mp member).2
  have pressed : (t.filter fun c => (Key.ofChar? c).isSome).filterMap Key.ofChar? = t.filterMap Key.ofChar? := by
    rw [List.filterMap_filter]
    exact congrArg (List.filterMap · t) (funext fun c => by cases Key.ofChar? c <;> rfl)
  rw [replay_of_known known, enter, pressed, ← enter]

theorem enter_append (e : Expression) (s t : Text) : e.enter (s ++ t) = (e.enter s).enter t := by
  rw [enter, List.filterMap_append, run_append]
  rfl

theorem enter_operator (e : Expression) (op : Operator) : e.enter [' ', op.symbol, ' '] = e.applyOperator op := by
  have blank : Key.ofChar? ' ' = none := rfl
  simp only [enter, List.filterMap_cons, List.filterMap_nil, blank, Key.ofChar?_symbol]
  rfl

/-- Characters that numerals are typed with all go to the rightmost operand. -/
theorem enter_typeable (e : Expression) {t : Text} (typeable : ∀ c ∈ t, Typeable c) :
    e.enter t = e.mapRightmost fun o => t.foldl Operand.extend o := by
  induction t generalizing e with
  | nil => exact e.mapRightmost_id.symm
  | cons c t ih =>
    obtain ⟨head, tail⟩ := List.forall_mem_cons.mp typeable
    have rest := ih (e.typeChar c) tail
    rw [typeChar, if_pos head, mapRightmost_mapRightmost] at rest
    rw [enter, List.filterMap_cons_some (Key.ofChar?_of_typeable head), run_cons, press, typeChar, if_pos head]
    exact rest

/-- A numeral entered at the start is a single open operand. -/
theorem start_enter {t : Text} (begun : Begun t) : start.enter t = leaf (.typed t) := by
  rw [enter_typeable _ fun c member => begun.char member]
  exact congrArg leaf begun.retype_zero

/-- Entered at the start, a numeral with a minus sign is taken away from nought. -/
theorem start_enter_minus {t : Text} (begun : Begun t) :
    start.enter ('-' :: t) = node .minus (leaf (.typed ['0'])) (leaf (.typed t)) := by
  have digits := enter_typeable (node .minus (leaf (.typed ['0'])) (leaf .empty)) fun c member => begun.char member
  rw [enter, List.filterMap_cons_some (show Key.ofChar? '-' = some (.operator .minus) from rfl), run_cons]
  refine digits.trans ?_
  exact congrArg (node _ _ ∘ leaf) (Partial.begun begun).retype_empty

/-- Into an empty place any operand that may stand last is typed back as it was. -/
theorem enter_last {e : Expression} {o : Operand} (empty : e.rightmost = .empty) (last : Places.written.last o) :
    e.enter o.text = e.mapRightmost fun _ => o := by
  have fill {f g : Operand → Operand} (same : f .empty = g .empty) : e.mapRightmost f = e.mapRightmost g :=
    mapRightmost_congr (empty ▸ same)
  rcases last with rfl | ⟨t, rfl, part⟩
  · exact e.mapRightmost_id.symm.trans (fill rfl)
  · rw [Operand.text, enter_typeable _ fun c member => part.char member]
    exact fill part.retype_empty

end Expression

end Calculator
