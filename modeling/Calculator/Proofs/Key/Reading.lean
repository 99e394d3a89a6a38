import Calculator.Key
import Calculator.Proofs.Text.Letters

namespace Calculator

namespace Key

theorem ofChar?_of_typeable {c : Char} (typeable : Typeable c) : ofChar? c = some (typed c typeable) :=
  dif_pos typeable

/-- The symbol of an operator is read as its key. -/
@[simp] theorem ofChar?_symbol (op : Operator) : ofChar? op.symbol = some (operator op) := by
  cases op <;> rfl

/-- White space never stands for a key. -/
theorem ofChar?_of_isBlank {c : Char} (blank : isBlank c = true) : ofChar? c = none := by
  have other {d : Char} (shown : isBlank d = false) : c ≠ d := by
    rintro rfl
    rw [blank] at shown
    cases shown
  have untypeable : ¬Typeable c := by
    rintro (digit | point)
    · rw [isBlank_of_isDigit digit] at blank
      cases blank
    · exact other rfl point
  have noClear : ¬(c = 'c' ∨ c = 'C') := fun clear => clear.elim (other rfl) (other rfl)
  have noOperator : Operator.ofChar? c = none := by
    unfold Operator.ofChar?
    split <;> first | rfl | exact absurd rfl (other rfl)
  rw [ofChar?, dif_neg untypeable, if_neg (other rfl), if_neg (other rfl), if_neg noClear, noOperator]
  rfl

/-- A text in which every character is a key or white space. -/
def Known (t : Text) : Prop := ∀ c ∈ t, isBlank c = true ∨ (ofChar? c).isSome = true

theorem Known.append {s t : Text} (first : Known s) (second : Known t) : Known (s ++ t) :=
  List.forall_mem_append.mpr ⟨first, second⟩

/-- Such a text gives the keys of its characters, and reading goes on behind it. -/
theorem readFrom_append {s : Text} (known : Known s) (position : Nat) (t : Text) :
    readFrom position (s ++ t) = (readFrom (position + s.length) t).map (s.filterMap ofChar? ++ ·) := by
  induction s generalizing position with
  | nil =>
    rw [List.nil_append, List.length_nil, Nat.add_zero]
    cases readFrom position t <;> rfl
  | cons c s ih =>
    obtain ⟨head, tail⟩ := List.forall_mem_cons.mp known
    have rest := ih tail (position + 1)
    rw [Nat.add_right_comm, Nat.add_assoc, ← List.length_cons (a := c)] at rest
    by_cases blank : isBlank c = true
    · rw [List.cons_append, readFrom, if_pos blank, rest, List.filterMap_cons_none (ofChar?_of_isBlank blank)]
    · obtain ⟨k, key⟩ := Option.isSome_iff_exists.mp (head.resolve_left blank)
      rw [List.cons_append, readFrom, if_neg blank, key, List.filterMap_cons_some key, rest]
      cases readFrom (position + (c :: s).length) t <;> rfl

theorem readFrom_of_known {t : Text} (known : Known t) (position : Nat) :
    readFrom position t = .ok (t.filterMap ofChar?) := by
  have whole := readFrom_append known position []
  rw [List.append_nil] at whole
  rw [whole, readFrom, Except.map, List.append_nil]

theorem read_of_known {t : Text} (known : Known t) : read t = .ok (t.filterMap ofChar?) :=
  readFrom_of_known known 0

/-- A character that is neither a key nor white space. -/
def Strange (c : Char) : Prop := isBlank c = false ∧ ofChar? c = none

/-- A text that is not known through and through is known up to its first strange character. -/
theorem exists_strange {t : Text} (unknown : ¬Known t) :
    ∃ before c after, t = before ++ c :: after ∧ Known before ∧ Strange c := by
  induction t with
  | nil => exact absurd (fun _ member => absurd member List.not_mem_nil) unknown
  | cons c t ih =>
    by_cases head : isBlank c = true ∨ (ofChar? c).isSome = true
    · have unknownTail : ¬Known t := fun tail => unknown (List.forall_mem_cons.mpr ⟨head, tail⟩)
      obtain ⟨before, strange, after, rfl, known, first⟩ := ih unknownTail
      exact ⟨c :: before, strange, after, rfl, List.forall_mem_cons.mpr ⟨head, known⟩, first⟩
    · rw [not_or, Bool.not_eq_true, Option.not_isSome_iff_eq_none] at head
      exact ⟨[], c, t, rfl, fun _ member => absurd member List.not_mem_nil, head⟩

/-- It is then that character which reading reports, with all characters before it counted. -/
theorem readFrom_strange {before : Text} {c : Char} (known : Known before) (strange : Strange c) (position : Nat)
    (after : Text) : readFrom position (before ++ c :: after) = .error ⟨c, position + before.length⟩ := by
  rw [readFrom_append known, readFrom, if_neg (by simp [strange.1]), strange.2]
  rfl

/-- What gives keys is known through and through. -/
theorem known_of_readFrom {t : Text} {position : Nat} {keys : List Key} (read : readFrom position t = .ok keys) :
    Known t := by
  induction t generalizing position keys with
  | nil => exact fun c member => absurd member List.not_mem_nil
  | cons c t ih =>
    rw [readFrom] at read
    split at read
    · rename_i blank
      exact List.forall_mem_cons.mpr ⟨Or.inl blank, ih read⟩
    · cases key : ofChar? c with
      | none =>
        rw [key] at read
        cases read
      | some k =>
        simp only [key] at read
        cases rest : readFrom (position + 1) t with
        | error fault =>
          rw [rest] at read
          cases read
        | ok others => exact List.forall_mem_cons.mpr ⟨Or.inr (key ▸ rfl), ih rest⟩

/-- A character that stands for a key: its label, but for clear, which has a letter. -/
def char : Key → Char
  | typed c _ => c
  | operator op => op.symbol
  | equals => '='
  | clear => 'C'

/-- That character is read as the key. -/
@[simp] theorem ofChar?_char (k : Key) : ofChar? k.char = some k := by
  cases k with
  | typed c typeable => exact ofChar?_of_typeable typeable
  | operator op => exact ofChar?_symbol op
  | equals => rfl
  | clear => rfl

/-- The characters of keys are read as those keys. -/
theorem filterMap_map_char (keys : List Key) : (keys.map char).filterMap ofChar? = keys := by
  induction keys with
  | nil => rfl
  | cons k keys ih => rw [List.map_cons, List.filterMap_cons_some (ofChar?_char k), ih]

theorem known_map_char (keys : List Key) : Known (keys.map char) := by
  intro c member
  obtain ⟨k, _, rfl⟩ := List.mem_map.mp member
  rw [ofChar?_char]
  exact Or.inr rfl

end Key

end Calculator
