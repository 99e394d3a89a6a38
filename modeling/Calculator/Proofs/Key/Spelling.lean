import Calculator.Proofs.Key.Reading
import Mathlib.Data.List.Forall2

namespace Calculator

/-- The characters that stand for an operator. -/
def Operator.spellings : Operator → List Char
  | plus => ['+']
  | minus => ['-', '−']
  | times => ['*', '×', 'x', 'X']
  | divide => ['/', '÷']

theorem Operator.mem_spellings_of_ofChar? {c : Char} {op : Operator} (spelled : ofChar? c = some op) :
    c ∈ op.spellings := by
  unfold ofChar? at spelled
  split at spelled <;> cases spelled <;> decide

/-- The same character with more characters before it. -/
def UnknownKey.behind (n : Nat) (fault : UnknownKey) : UnknownKey := { fault with position := fault.position + n }

namespace Key

/-- The characters that stand for a key. -/
def spellings : Key → List Char
  | typed c _ => if c = '.' then ['.', ','] else [c]
  | operator op => op.spellings
  | equals => ['=']
  | clear => ['c', 'C']

theorem mem_spellings_typed {c d : Char} {typeable : Typeable d} :
    c ∈ (typed d typeable).spellings ↔ c = d ∨ c = ',' ∧ d = '.' := by
  rw [spellings]
  split
  · rename_i point
    simp [point]
  · rename_i digit
    simp [digit]

theorem mem_spellings_of_ofChar? {c : Char} {k : Key} (spelled : ofChar? c = some k) : c ∈ k.spellings := by
  unfold ofChar? at spelled
  split at spelled
  · cases spelled
    exact mem_spellings_typed.mpr (Or.inl rfl)
  · split at spelled
    · rename_i comma
      cases spelled
      exact mem_spellings_typed.mpr (Or.inr ⟨comma, rfl⟩)
    · split at spelled
      · rename_i sign
        cases spelled
        exact List.mem_singleton.mpr sign
      · split at spelled
        · rename_i letter
          cases spelled
          simpa [spellings] using letter
        · obtain ⟨op, sign, rfl⟩ := Option.map_eq_some_iff.mp spelled
          exact Operator.mem_spellings_of_ofChar? sign

theorem ofChar?_of_mem_spellings {c : Char} {k : Key} (member : c ∈ k.spellings) : ofChar? c = some k := by
  cases k with
  | typed d typeable =>
    rcases mem_spellings_typed.mp member with rfl | ⟨rfl, rfl⟩
    · exact ofChar?_of_typeable typeable
    · rfl
  | operator op =>
    have listed : op.spellings.all (fun d => decide (ofChar? d = some (operator op))) = true := by cases op <;> rfl
    exact of_decide_eq_true (List.all_eq_true.mp listed c member)
  | equals =>
    obtain rfl := List.mem_singleton.mp member
    rfl
  | clear =>
    have listed : clear.spellings.all (fun d => decide (ofChar? d = some clear)) = true := rfl
    exact of_decide_eq_true (List.all_eq_true.mp listed c member)

/-- A character stands for a key exactly if it is one of its spellings. -/
theorem ofChar?_eq_some_iff {c : Char} {k : Key} : ofChar? c = some k ↔ c ∈ k.spellings :=
  ⟨mem_spellings_of_ofChar?, ofChar?_of_mem_spellings⟩

/-- A text gives keys exactly if everything in it is known, and then those of its characters. -/
theorem read_eq_ok_iff {t : Text} {keys : List Key} : read t = .ok keys ↔ Known t ∧ t.filterMap ofChar? = keys := by
  constructor
  · intro done
    have known := known_of_readFrom done
    exact ⟨known, Except.ok.inj ((read_of_known known).symm.trans done)⟩
  · rintro ⟨known, rfl⟩
    exact read_of_known known

/-- Where everything is known, the characters that are not white space spell the keys one by one. -/
theorem spelled_iff {t : Text} {keys : List Key} :
    Known t ∧ t.filterMap ofChar? = keys ↔
      List.Forall₂ (fun c k => c ∈ k.spellings) (t.filter fun c => !isBlank c) keys := by
  induction t generalizing keys with
  | nil =>
    rw [List.filter_nil, List.forall₂_nil_left_iff]
    have known : Known [] := fun _ member => absurd member List.not_mem_nil
    exact ⟨fun spelled => spelled.2.symm, fun nothing => ⟨known, nothing.symm⟩⟩
  | cons c t ih =>
    rw [Known, List.forall_mem_cons, ← Known]
    by_cases blank : isBlank c = true
    · rw [List.filterMap_cons_none (ofChar?_of_isBlank blank), List.filter_cons_of_neg (by simp [blank]), ← ih]
      simp [blank]
    · rw [List.filter_cons_of_pos (by simp [blank]), List.forall₂_cons_left_iff]
      constructor
      · rintro ⟨⟨head, tail⟩, rfl⟩
        obtain ⟨k, spelled⟩ := Option.isSome_iff_exists.mp (head.resolve_left blank)
        exact ⟨k, _, ofChar?_eq_some_iff.mp spelled, ih.mp ⟨tail, rfl⟩, List.filterMap_cons_some spelled⟩
      · rintro ⟨k, rest, spelled, others, rfl⟩
        have key := ofChar?_eq_some_iff.mpr spelled
        obtain ⟨tail, rfl⟩ := ih.mpr others
        exact ⟨⟨Or.inr (key ▸ rfl), tail⟩, List.filterMap_cons_some key⟩

/-- It is refused exactly for its first strange character. -/
theorem read_eq_error_iff {t : Text} {fault : UnknownKey} : read t = .error fault ↔
    ∃ before after, t = before ++ fault.char :: after ∧ Known before ∧ Strange fault.char ∧
      fault.position = before.length := by
  constructor
  · intro failed
    have unknown : ¬Known t := by
      intro known
      rw [read_of_known known] at failed
      cases failed
    obtain ⟨before, c, after, rfl, known, strange⟩ := exists_strange unknown
    rw [read, readFrom_strange known strange] at failed
    cases failed
    exact ⟨before, after, rfl, known, strange, Nat.zero_add _⟩
  · rintro ⟨before, after, rfl, known, strange, position⟩
    rw [read, readFrom_strange known strange, Nat.zero_add, ← position]

/-- Where the count begins shows in the position of a refusal only. -/
theorem readFrom_add (position n : Nat) (t : Text) :
    readFrom (position + n) t = (readFrom position t).mapError (·.behind n) := by
  induction t generalizing position with
  | nil => rfl
  | cons c t ih =>
    have rest := ih (position + 1)
    rw [Nat.add_right_comm] at rest
    rw [readFrom, readFrom, rest]
    split
    · rfl
    · split
      · rfl
      · cases readFrom (position + 1) t <;> rfl

/-- Texts in a row are read in turn. -/
theorem read_append (s t : Text) :
    read (s ++ t) = (read s).bind fun first => ((read t).mapError (·.behind s.length)).map (first ++ ·) := by
  by_cases known : Known s
  · rw [read_of_known known, read, readFrom_append known, readFrom_add, ← read]
    rfl
  · obtain ⟨before, c, after, rfl, known, strange⟩ := exists_strange known
    rw [read, List.append_assoc, List.cons_append, readFrom_strange known strange, read,
      readFrom_strange known strange]
    rfl

theorem label_of_ne_clear {k : Key} (other : k ≠ clear) : k.label = [k.char] := by
  cases k with
  | clear => exact absurd rfl other
  | typed | operator | equals => rfl

/-- Labels are the characters of their keys, as long as clear is not among them. -/
theorem flatMap_label {keys : List Key} (absent : clear ∉ keys) : keys.flatMap label = keys.map char := by
  rw [List.map_eq_flatMap]
  apply List.flatMap_congr
  intro k member
  apply label_of_ne_clear
  rintro rfl
  exact absent member

/-- The letters of the label of clear are not all keys, so labels read back as long as clear is not among them. -/
theorem read_labels (keys : List Key) : read (keys.flatMap label) =
    if clear ∈ keys then .error ⟨'l', keys.idxOf clear + 1⟩ else .ok keys := by
  split
  · rename_i member
    obtain ⟨before, after, rfl, first⟩ := List.eq_append_cons_of_mem member
    have split : (before ++ clear :: after).flatMap label =
        (before.map char ++ [clear.char]) ++ 'l' :: ("ear".toList ++ after.flatMap label) := by
      simp [flatMap_label first, label, char]
    have known : Known (before.map char ++ [clear.char]) := (known_map_char before).append (known_map_char [clear])
    have strange : Strange 'l' := ⟨rfl, rfl⟩
    rw [split, read, readFrom_strange known strange, List.idxOf_append_of_notMem first]
    simp
  · rename_i absent
    rw [flatMap_label absent, read_of_known (known_map_char keys), filterMap_map_char]

/-- Reading is exact. A text gives keys if and only if its characters other than white space spell them, each key
with one of its spellings, wherever white space stands; otherwise it gives the first strange character with the
number of all characters before it. Texts in a row are read in turn. Labels are spellings, but for that of clear. -/
theorem read_exact :
    (∀ (t : Text) (keys : List Key), read t = .ok keys ↔
      List.Forall₂ (fun c k => c ∈ k.spellings) (t.filter fun c => !isBlank c) keys) ∧
    (∀ t : Text, (∃ keys, read t = .ok keys) ↔ Known t) ∧
    (∀ (t : Text) (fault : UnknownKey), read t = .error fault ↔ ∃ before after, t = before ++ fault.char :: after ∧
      Known before ∧ Strange fault.char ∧ fault.position = before.length) ∧
    (∀ s t : Text, read (s ++ t) =
      (read s).bind fun first => ((read t).mapError (·.behind s.length)).map (first ++ ·)) ∧
    (∀ (c : Char) (k : Key), ofChar? c = some k ↔ c ∈ k.spellings) ∧
    (∀ k : Key, k ≠ clear → ∃ c ∈ k.spellings, k.label = [c]) ∧
    ∀ keys : List Key, read (keys.flatMap label) =
      if clear ∈ keys then .error ⟨'l', keys.idxOf clear + 1⟩ else .ok keys := by
  refine ⟨?_, ?_, fun _ _ => read_eq_error_iff, read_append, fun _ _ => ofChar?_eq_some_iff, ?_, read_labels⟩
  · intro t keys
    rw [read_eq_ok_iff, spelled_iff]
  · intro t
    exact ⟨fun ⟨_, done⟩ => known_of_readFrom done, fun known => ⟨_, read_of_known known⟩⟩
  · intro k other
    exact ⟨k.char, ofChar?_eq_some_iff.mp k.ofChar?_char, label_of_ne_clear other⟩

/-- White space may stand anywhere, and a comma is a point. -/
example : read " 7,x\t2 c".toList =
    .ok [.typed '7' (.inl rfl), point, operator .times, .typed '2' (.inl rfl), clear] := rfl

end Key

end Calculator
