import Calculator.Log.Filter
import Calculator.Proofs.Text.Letters
import Mathlib

namespace Calculator

theorem Directive.isBlank_of_isInitial {c : Char} (initial : isInitial c = true) : isBlank c = false := by
  simp only [isInitial, decide_eq_true_eq, List.mem_cons, List.not_mem_nil, or_false] at initial
  rcases initial with rfl | letter | rfl | rfl | rfl
  · rfl
  · exact isBlank_of_isAlphanumeric letter
  all_goals rfl

namespace Limit

variable {t : Text} {limit : Limit} {c : Char}

/-- Limits are named in capital letters. -/
theorem name_isUpper (limit : Limit) : ∀ c ∈ limit.name, c.isUpper = true := by
  apply List.all_eq_true.mp
  cases limit with
  | none => decide
  | some level => cases level <;> decide

theorem read?_nil : read? [] = none := by decide

theorem isAlpha_of_named (named : t.map Char.toUpper = limit.name) (member : c ∈ t) : c.isAlpha = true :=
  c.isUpper_toUpper_eq_isAlpha.symm.trans (name_isUpper limit _ (named ▸ List.mem_map_of_mem member))

/-- What is read as a limit is a row of digits, perhaps with a plus sign, or the name of the limit in letters of
either case. -/
theorem read?_cases (read : read? t = some limit) :
    (∃ digits : Text, digits.all Char.isDigit = true ∧ (t = digits ∨ t = '+' :: digits)) ∨
      t.map Char.toUpper = limit.name := by
  have unsigned : t = (if t.head? = some '+' then t.tail else t) ∨
      t = '+' :: (if t.head? = some '+' then t.tail else t) := by
    split
    · rename_i plus
      obtain ⟨rest, rfl⟩ := List.head?_eq_some_iff.mp plus
      exact Or.inr rfl
    · exact Or.inl rfl
  unfold read? at read
  generalize (if t.head? = some '+' then t.tail else t) = digits at read unsigned
  dsimp only at read
  split at read
  · rename_i numeral
    exact Or.inl ⟨digits, numeral.2, unsigned⟩
  · have word : limit.name = t.map Char.toUpper := by simpa using List.find?_some read
    exact Or.inr word.symm

/-- Only letters, digits and a plus sign stand in a text that is read as a limit. -/
theorem char_of_read? (read : read? t = some limit) (member : c ∈ t) : c.isAlphanum = true ∨ c = '+' := by
  rcases read?_cases read with ⟨digits, numeral, spelled⟩ | named
  · have digit (inside : c ∈ digits) : c.isAlphanum = true :=
      isAlphanum_of_isDigit (List.all_eq_true.mp numeral c inside)
    rcases spelled with rfl | rfl
    · exact Or.inl (digit member)
    · exact (List.mem_cons.mp member).symm.imp_left digit
  · exact Or.inl (isAlphanum_of_isAlpha (isAlpha_of_named named member))

theorem ne_nil_of_read? (read : read? t = some limit) : t ≠ [] := by
  rintro rfl
  rw [read?_nil] at read
  cases read

theorem isBlank_of_read? (read : read? t = some limit) (member : c ∈ t) : isBlank c = false := by
  rcases char_of_read? read member with letter | rfl
  · exact isBlank_of_isAlphanum letter
  · rfl

/-- So no other marks stand in it. -/
theorem free_of_read? (read : read? t = some limit) {marks : List Char}
    (others : marks.all (fun mark => mark.isAlphanum = false ∧ mark ≠ '+') = true) : ∀ c ∈ t, c ∉ marks := by
  intro c member mark
  obtain ⟨other, unsigned⟩ := of_decide_eq_true (List.all_eq_true.mp others c mark)
  rcases char_of_read? read member with letter | plus
  · rw [letter] at other
    cases other
  · exact unsigned plus

/-- The name of a limit may be written in letters of either case. -/
theorem read?_of_named (named : t.map Char.toUpper = limit.name) : read? t = some limit := by
  have sign : t.head? ≠ some '+' := by
    intro plus
    cases isAlpha_of_named named (List.mem_of_head? plus)
  have letters : ¬(t ≠ [] ∧ t.all Char.isDigit = true) := by
    rintro ⟨nonempty, digits⟩
    obtain ⟨c, rest, rfl⟩ := List.exists_cons_of_ne_nil nonempty
    have digit := List.all_eq_true.mp digits c List.mem_cons_self
    rw [isDigit_of_isAlpha (isAlpha_of_named named List.mem_cons_self)] at digit
    cases digit
  have listed : all.find? (fun other => other.name = limit.name) = some limit := by
    cases limit with
    | none => decide
    | some level => cases level <;> decide
  simp only [read?, if_neg sign, if_neg letters, named]
  exact listed

end Limit

namespace Directive

open Cursor

/-- Nothing is cut from a text without marks. -/
theorem cut?_of_free {marks : List Char} {t given : Text} (free : ∀ c ∈ t, c ∉ marks) :
    cut? marks ⟨t, given⟩ = none := by
  have exhausted : t.dropWhile (· ∉ marks) = [] := by simpa [List.dropWhile_eq_nil_iff] using free
  simp only [cut?, exhausted]

/-- Where no blanks come first, the parts of a directive are cut where they are seen: the bytes of the mark are
dropped with those of the part before it. -/
theorem cut?_append {marks : List Char} {part rest : Text} {mark : Char} (free : ∀ c ∈ part, c ∉ marks)
    (stop : mark ∈ marks) :
    cut? marks ⟨part ++ mark :: rest, part ++ mark :: rest⟩ = some (part, mark, ⟨rest, rest⟩) := by
  have free (c : Char) (member : c ∈ part) : decide (c ∉ marks) = true := decide_eq_true (free c member)
  have front : (part ++ mark :: rest).takeWhile (· ∉ marks) = part := by
    rw [List.takeWhile_append_of_pos free, List.takeWhile_cons_of_neg (by simpa using stop), List.append_nil]
  have back : (part ++ mark :: rest).dropWhile (· ∉ marks) = mark :: rest := by
    rw [List.dropWhile_append_of_pos free, List.dropWhile_cons_of_neg (by simpa using stop)]
  have size : Text.byteCount part + mark.utf8Size = Text.byteCount (part ++ [mark]) := by
    rw [Text.byteCount_append]
    rfl
  have behind := Text.dropBytes_append (part ++ [mark]) rest
  rw [List.append_assoc, List.singleton_append] at behind
  simp only [cut?, front, back, Text.takeBytes_append, size, behind]

/-- A text that sets a limit: for all events, or for those of a part of the program, whose path stands before an
equals sign. -/
inductive Sets : Text → Text → Limit → Prop
  | everywhere {level : Text} {limit : Limit} : Limit.read? level = some limit → level.head? ≠ some '+' →
      Sets level [] limit
  | under {path level : Text} {limit : Limit} : path.head?.any isInitial → ',' ∉ path → '=' ∉ path → '[' ∉ path →
      Limit.read? level = some limit → Sets (path ++ '=' :: level) path limit

namespace Sets

variable {t path : Text} {limit : Limit}

/-- The name of a limit sets it for all events. -/
theorem of_named (named : t.map Char.toUpper = limit.name) : Sets t [] limit := by
  refine .everywhere (Limit.read?_of_named named) ?_
  intro plus
  cases Limit.isAlpha_of_named named (List.mem_of_head? plus)

/-- Such a text stays in one piece where filters are divided. -/
theorem no_comma (sets : Sets t path limit) : ',' ∉ t := by
  have free {level : Text} (read : Limit.read? level = some limit) : ',' ∉ level := by
    have marks : ∀ c ∈ level, c ∉ [','] := Limit.free_of_read? read (by decide)
    exact fun member => marks _ member List.mem_cons_self
  cases sets with
  | everywhere level _ => exact free level
  | under _ comma _ _ level =>
    intro member
    rcases List.mem_append.mp member with front | back
    · exact comma front
    · exact free level ((List.mem_cons.mp back).resolve_left (by decide))

theorem initial (sets : Sets t path limit) : t.head?.any isInitial = true := by
  cases sets with
  | everywhere level sign =>
    obtain ⟨c, rest, rfl⟩ := List.exists_cons_of_ne_nil (Limit.ne_nil_of_read? level)
    have letter := (Limit.char_of_read? level List.mem_cons_self).resolve_right (by simpa using sign)
    simp [isInitial, isAlphanumeric_of_isAlphanum letter]
  | @under path _ _ first =>
    cases path with
    | nil => cases first
    | cons => exact first

/-- Such a text neither begins nor ends with a blank. -/
theorem trimBlanks_eq (sets : Sets t path limit) : trimBlanks t = t := by
  have first := sets.initial
  apply trimBlanks_eq_self
  · intro c head
    rw [head] at first
    exact isBlank_of_isInitial first
  · intro c last
    cases sets with
    | everywhere level _ => exact Limit.isBlank_of_read? level (List.mem_of_getLast? last)
    | under _ _ _ _ level =>
      obtain ⟨d, rest, rfl⟩ := List.exists_cons_of_ne_nil (Limit.ne_nil_of_read? level)
      rw [List.getLast?_append, List.getLast?_cons_cons, List.getLast?_cons, Option.some_or,
        ← List.getLast?_cons] at last
      exact Limit.isBlank_of_read? level (List.mem_of_getLast? last)

/-- It is read as one directive, which is about just the events under the path. -/
theorem exists_directive (sets : Sets t path limit) :
    ∃ d, read t = .ok d ∧ d.limit = limit ∧ ∀ event, d.Concerns event ↔ path <+: event.source := by
  have first := sets.initial
  have trimmed := sets.trimBlanks_eq
  cases sets with
  | everywhere level _ =>
    have free : ∀ c ∈ t, c ∉ ['=', '['] := Limit.free_of_read? level (by decide)
    refine ⟨⟨none, none, none, limit⟩, ?_, rfl, ?_⟩
    · simp only [read, start, trimmed, first, if_true, cut?_of_free free, level]
    · simp [Concerns]
  | @under _ level _ _ _ equals bracket read =>
    have free : ∀ c ∈ path, c ∉ ['=', '['] := by
      intro c member mark
      rcases List.mem_cons.mp mark with rfl | mark
      · exact equals member
      · cases List.mem_singleton.mp mark
        exact bracket member
    refine ⟨⟨some path, none, none, limit⟩, ?_, rfl, ?_⟩
    · simp only [Directive.read, start, trimmed, first, if_true, cut?_append free List.mem_cons_self, Cursor.limit,
        if_neg (Limit.ne_nil_of_read? read), read]
      rfl
    · simp [Concerns]

end Sets

end Directive

namespace Filter

open Directive (Sets)

variable {given environment : Option Text} {t path : Text} {limit : Limit}

theorem decisive?_congr {a b : Event} (source : a.source = b.source) (names : a.fieldNames = b.fieldNames)
    (directives : List Directive) : decisive? a directives = decisive? b directives := by
  have concerns (d : Directive) : d.Concerns a ↔ d.Concerns b := by
    rw [Directive.Concerns, Directive.Concerns, source, names]
  induction directives with
  | nil => rfl
  | cons d rest ih => simp only [decisive?, ih, concerns]

/-- No filter looks at the details of an event, only at what details there are. -/
theorem admits_congr (filter : Filter) {a b : Event} (source : a.source = b.source)
    (names : a.fieldNames = b.fieldNames) (level : a.level = b.level) : filter.Admits a ↔ filter.Admits b := by
  rw [Admits, Admits, decisive?_congr source names, level]

/-- A filter of one directive lets through what the directive concerns and its limit allows. -/
theorem admits_single (d : Directive) (event : Event) :
    Admits ⟨[d]⟩ event ↔ d.Concerns event ∧ d.limit.Allows event.level := by
  by_cases concerns : d.Concerns event <;> simp [Admits, decisive?, concerns]

theorem pieces_of_sets (sets : Sets t path limit) : pieces t = [t] := by
  have nonempty : t ≠ [] := by
    rintro rfl
    cases sets.initial
  rw [pieces, Text.parts_of_notMem sets.no_comma, List.filter_cons_of_pos (by simpa using nonempty),
    List.filter_nil]

/-- Such a text is understood as a whole. -/
theorem exists_ofText (sets : Sets t path limit) :
    ∃ d, ofText t = ⟨[d]⟩ ∧ ofText? t = some ⟨[d]⟩ ∧ complaints t = [] ∧
      ∀ event, Admits ⟨[d]⟩ event ↔ path <+: event.source ∧ limit.Allows event.level := by
  obtain ⟨d, read, rfl, concerns⟩ := sets.exists_directive
  refine ⟨d, ?_, ?_, ?_, fun event => by rw [admits_single, concerns]⟩
  all_goals simp [ofText, ofText?, complaints, pieces_of_sets sets, read, Except.toOption]

/-- The limit that is in force, and for what part of the program: the one of the command line if there is one, else
the one of the environment, and without either the default for all of it. -/
inductive InForce : Option Text → Option Text → Text → Limit → Prop
  | given {t path : Text} {environment : Option Text} {limit : Limit} : Sets t path limit →
      InForce (some t) environment path limit
  | environment {t path : Text} {limit : Limit} : Sets t path limit → InForce none (some t) path limit
  | default : InForce none none [] (some .warn)

namespace InForce

/-- The filter that is chosen lets through what the limit in force allows of its part of the program. -/
theorem admits_iff (inForce : InForce given environment path limit) (event : Event) :
    (choose given environment).Admits event ↔ path <+: event.source ∧ limit.Allows event.level := by
  cases inForce with
  | given sets =>
    obtain ⟨d, filter, _, _, admits⟩ := exists_ofText sets
    rw [choose, filter, admits]
  | environment sets =>
    obtain ⟨d, _, filter, _, admits⟩ := exists_ofText sets
    rw [choose, Option.bind_some, filter, Option.getD_some, admits]
  | default =>
    change Admits Filter.default event ↔ _
    simp [Filter.default, admits_single, Directive.Concerns]

/-- Nothing is told of a limit that is in force. -/
theorem complaints_eq_nil (inForce : InForce given environment path limit) : given.elim [] complaints = [] := by
  cases inForce with
  | given sets =>
    obtain ⟨_, _, _, understood, _⟩ := exists_ofText sets
    exact understood
  | environment | default => rfl

end InForce

end Filter

end Calculator
