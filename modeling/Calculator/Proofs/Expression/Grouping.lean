import Calculator.Proofs.Calculation
import Calculator.Proofs.Expression.Retyping

namespace Calculator

theorem Operand.ofText_text {o : Operand} (written : o.reopened = .typed o.text) (nonempty : o.text ≠ []) :
    ofText o.text = o.reopened := by
  rw [ofText, if_neg nonempty, written]

namespace Chain

variable {α : Type}

def items : Chain α → List α
  | single x => [x]
  | link before _ x => before.items ++ [x]

/-- One chain after another, with an operator between them. -/
def append (c : Chain α) (op : Operator) : Chain α → Chain α
  | single x => c.link op x
  | link before inner x => (c.append op before).link inner x

/-- The items as operands of their operators, each of which takes everything before it as its left side. -/
def leftward (f : α → Expression) : Chain α → Expression
  | single x => f x
  | link before op x => .node op (before.leftward f) (f x)

/-- The texts and the signs between them, in turn. -/
def tokens : Chain Text → List Text
  | single t => [t]
  | link before op t => before.tokens ++ [[op.symbol], t]

def line : Chain Text → Text
  | single t => t
  | link before op t => before.line ++ [' ', op.symbol, ' '] ++ t

/-- A chain with what tokens still add to it: a sign and a text each time. -/
def extend? (c : Chain Text) : List Text → Option (Chain Text)
  | [] => some c
  | [sign] :: t :: rest => (Operator.ofChar? sign).bind fun op => (c.link op t).extend? rest
  | _ => none

/-- The chain that tokens write. -/
def ofTokens? : List Text → Option (Chain Text)
  | [] => none
  | t :: rest => (single t).extend? rest

/-- The tokens of a chain are read as that chain, and what comes after them is added to it. -/
theorem ofTokens?_append (c : Chain Text) (rest : List Text) : ofTokens? (c.tokens ++ rest) = c.extend? rest := by
  induction c generalizing rest with
  | single t => rfl
  | link before op t ih =>
    rw [tokens, List.append_assoc, ih]
    simp only [List.cons_append, List.nil_append, extend?, Operator.ofChar?_symbol, Option.bind_some]

theorem ofTokens?_tokens (c : Chain Text) : ofTokens? c.tokens = some c := by
  have whole := ofTokens?_append c []
  rwa [List.append_nil] at whole

/-- Where no text has a space in it, the spaces of a line separate its texts and signs. -/
theorem parts_line {c : Chain Text} (spaceless : ∀ t ∈ c.items, ' ' ∉ t) : Text.parts ' ' c.line = c.tokens := by
  induction c with
  | single t => exact Text.parts_of_notMem (spaceless t (by simp [items]))
  | link before op t ih =>
    have front : Text.parts ' ' before.line = before.tokens :=
      ih fun s member => spaceless s (List.mem_append_left _ member)
    have sign : Text.parts ' ' [op.symbol] = [[op.symbol]] := by cases op <;> rfl
    have last : Text.parts ' ' t = [t] := Text.parts_of_notMem (spaceless t (by simp [items]))
    calc Text.parts ' ' (link before op t).line
      _ = Text.parts ' ' (before.line ++ ' ' :: ([op.symbol] ++ ' ' :: t)) := by simp [line]
      _ = before.tokens ++ ([[op.symbol]] ++ [t]) := by
          rw [Text.parts_append, Text.parts_append, front, sign, last]

theorem last_append (c : Chain α) (op : Operator) (d : Chain α) : (c.append op d).last = d.last := by
  cases d <;> rfl

/-- The line of two chains shows one after the other, with the operator between them. -/
theorem line_append (c : Chain Text) (op : Operator) (d : Chain Text) :
    (c.append op d).line = c.line ++ [' ', op.symbol, ' '] ++ d.line := by
  induction d with
  | single t => rfl
  | link before inner t ih => simp only [append, line, ih, List.append_assoc]

/-- To take everything before an operator as its left side is to compute from left to right. -/
theorem value_leftward (f : α → Expression) (c : Chain α) :
    (c.leftward f).value = (c.map fun x => (f x).value).compute := by
  induction c with
  | single => rfl
  | link before op x ih =>
    rw [leftward, Expression.value, ih]
    rfl

end Chain

namespace Calculation

/-- What operands joined by operators mean as they are commonly read: products and quotients first, and operators of
one precedence from left to right. -/
def grouped (c : Calculation) : Expression := c.terms.leftward (Chain.leftward .leaf)

/-- The calculation that a line shows, in parts between spaces. -/
def ofLine? (t : Text) : Option Calculation :=
  (Chain.ofTokens? (Text.parts ' ' t)).map (Chain.map Operand.ofText)

/-- To group the operands and to compute them term by term come to the same. -/
theorem value_grouped (c : Calculation) : c.grouped.value = c.value := by
  have term (t : Chain Operand) : (t.leftward .leaf).value = product t := t.value_leftward .leaf
  rw [grouped, Chain.value_leftward, value, total]
  exact congrArg (fun f => (c.terms.map f).compute) (funext term)

/-- Two operands stand on the two sides of their operator, whichever it is. -/
theorem grouped_link (l r : Operand) (op : Operator) :
    grouped (.link (.single l) op r) = .node op (.leaf l) (.leaf r) := by
  by_cases tight : op.Tight
  · rw [grouped, Chain.terms_link_of_tight tight]
    rfl
  · rw [grouped, Chain.terms_link_of_loose tight]
    rfl

/-- A product after a sum takes the last operand of that sum. -/
theorem grouped_nested {op inner : Operator} (loose : ¬op.Tight) (tight : inner.Tight) (l m r : Operand) :
    grouped (.link (.link (.single l) op m) inner r) = .node op (.leaf l) (.node inner (.leaf m) (.leaf r)) := by
  rw [grouped, Chain.terms_link_of_tight tight, Chain.terms_link_of_loose loose]
  rfl

end Calculation

theorem Partial.ne_nil {t : Text} (part : Partial t) : t ≠ [] := by
  cases part with
  | begun begun => exact begun.ne_nil
  | bare => exact List.cons_ne_nil _ _

theorem Partial.no_space {t : Text} (part : Partial t) : ' ' ∉ t := part.not_mem rfl (by decide)

theorem Canonical.no_space {t : Text} (canonical : Canonical t) : ' ' ∉ t := by
  cases canonical with
  | plain plain => exact (Partial.begun plain.begun).no_space
  | minus plain _ => simpa using (Partial.begun plain.begun).no_space

/-- No numeral that is typed looks like an operator. -/
theorem Partial.ne_sign {t : Text} (part : Partial t) (op : Operator) : t ≠ [op.symbol] := by
  rintro rfl
  have typeable := part.char (List.mem_singleton_self op.symbol)
  cases op <;> revert typeable <;> decide

/-- No value is shown as an operator. -/
theorem Canonical.ne_sign {t : Text} (canonical : Canonical t) (op : Operator) : t ≠ [op.symbol] := by
  cases canonical with
  | plain plain => exact (Partial.begun plain.begun).ne_sign op
  | minus plain _ => simp [plain.begun.ne_nil]

namespace Expression

/-- The texts of the operands from left to right, with the operators between them and no grouping. -/
def texts : Expression → Chain Text
  | leaf o => .single o.text
  | node op left right => left.texts.append op right.texts

/-- The line of an expression shows its texts in turn. -/
theorem line_texts (e : Expression) : e.texts.line = e.line := by
  induction e with
  | leaf => rfl
  | node op left right left_ih right_ih => rw [texts, Chain.line_append, left_ih, right_ih, ← line]

theorem last_texts (e : Expression) : e.texts.last = e.rightmost.text := by
  induction e with
  | leaf => rfl
  | node op left right _ ih => rw [texts, Chain.last_append, ih, rightmost]

namespace Places

variable {op : Operator} {o : Operand}

/-- The text of a first operand is read as that operand, opened again. -/
theorem ofText_of_first (first : written.first op o) : Operand.ofText o.text = o.reopened := by
  obtain ⟨typed, begun | ⟨v, _, shown⟩⟩ := first_text first
  · exact Operand.ofText_text typed begun.ne_nil
  · exact Operand.ofText_text typed (shown ▸ v.shown_ne_nil)

/-- The text of a last operand is read as that operand. -/
theorem ofText_of_last (last : written.last o) : Operand.ofText o.text = o := by
  rcases last with rfl | ⟨t, rfl, part⟩
  · rfl
  · exact Operand.ofText_text rfl part.ne_nil

theorem numeral_of_first (first : written.first op o) : Partial o.text ∨ Canonical o.text := by
  rcases first with ⟨t, rfl, begun⟩ | ⟨v, rfl | rfl⟩
  · exact Or.inl (.begun begun)
  · exact Or.inr v.shown_canonical
  · exact Or.inr v.shown_canonical

end Places

namespace Written

variable {e : Expression}

/-- The texts of a written expression, read as operands and grouped, are that expression opened again. -/
theorem grouped_texts (written : Written e) : Calculation.grouped (e.texts.map Operand.ofText) = e.reopened := by
  cases written with
  | @alone o alone =>
    have first : Places.written.first .plus o := Places.written_kept.first_of_alone alone
    exact congrArg leaf (Places.ofText_of_first first)
  | @pair op l r first last =>
    refine (Calculation.grouped_link (.ofText l.text) (.ofText r.text) op).trans ?_
    rw [Places.ofText_of_first first, Places.ofText_of_last last]
    rfl
  | @nested op inner l m r loose tight first factor last =>
    refine (Calculation.grouped_nested loose tight (.ofText l.text) (.ofText m.text) (.ofText r.text)).trans ?_
    rw [Places.ofText_of_first first, Places.ofText_of_last (Places.last_of_factor factor),
      Places.ofText_of_last last]
    rfl

/-- Only the last text can be missing. -/
theorem items_texts (written : Written e) :
    ∃ front, e.texts.items = front ++ [e.rightmost.text] ∧ (∀ t ∈ front, Partial t ∨ Canonical t) ∧
      (e.rightmost.text = [] ∨ Partial e.rightmost.text ∨ Canonical e.rightmost.text) := by
  have missing_or_partial {o : Operand} (last : Places.written.last o) :
      o.text = [] ∨ Partial o.text ∨ Canonical o.text := by
    rcases last with rfl | ⟨t, rfl, part⟩
    · exact Or.inl rfl
    · exact Or.inr (Or.inl part)
  cases written with
  | @alone o alone =>
    have first : Places.written.first .plus o := Places.written_kept.first_of_alone alone
    exact ⟨[], rfl, by simp, Or.inr (Places.numeral_of_first first)⟩
  | @pair op l r first last =>
    refine ⟨[l.text], rfl, ?_, missing_or_partial last⟩
    exact List.forall_mem_singleton.mpr (Places.numeral_of_first first)
  | @nested op inner l m r _ _ first factor last =>
    obtain ⟨v, _, rfl⟩ := factor
    refine ⟨[l.text, v.shown], rfl, ?_, missing_or_partial last⟩
    exact List.forall_mem_cons.mpr
      ⟨Places.numeral_of_first first, List.forall_mem_singleton.mpr (Or.inr v.shown_canonical)⟩

theorem numeral_of_item (written : Written e) {t : Text} (member : t ∈ e.texts.items) :
    t = [] ∨ Partial t ∨ Canonical t := by
  obtain ⟨front, items, numerals, last⟩ := written.items_texts
  rw [items] at member
  rcases List.mem_append.mp member with early | late
  · exact Or.inr (numerals t early)
  · exact List.mem_singleton.mp late ▸ last

/-- No text of a written expression has a space in it. -/
theorem item_spaceless (written : Written e) {t : Text} (member : t ∈ e.texts.items) : ' ' ∉ t := by
  rcases written.numeral_of_item member with rfl | part | canonical
  · exact List.not_mem_nil
  · exact part.no_space
  · exact canonical.no_space

theorem item_ne_sign (written : Written e) {t : Text} (member : t ∈ e.texts.items) (op : Operator) :
    t ≠ [op.symbol] := by
  rcases written.numeral_of_item member with rfl | part | canonical
  · exact (List.cons_ne_nil _ _).symm
  · exact part.ne_sign op
  · exact canonical.ne_sign op

theorem parts_line (written : Written e) : Text.parts ' ' e.line = e.texts.tokens := by
  rw [← e.line_texts]
  exact Chain.parts_line fun t member => written.item_spaceless member

/-- The line of a written expression is read as its operands in turn. -/
theorem ofLine?_line (written : Written e) : Calculation.ofLine? e.line = some (e.texts.map Operand.ofText) := by
  rw [Calculation.ofLine?, written.parts_line, Chain.ofTokens?_tokens, Option.map_some]

theorem front_ne_nil (written : Written e) {t : Text} (member : t ∈ e.texts.items.dropLast) : t ≠ [] := by
  obtain ⟨front, items, numerals, _⟩ := written.items_texts
  rw [items, List.dropLast_concat] at member
  rcases numerals t member with part | canonical
  · exact part.ne_nil
  · exact canonical.ne_nil

/-- Two lines are the same only if the operators and the texts are, and how they are grouped. -/
theorem reopened_of_line {f : Expression} (written : Written e) (other : Written f) (same : e.line = f.line) :
    e.reopened = f.reopened := by
  have calculation := written.ofLine?_line
  rw [same, other.ofLine?_line, Option.some.injEq] at calculation
  rw [← written.grouped_texts, ← other.grouped_texts, calculation]

end Written

theorem line_reopened (e : Expression) : e.reopened.line = e.line := by
  induction e with
  | leaf o => exact o.text_reopened
  | node op left right ih _ => rw [reopened, line, ih, ← line]

/-- The line of an expression needs no parentheses. Its parts between spaces are operands and signs in turn; read as
they are commonly read they give the expression back, but for whether its first operand is a final result, and they
have its value. So expressions with one line differ in nothing else. -/
theorem line_reads_back (keys : List Key) :
    (Text.parts ' ' (start.run keys).line = (start.run keys).texts.tokens ∧
      (∀ t ∈ (start.run keys).texts.items, ' ' ∉ t ∧ ∀ op : Operator, t ≠ [op.symbol]) ∧
      (∀ t ∈ (start.run keys).texts.items.dropLast, t ≠ []) ∧
      ((start.run keys).texts.last = [] ↔ (start.run keys).Awaiting)) ∧
    (∃ c, Calculation.ofLine? (start.run keys).line = some c ∧ c.grouped = (start.run keys).reopened ∧
      c.value = (start.run keys).value) ∧
    ∀ others : List Key, (start.run keys).line = (start.run others).line ↔
      (start.run keys).reopened = (start.run others).reopened := by
  have written := start_written.run keys
  have shaped := start_shaped.run keys
  refine ⟨⟨written.parts_line, ?_, fun t member => written.front_ne_nil member, ?_⟩, ?_, ?_⟩
  · exact fun t member => ⟨written.item_spaceless member, written.item_ne_sign member⟩
  · rw [last_texts]
    exact shaped.awaiting_iff.symm
  · refine ⟨_, written.ofLine?_line, written.grouped_texts, ?_⟩
    rw [← Calculation.value_grouped, written.grouped_texts, value_reopened]
  · intro others
    refine ⟨written.reopened_of_line (start_written.run others), ?_⟩
    intro same
    rw [← (start.run keys).line_reopened, same, line_reopened]

/-- A sum on the left of a product is shown like the sum that the product belongs to. -/
example : (node .times (node .plus (leaf (.typed ['1'])) (leaf (.typed ['2']))) (leaf (.typed ['3']))).line =
    (node .plus (leaf (.typed ['1'])) (node .times (leaf (.typed ['2'])) (leaf (.typed ['3'])))).line := rfl

end Expression

end Calculator
