import Calculator.Text
import Calculator.Text.Alphanumeric

namespace Calculator

/-- Why a text is no pattern. -/
inductive PatternFault where
  /-- It is not put together as a pattern is, or it needs to know more of letters than their numbers. -/
  | malformed
  /-- It asks for the edge of a word, which depends on more of a value than is looked at. -/
  | wordEdge
deriving DecidableEq

/-- What the user is told about a text that is no pattern. -/
def PatternFault.message : PatternFault → Text
  | malformed => "error building NFA".toList
  | wordEdge =>
    ("unsupported regex feature for DFAs: cannot build DFAs for regexes with Unicode word boundaries; switch " ++
      "to ASCII word boundaries, or heuristically enable Unicode word boundaries or use a different regex " ++
      "engine").toList

namespace Pattern

/-- How a part of a pattern is read. -/
structure Mode where
  /-- Whether a letter stands for itself in either case. -/
  caseless : Bool
  /-- Whether the letters of all scripts are meant, and not ASCII letters only. -/
  unicode : Bool
  /-- Whether there may be blanks and remarks between the symbols. -/
  spaced : Bool
deriving DecidableEq

namespace Mode

/-- The mode that flags lead to. Those after a hyphen are taken away. -/
def withFlags (m : Mode) (flags : Text) : Mode :=
  let state (flag : Char) (before : Bool) : Bool :=
    if flag ∈ flags.takeWhile (· ≠ '-') then true else if flag ∈ flags then false else before
  ⟨state 'i' m.caseless, state 'u' m.unicode, state 'x' m.spaced⟩

/-- Whether a character can stand for itself: which letters differ in case only is known for ASCII alone. -/
def Admits (m : Mode) : Prop := ¬(m.caseless ∧ m.unicode)

/-- Whether a character can stand for itself in a class, which with ASCII letters holds ASCII characters only. -/
def AdmitsMember (m : Mode) (c : Char) : Prop := m.Admits ∧ (m.unicode ∨ c.toNat < 128)

instance (m : Mode) : Decidable m.Admits := inferInstanceAs (Decidable (¬_))
instance (m : Mode) (c : Char) : Decidable (m.AdmitsMember c) := inferInstanceAs (Decidable (_ ∧ _))

end Mode

/-- How many layers the items of a group, or the members of a class, consist of. A single symbol has none. Groups,
classes and repetitions are layers, and so are items in a row and what bars or operators join. -/
structure Layers where
  /-- The most layers of an item before the last, in the row that the last one ends. -/
  earlier : Option Nat
  /-- The layers of the last item. -/
  latest : Option Nat
  /-- The layers of what stands before the last bar or operator. -/
  side : Option Nat
deriving DecidableEq

namespace Layers

/-- No item yet. -/
def empty : Layers := ⟨none, none, none⟩

/-- The most layers that a pattern may have. -/
def most : Nat := 250

/-- The layers of the row of items since the last bar or operator. A lone item is no row. -/
def row (l : Layers) : Nat :=
  match l.earlier, l.latest with
  | some m, some n => max m n + 1
  | _, latest => latest.getD 0

/-- The layers of all items together. -/
def total (l : Layers) : Nat :=
  match l.side with
  | none => l.row
  | some n => max n l.row + 1

/-- One more item of some layers. -/
def add (l : Layers) (n : Nat) : Layers :=
  { l with earlier := l.latest.map fun m => max m (l.earlier.getD 0), latest := some n }

/-- The last item repeated. -/
def repeated (l : Layers) : Layers := { l with latest := l.latest.map (· + 1) }

/-- A bar after the items. All the rows between bars are joined at once. -/
def bar (l : Layers) : Layers := ⟨none, none, some (max l.row (l.side.getD 0))⟩

/-- An operator after the items. It joins to the next row all that stands before it. -/
def operator (l : Layers) : Layers := ⟨none, none, some l.total⟩

end Layers

/-- A character of a pattern, or several that a backslash joins into one. -/
inductive Symbol where
  /-- A character with no backslash before it. -/
  | plain (c : Char)
  /-- A character that stands for itself. -/
  | literal (c : Char)
  /-- Any character of some class. -/
  | kind
  /-- The start or the end of the value. -/
  | anchor
  /-- The edge of a word, or anywhere but there. -/
  | wordEdge
deriving DecidableEq

/-- What has been passed over since a hyphen in a class. -/
inductive Gap where
  | nothing
  | blanks
  /-- Blanks, and the sign that begins a remark. -/
  | remark
deriving DecidableEq

/-- Where in a pattern the next symbol comes. -/
inductive Place where
  /-- Among the items of a group: whether the last of them may be repeated. -/
  | item (repeatable : Bool)
  /-- Right after the sign of a repetition, where a question mark belongs to that sign. -/
  | repetition
  /-- Right after the parenthesis that opens a group. -/
  | group
  /-- After the question mark there. -/
  | groupKind
  /-- After the letter that announces a name. -/
  | groupLabel
  /-- In the name of a group, the last character first. -/
  | groupName (name : Text)
  /-- Among the flags of a group, the last flag first. -/
  | flag (given : Text)
  /-- Right after the bracket that opens a class: whether it may still be negated. -/
  | classStart (fresh : Bool)
  /-- After the hyphens that a class starts with. -/
  | hyphens
  /-- Among the members of a class. -/
  | member
  /-- After a character that is a member, or half of an operator. -/
  | operator (c : Char)
  /-- After a member that a range may start with, if it is a single character. -/
  | first (c : Option Char)
  /-- After the hyphen that follows such a member, and after a gap. -/
  | hyphen (c : Option Char) (gap : Gap)
  /-- Where only the last of a range can come. -/
  | last (c : Option Char)
deriving DecidableEq

/-- What has been read of a symbol that a backslash begins. -/
inductive Pending where
  | nothing
  | backslash
  /-- Some digits of the number of a character: how many are left of how many, and their value so far. -/
  | number (left count value : Nat)
deriving DecidableEq

/-- The names of the ASCII classes that have one. It stands between colons, in brackets inside a class. -/
def classNames : List Text :=
  ["alnum".toList, "alpha".toList, "ascii".toList, "blank".toList, "cntrl".toList, "digit".toList, "graph".toList,
    "lower".toList, "print".toList, "punct".toList, "space".toList, "upper".toList, "word".toList, "xdigit".toList]

/-- What is known of a pattern after some of its characters. -/
structure Reading where
  place : Place
  pending : Pending
  /-- Whether the last character belongs to a remark. -/
  remark : Bool
  mode : Mode
  /-- The layers of the innermost group that is still open. -/
  layers : Layers
  /-- The modes and layers around the groups that are still open, from the inside. -/
  groups : List (Mode × Layers)
  /-- The layers of the classes that are still open, from the inside. -/
  classes : List Layers
  /-- The characters since the bracket that opened a class inside another, the last first. -/
  inner : Text
  /-- The names of groups. -/
  names : List Text
  /-- Whether the pattern asks for the edge of a word. -/
  wordEdge : Bool

namespace Reading

/-- The reading before the first character. -/
def start : Reading := ⟨.item false, .nothing, false, ⟨false, true, false⟩, .empty, [], [], [], [], false⟩

/-- The reading at another place. -/
def go (r : Reading) (place : Place) : Reading := { r with place }

/-- The reading at another place, if a condition is met. -/
def goIf (r : Reading) (p : Prop) [Decidable p] (place : Place) : Option Reading :=
  if p then some (r.go place) else none

/-- The reading after an item of some layers. -/
def withItem (r : Reading) (n : Nat) : Reading := { r with place := .item true, layers := r.layers.add n }

/-- The reading after an item that is a single symbol, if a condition is met. -/
def itemIf (r : Reading) (p : Prop) [Decidable p] : Option Reading := if p then some (r.withItem 0) else none

/-- An item of a group, or what opens, closes, repeats or divides. -/
def item (r : Reading) (repeatable : Bool) : Symbol → Option Reading
  | .plain '(' => some { r with place := .group, layers := .empty, groups := (r.mode, r.layers) :: r.groups }
  | .plain ')' =>
    match r.groups with
    | [] => none
    | (mode, around) :: groups => some ({ r with mode, groups, layers := around }.withItem (r.layers.total + 1))
  | .plain '[' => some { r with place := .classStart true, classes := [.empty] }
  | .plain '|' => some { r with place := .item false, layers := r.layers.bar }
  | .plain '.' => r.itemIf (r.mode.unicode = true)
  | .plain c =>
    if c ∈ ['^', '$'] then some (r.withItem 0)
    else if c ∈ ['*', '+', '?'] then { r with layers := r.layers.repeated }.goIf (repeatable = true) .repetition
    else r.itemIf (c ≠ '\x7b' ∧ r.mode.Admits)
  | .literal _ => r.itemIf r.mode.Admits
  | .kind | .anchor => some (r.withItem 0)
  | .wordEdge => some ({ r with wordEdge := r.wordEdge ∨ r.mode.unicode }.withItem 0)

/-- What follows the question mark of a group: a name, or flags. -/
def groupKind (r : Reading) (c : Char) : Option Reading :=
  if c = 'P' then some (r.go .groupLabel)
  else if c = '<' then some (r.go (.groupName []))
  else if c = ':' then some (r.go (.item false))
  else r.goIf (c ∈ "imsUuRx-".toList) (.flag [c])

/-- A character in the name of a group. The name is not empty, does not start with a digit and is given once. -/
def groupName (r : Reading) (name : Text) (c : Char) : Option Reading :=
  if c = '>' then
    if name = [] ∨ name ∈ r.names then none
    else some { r with place := .item false, names := name :: r.names }
  else
    let fits := if name = [] then isAlphanumeric c ∧ ¬c.isDigit else isAlphanumeric c ∨ c ∈ ['.', '[', ']']
    r.goIf (c = '_' ∨ fits) (.groupName (c :: name))

/-- A character among the flags of a group, none of which is given twice, nor the hyphen last. Flags that no colon
ends are for the rest of the group around them. They are an item of it, which cannot be repeated. -/
def flag (r : Reading) (given : Text) (c : Char) : Option Reading :=
  let changed := { r with place := .item false, mode := r.mode.withFlags given.reverse }
  if c = ':' ∨ c = ')' then
    if given.head? = some '-' then none
    else if c = ':' then some changed
    else
      match r.groups with
      | [] => none
      | (_, around) :: groups => some { changed with layers := around.add 0, groups }
  else r.goIf (c ∈ "imsUuRx-".toList ∧ c ∉ given) (.flag (c :: given))

/-- The reading after a member of the innermost class that is a single symbol or a range. -/
def withMember (r : Reading) : Reading := { r with classes := r.classes.modifyHead (·.add 0) }

/-- The reading after an operator in the innermost class. -/
def withOperator (r : Reading) : Reading :=
  { r with place := .member, classes := r.classes.modifyHead Layers.operator }

/-- The reading after the bracket that closes a class. Inside another, a class of the right text is a named one,
which counts as a single symbol. With ASCII letters, all but a named one is refused, for it has members that are no
characters. -/
def closeClass (r : Reading) : Option Reading :=
  match r.classes with
  | [] => none
  | [members] => some ({ r with classes := [] }.withItem (members.total + 1))
  | members :: around :: classes =>
    let text := r.inner.reverse
    let named := ∃ name ∈ classNames, text = "[:".toList ++ name ++ [':']
    let excludesNamed := ∃ name ∈ classNames, text = "[:^".toList ++ name ++ [':']
    if ¬r.mode.unicode ∧ excludesNamed then none
    else
      let added := if named ∨ excludesNamed then 0 else members.total + 1
      some { r with place := .member, classes := around.add added :: classes }

/-- A member of a class that is a single character. -/
def single (r : Reading) (c : Char) : Option Reading := r.withMember.goIf (r.mode.AdmitsMember c) (.first (some c))

/-- A member of a class, or what opens or closes a class. -/
def member (r : Reading) : Symbol → Option Reading
  | .plain '[' => some { r with place := .classStart true, classes := .empty :: r.classes, inner := [] }
  | .plain ']' => r.closeClass
  | .plain c => if c ∈ ['&', '-', '~'] then some (r.go (.operator c)) else r.single c
  | .literal c => r.single c
  | .kind => some (r.withMember.go (.first none))
  | .anchor | .wordEdge => none

/-- What comes first in a class: what negates it, and hyphens or a closing bracket that are members. -/
def classStart (r : Reading) (fresh : Bool) : Symbol → Option Reading
  | .plain '^' => if fresh then r.goIf (r.mode.unicode = true) (.classStart false) else r.single '^'
  | .plain '-' => r.withMember.goIf r.mode.Admits .hyphens
  | .plain ']' => r.withMember.goIf r.mode.Admits .member
  | s => r.member s

/-- What follows a member that a range may start with. -/
def afterFirst (r : Reading) (c : Option Char) (s : Symbol) : Option Reading :=
  if s = .plain '-' then some (r.go (.hyphen c .nothing)) else r.member s

/-- The last of a range, which does not come before the first. -/
def afterRange (r : Reading) (first : Option Char) : Symbol → Option Reading
  | .plain c | .literal c => r.goIf (r.mode.AdmitsMember c ∧ first.any (· ≤ c)) .member
  | _ => none

/-- What follows the hyphen after a member. Two hyphens side by side are an operator. Before the end of the class,
or before another hyphen after a gap, a hyphen is a member. Before all else a range is meant. -/
def afterHyphen (r : Reading) (first : Option Char) (gap : Gap) (s : Symbol) : Option Reading :=
  if s = .plain '-' ∧ gap = .nothing then some r.withOperator
  else if s = .plain '-' ∨ s = .plain ']' then r.withMember.afterFirst (some '-') s
  else r.afterRange first s

/-- The reading after one more symbol, if that may come where it does. -/
def step (r : Reading) (s : Symbol) : Option Reading :=
  match r.place, s with
  | .item repeatable, s => r.item repeatable s
  | .repetition, .plain '?' => some (r.go (.item true))
  | .repetition, s => r.item true s
  | .group, .plain '?' => some (r.go .groupKind)
  | .group, s => r.item false s
  | .groupKind, .plain c => r.groupKind c
  | .groupLabel, .plain '<' => some (r.go (.groupName []))
  | .groupName name, .plain c => r.groupName name c
  | .flag given, .plain c => r.flag given c
  | .classStart fresh, s => r.classStart fresh s
  | .hyphens, .plain '-' => some r.withMember
  | .hyphens, s => r.member s
  | .member, s => r.member s
  | .operator c, s =>
    if s = .plain c then some r.withOperator else (r.single c).bind fun r => r.afterFirst (some c) s
  | .first c, s => r.afterFirst c s
  | .hyphen c gap, s => r.afterHyphen c gap s
  | .last c, s => r.afterRange c s
  | _, _ => none

/-- What a backslash makes of the character after it: a number begins, or the character is a symbol. Which
letters there are is known for ASCII alone. -/
def escape (r : Reading) (c : Char) : Option Reading :=
  let number (count : Nat) : Option Reading := some { r with pending := .number count count 0 }
  match c with
  | 'x' => number 2
  | 'u' => number 4
  | 'U' => number 8
  | 'd' | 's' | 'w' => if r.mode.unicode then none else r.step .kind
  | 'A' | 'z' => r.step .anchor
  | 'b' | 'B' | '<' | '>' => r.step .wordEdge
  | 'a' => r.step (.literal '\x07')
  | 'f' => r.step (.literal '\x0c')
  | 't' => r.step (.literal '\t')
  | 'n' => r.step (.literal '\n')
  | 'r' => r.step (.literal '\r')
  | 'v' => r.step (.literal '\x0b')
  | c => if c.toNat < 128 ∧ ¬c.isAlphanum then r.step (.literal c) else none

/-- A digit in the number of a character. With ASCII letters, two digits write a byte that is a character. -/
def digit (r : Reading) (left count value : Nat) (c : Char) : Option Reading :=
  let value := 16 * value + (if c.isDigit then c.toNat - '0'.toNat else c.toLower.toNat - 'a'.toNat + 10)
  if ¬(c.isDigit ∨ c.toLower ∈ "abcdef".toList) then none
  else if 1 < left then some { r with pending := .number (left - 1) count value }
  else if value.isValidChar ∧ (r.mode.unicode ∨ count ≠ 2 ∨ value < 128) then
    r.step (.literal (Char.ofNat value))
  else none

/-- Whether blanks and remarks are passed over. They are not among the flags or in the name of a group. -/
def passesBlanks (r : Reading) : Bool :=
  match r.place with
  | .groupKind | .groupLabel | .groupName _ | .flag _ => false
  | _ => r.mode.spaced

/-- The reading after a blank or the sign that begins a remark. Neither operators nor the signs of repetitions have
a blank inside. After a hyphen, a second remark settles that a range is meant. -/
def pass (r : Reading) (c : Char) : Option Reading :=
  let r := { r with remark := c = '#' }
  match r.place with
  | .repetition => some (r.go (.item true))
  | .operator c => r.single c
  | .hyphen first .remark => some (if c = '#' then r.go (.last first) else r)
  | .hyphen first _ => some (r.go (.hyphen first (if c = '#' then .remark else .blanks)))
  | _ => some r

/-- The reading after a character of a remark, which goes on to the end of its line. What a hyphen before the remark
means is settled by the first character after the sign of it that is not blank, and so perhaps by the remark. -/
def passRemark (r : Reading) (c : Char) : Reading :=
  let r := { r with remark := c ≠ '\n' }
  match r.place with
  | .hyphen first _ =>
    if isBlank c then r
    else if c = ']' ∨ c = '-' then r.withMember.go (.first (some '-'))
    else r.go (.last first)
  | _ => r

/-- The reading after a backslash. After a hyphen, it settles that a range is meant. -/
def backslash (r : Reading) : Reading :=
  let place := match r.place with
    | .hyphen first _ => .last first
    | place => place
  { r with pending := .backslash, place }

/-- The reading after one more character of a symbol, a remark or what is passed over, if that may come where it
does. -/
def advance (r : Reading) (c : Char) : Option Reading :=
  if r.remark then some (r.passRemark c)
  else
    match r.pending with
    | .backslash => { r with pending := .nothing }.escape c
    | pending =>
      if r.passesBlanks ∧ (isBlank c ∨ c = '#') then r.pass c
      else
        match pending with
        | .number left count value => { r with pending := .nothing }.digit left count value c
        | _ => if c = '\\' then some r.backslash else r.step (.plain c)

/-- The reading after one more character, with that character kept. -/
def next (r : Reading) (c : Char) : Option Reading :=
  (r.advance c).map fun after => { after with inner := c :: after.inner }

/-- Whether a pattern may end here: nothing is left open, and there are not too many layers. -/
def Complete (r : Reading) : Prop :=
  r.place ∈ [.item true, .item false, .repetition] ∧ r.pending = .nothing ∧ r.groups = [] ∧
    r.layers.total ≤ Layers.most

instance (r : Reading) : Decidable r.Complete := inferInstanceAs (Decidable (_ ∧ _))

end Reading

/-- What is wrong with a pattern, if anything is. The edge of a word is noticed last. -/
def fault? (t : Text) : Option PatternFault :=
  match t.foldlM Reading.next .start with
  | none => some .malformed
  | some r => if ¬r.Complete then some .malformed else if r.wordEdge then some .wordEdge else none

end Pattern

end Calculator
