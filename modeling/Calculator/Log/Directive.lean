import Calculator.Log.Event
import Calculator.Log.Pattern

namespace Calculator

/-- Why a directive is not understood. -/
inductive DirectiveFault where
  | malformed
  | unknownLimit
  | badField (fault : PatternFault)
deriving DecidableEq

/-- What the user is told about a directive that is not understood. -/
def DirectiveFault.message : DirectiveFault → Text
  | malformed => "invalid filter directive".toList
  | unknownLimit =>
    ("error parsing level filter: expected one of \"off\", \"error\", \"warn\", \"info\", \"debug\", \"trace\", " ++
      "or a number 0-5").toList
  | badField fault => "invalid field filter: ".toList ++ fault.message

/-- The detail that a directive asks for. -/
structure FieldTest where
  name : Text
  /-- What the detail is to be: a number, or a pattern for its text. -/
  value : Option Text
deriving DecidableEq

/-- A name, and after an equals sign a value. What a second equals sign brings is not looked at. -/
def FieldTest.read (t : Text) : Except PatternFault FieldTest :=
  let name := t.takeWhile (· ≠ '=')
  match t.dropWhile (· ≠ '=') with
  | [] => .ok ⟨name, none⟩
  | _ :: rest =>
    let value := rest.takeWhile (· ≠ '=')
    match Numeral.read? value, Pattern.fault? value with
    | none, some fault => .error fault
    | _, _ => .ok ⟨name, some value⟩

/-- A limit for some of the events. -/
structure Directive where
  /-- What the source of an event starts with. -/
  source : Option Text
  /-- The stretch of a run that an event lies in. -/
  span : Option Text
  /-- The detail that an event has. -/
  field : Option FieldTest
  limit : Limit
deriving DecidableEq

namespace Directive

/-- Where the reading of a directive has come to. What comes next is looked for in the directive without the
blanks around it, but the parts of it are cut at the same places, counted in bytes, out of the directive as it
was given: no part is what it seems to be where blanks come first. -/
structure Cursor where
  ahead : Text
  given : Text

namespace Cursor

/-- The beginning of a directive. -/
def start (t : Text) : Cursor := ⟨trimBlanks t, t⟩

/-- The part up to the first of some marks, that mark and what comes after it. -/
def cut? (marks : List Char) (c : Cursor) : Option (Text × Char × Cursor) :=
  let part := c.ahead.takeWhile (· ∉ marks)
  match c.ahead.dropWhile (· ∉ marks) with
  | [] => none
  | mark :: ahead =>
    let size := Text.byteCount part
    some (c.given.takeBytes size, mark, ⟨ahead, c.given.dropBytes (size + mark.utf8Size)⟩)

/-- The limit after an equals sign, or if there is nothing at all the widest one. -/
def limit (c : Cursor) : Except DirectiveFault Limit :=
  if c.given = [] then .ok (some .trace) else (Limit.read? c.given).elim (.error .unknownLimit) .ok

/-- The limit after a bracket: none is asked for at the end, and an equals sign announces one. -/
def limitAfterBracket (c : Cursor) : Except DirectiveFault Limit :=
  match c.ahead with
  | [] => .ok (some .trace)
  | '=' :: ahead => limit ⟨ahead, c.given.dropBytes 1⟩
  | _ => .error .malformed

end Cursor

/-- What stands in brackets and what comes after them: the name of a span, and in braces a detail. Of the two only
the name may be empty, and before a detail an empty name is none. -/
def readBrackets (source : Option Text) (c : Cursor) : Except DirectiveFault Directive :=
  match c.cut? [']', '\x7b'] with
  | none => .error .malformed
  | some (span, ']', c) => c.limitAfterBracket.map fun limit => ⟨source, some span, none, limit⟩
  | some (span, _, c) =>
    match c.cut? ['\x7d'] with
    | none => .error .malformed
    | some ([], _, _) => .error .malformed
    | some (field, _, c) =>
      match FieldTest.read field, c.ahead with
      | .error fault, _ => .error (.badField fault)
      | .ok field, ']' :: ahead =>
        (Cursor.limitAfterBracket ⟨ahead, c.given.dropBytes 1⟩).map fun limit =>
          ⟨source, if span = [] then none else some span, some field, limit⟩
      | .ok _, _ => .error .malformed

/-- Whether a directive may start with a character. -/
def isInitial (c : Char) : Bool := c = '[' ∨ isAlphanumeric c ∨ c ∈ [':', '-', '_']

/-- A limit alone is for all events. A source, brackets, or a source before brackets may have a limit after an
equals sign; without one, what they are about is let through in full. -/
def read (t : Text) : Except DirectiveFault Directive :=
  let c := Cursor.start t
  if c.ahead.head?.any isInitial then
    match c.cut? ['=', '['] with
    | none =>
      match Limit.read? t with
      | some limit => .ok ⟨none, none, none, limit⟩
      | none => .ok ⟨some t, none, none, some .trace⟩
    | some (source, '=', after) => after.limit.map fun limit => ⟨some source, none, none, limit⟩
    | some (source, _, after) => readBrackets (if c.ahead.head? = some '[' then none else some source) after
  else .error .malformed

/-- Whether a directive is about an event. Events lie in no span, and the values of details are compared for
spans only. -/
def Concerns (d : Directive) (event : Event) : Prop :=
  (∀ source ∈ d.source, source <+: event.source) ∧ d.span = none ∧
    ∀ field ∈ d.field, field.value = none ∧ field.name ∈ event.fieldNames

instance (d : Directive) (event : Event) : Decidable (d.Concerns event) :=
  inferInstanceAs (Decidable (_ ∧ _ ∧ _))

/-- How narrowly a directive is put, in the order of lists: first how long its source is, then whether it names
a detail, and last which. -/
def narrowness (d : Directive) : List Nat :=
  d.source.elim 0 (·.length + 1) :: d.field.elim [] fun field => field.name.map Char.toNat

end Directive

end Calculator
