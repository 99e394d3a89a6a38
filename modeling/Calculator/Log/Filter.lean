import Calculator.Log.Directive

namespace Calculator

/-- Which events reach the log: the limits that directives set, in the order in which they are given. -/
structure Filter where
  directives : List Directive
deriving DecidableEq

namespace Filter

/-- The filter when none is given. -/
def default : Filter := ⟨[⟨none, none, none, some .warn⟩]⟩

/-- The directives in a text, which commas divide. Between two commas there may be none. -/
def pieces (t : Text) : List Text := (t.parts ',').filter (· ≠ [])

/-- The directives of a text that are understood. -/
def ofText (t : Text) : Filter := ⟨(pieces t).filterMap fun piece => (Directive.read piece).toOption⟩

/-- The lines that tell which directives of a text are not understood, and why. -/
def complaints (t : Text) : List Text :=
  (pieces t).flatMap fun piece =>
    match Directive.read piece with
    | .ok _ => []
    | .error fault => Text.parts '\n' ("ignoring `".toList ++ piece ++ "`: ".toList ++ fault.message)

/-- The filter of a text in which every directive is understood. -/
def ofText? (t : Text) : Option Filter :=
  ((pieces t).mapM fun piece => (Directive.read piece).toOption).map Filter.mk

/-- The filter of the command line if there is one, as far as it is understood. Else the filter of the
environment, if all of it is understood, and else the default. -/
def choose (given environment : Option Text) : Filter :=
  match given with
  | some t => ofText t
  | none => (environment.bind ofText?).getD default

/-- The directive that decides about an event: of those about it the narrowest, and of equally narrow ones the
last. -/
def decisive? (event : Event) : List Directive → Option Directive
  | [] => none
  | d :: rest =>
    match decisive? event rest with
    | none => if d.Concerns event then some d else none
    | some later => if d.Concerns event ∧ later.narrowness < d.narrowness then some d else some later

/-- Whether an event reaches the log. What no directive is about does not. -/
def Admits (filter : Filter) (event : Event) : Prop :=
  ∃ d ∈ decisive? event filter.directives, d.limit.Allows event.level

instance (filter : Filter) (event : Event) : Decidable (filter.Admits event) :=
  inferInstanceAs (Decidable (∃ d ∈ _, _))

/-- The events that reach the log, in order. -/
def select (filter : Filter) (events : List Event) : List Event :=
  events.filter fun event => filter.Admits event

end Filter

end Calculator
