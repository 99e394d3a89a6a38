import Calculator.Log.Event

namespace Calculator

/-- A key of a physical keyboard, as far as the calculator tells them apart. -/
inductive KeyboardKey where
  | enter
  | escape
  | delete
  | other
deriving DecidableEq

/-- What happens between two pictures of the window. -/
inductive Input where
  /-- Characters were typed. -/
  | text (t : Text)
  /-- A physical key went down or came up. -/
  | keyboard (key : KeyboardKey) (pressed : Bool)
  /-- A text was pasted. -/
  | paste (t : Text)
  /-- Anything else: the pointer moved, a wheel turned, the window came to the front. -/
  | other
deriving DecidableEq

/-- A frame as far as it has been read: the keys found in it, none of which is pressed yet, and the events of the
characters that are no keys. -/
structure Gathered where
  keys : List Key
  events : List Event
deriving DecidableEq

namespace Gathered

/-- Before anything has been read. -/
def nothing : Gathered := ⟨[], []⟩

/-- One more key to press. -/
def withKey (g : Gathered) (k : Key) : Gathered := { g with keys := g.keys ++ [k] }

/-- After a typed character, which is told of if it is no key. -/
def char (g : Gathered) (c : Char) : Gathered :=
  match Key.ofChar? c with
  | some k => g.withKey k
  | none => { g with events := g.events ++ [.charIgnored c] }

/-- After one more input. Of the physical keys enter finishes and escape and delete clear, on the way down only. -/
def input (g : Gathered) : Input → Gathered
  | .text t => t.foldl char g
  | .keyboard .enter true => g.withKey .equals
  | .keyboard .escape true | .keyboard .delete true => g.withKey .clear
  | .keyboard _ _ | .paste _ | .other => g

end Gathered

/-- What the window shows: the expression, with its two displays as they were computed after the last key. -/
structure Panel where
  expression : Expression
  readout : Text
  line : Text
deriving DecidableEq

namespace Panel

/-- The panel of an expression. -/
def ofExpression (e : Expression) : Panel := ⟨e, e.readout, e.line⟩

/-- The panel when the window opens. -/
def start : Panel := ofExpression .start

/-- The panel after a key: both displays are computed anew. -/
def press (p : Panel) (k : Key) : Panel := ofExpression (p.expression.press k)

/-- A key pressed while the log is written: the events of the key come after those there are. -/
def pressLogged (state : Panel × List Event) (k : Key) : Panel × List Event :=
  (state.1.press k, state.2 ++ Event.ofPress state.1.expression k)

/-- The key pad, row by row. -/
def rows : List (List Key) :=
  [[.clear, .operator .divide],
    [.typed '7' (Or.inl rfl), .typed '8' (Or.inl rfl), .typed '9' (Or.inl rfl), .operator .times],
    [.typed '4' (Or.inl rfl), .typed '5' (Or.inl rfl), .typed '6' (Or.inl rfl), .operator .minus],
    [.typed '1' (Or.inl rfl), .typed '2' (Or.inl rfl), .typed '3' (Or.inl rfl), .operator .plus],
    [.typed '0' (Or.inl rfl), .point, .equals]]

/-- The keys with a button, in the order in which the buttons are drawn. -/
def buttons : List Key := rows.flatten

/-- Anything a user does with the panel. -/
inductive Step where
  /-- A key is pressed, whatever it is pressed with. -/
  | press (k : Key)
  /-- A button is clicked. -/
  | click (button : Fin buttons.length)
  /-- Inputs arrive together, between two pictures. -/
  | frame (inputs : List Input)

/-- The panel after a step, and the events of the step. All inputs of a frame are read before the first of their
keys is pressed. -/
def act (p : Panel) : Step → Panel × List Event
  | .press k => pressLogged (p, []) k
  | .click button => pressLogged (p, []) (buttons.get button)
  | .frame inputs =>
    let gathered := inputs.foldl Gathered.input .nothing
    gathered.keys.foldl pressLogged (p, gathered.events)

/-- The panel after a step. -/
def step (p : Panel) (s : Step) : Panel := (p.act s).1

/-- The events of a step. -/
def events (p : Panel) (s : Step) : List Event := (p.act s).2

/-- The events of steps taken one after another. -/
def log : Panel → List Step → List Event
  | _, [] => []
  | p, s :: rest => p.events s ++ (p.step s).log rest

end Panel

end Calculator
