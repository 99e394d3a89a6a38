import Calculator.Settings

namespace Calculator

/-- An option of the command line. -/
inductive Setting where
  | replay
  | log
  | width
  | height
deriving DecidableEq

namespace Setting

/-- The options in no particular order. -/
def all : List Setting := [replay, log, width, height]

/-- The name of an option, which two hyphens stand before. -/
def name : Setting → Text
  | replay => "touches".toList
  | log => "log".toList
  | width => "largeur".toList
  | height => "hauteur".toList

/-- The option of a name. -/
def ofName? (t : Text) : Option Setting := all.find? fun s => s.name = t

end Setting

/-- Why the command line is not accepted. A request for help is one of the reasons. -/
inductive ArgumentFault where
  | unknownArgument
  | missingValue
  | badValue
  | repeatedOption
  | helpRequested
  | needlessValue
deriving DecidableEq

/-- The exit code of a run that the arguments end: asking for help is no failure. -/
def ArgumentFault.exitCode (fault : ArgumentFault) : Nat := if fault = helpRequested then 0 else 2

/-- One argument, told by its form alone. -/
inductive Argument where
  /-- Two hyphens and nothing else: whatever follows is no option. -/
  | separator
  /-- Two hyphens, a name and perhaps a value after an equals sign. -/
  | long (name : Text) (value : Option Text)
  /-- One hyphen and a letter. -/
  | short (letter : Char)
  /-- Anything else, a lone hyphen too. -/
  | plain (t : Text)
deriving DecidableEq

namespace Argument

/-- The form of an argument. -/
def ofText : Text → Argument
  | ['-', '-'] => separator
  | '-' :: '-' :: rest =>
    match rest.dropWhile (· ≠ '=') with
    | [] => long rest none
    | _ :: value => long (rest.takeWhile (· ≠ '=')) (some value)
  | '-' :: letter :: _ => short letter
  | t => plain t

end Argument

namespace Settings

/-- What has been read of a command line: the settings so far, the options already set, the option still open
with its value if that has come, and whether the separator has passed. -/
structure Reading where
  settings : Settings
  given : List Setting
  pending : Option (Setting × Option Text)
  separated : Bool

namespace Reading

/-- The reading before the first argument. -/
def start : Reading := ⟨.default, [], none, false⟩

/-- The settings with an option set to the value a text stands for. -/
def assign (settings : Settings) (setting : Setting) (value : Text) : Except ArgumentFault Settings :=
  match setting with
  | .replay => .ok { settings with replay := some value }
  | .log => .ok { settings with log := some value }
  | .width =>
    match Number.read? .single value with
    | some width => .ok { settings with width }
    | none => .error .badValue
  | .height =>
    match Number.read? .single value with
    | some height => .ok { settings with height }
    | none => .error .badValue

/-- The reading with an option set. That an option has no value is noticed before that it is repeated, and that
before what the value is. -/
def set (r : Reading) (setting : Setting) (value : Option Text) : Except ArgumentFault Reading :=
  match value with
  | none => .error .missingValue
  | some value =>
    if setting ∈ r.given then .error .repeatedOption
    else
      (assign r.settings setting value).map fun settings =>
        { r with settings, given := setting :: r.given }

/-- The reading with the open option, if there is one, set to its value. -/
def close (r : Reading) : Except ArgumentFault Reading :=
  match r.pending with
  | none => .ok r
  | some (setting, value) => { r with pending := none }.set setting value

/-- A request for help ends the reading, unless there is something wrong with the open option. -/
def help (r : Reading) : Except ArgumentFault Reading := r.close.bind fun _ => .error .helpRequested

/-- The reading after one more argument. The open option is set only when the next option, a request for help or
the end is reached, so an argument that nothing can make sense of is reported before what is wrong with that
option. -/
def step (r : Reading) (t : Text) : Except ArgumentFault Reading :=
  match r.separated, Argument.ofText t with
  | true, _ => .error .unknownArgument
  | false, .separator => .ok { r with separated := true }
  | false, .long name value =>
    match Setting.ofName? name, value with
    | some setting, none => (close r).map fun r => { r with pending := some (setting, none) }
    | some setting, some value => (close r).bind fun r => r.set setting (some value)
    | none, none => if name = "help".toList then r.help else .error .unknownArgument
    | none, some _ => if name = "help".toList then .error .needlessValue else .error .unknownArgument
  | false, .short letter => if letter = 'h' then r.help else .error .unknownArgument
  | false, .plain value =>
    match r.pending with
    | some (setting, none) => .ok { r with pending := some (setting, some value) }
    | _ => .error .unknownArgument

end Reading

/-- The settings that the arguments ask for, or the first fault from the left. -/
def ofArguments (arguments : List Text) : Except ArgumentFault Settings := do
  let r ← arguments.foldlM Reading.step .start
  let r ← r.close
  return r.settings

end Settings

end Calculator
