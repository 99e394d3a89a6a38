import Calculator.Log.Filter
import Calculator.Panel
import Calculator.Settings.Arguments

namespace Calculator

/-- What becomes of the window that a run asks for. -/
inductive Window where
  /-- It is closed in the end, and until then steps are taken in it. -/
  | closed (done : List Panel.Step)
  /-- It cannot be shown. The windowing system may say why. -/
  | failed (reason : Option Text)

/-- What a run of the program leaves behind: its exit code, the lines on the standard output and those on the
standard error. -/
structure Report where
  exitCode : Nat
  output : List Text
  diagnostics : List Text
deriving DecidableEq

namespace Report

/-- The lines of the events that reach the log. -/
def logLines (filter : Filter) (events : List Event) : List Text :=
  (filter.select events).map Event.line

/-- A report after lines that come before all else on the standard error. -/
def after (lines : List Text) (r : Report) : Report := { r with diagnostics := lines ++ r.diagnostics }

/-- The lines that report a key text that cannot be read. -/
def refusal (t : Text) (fault : UnknownKey) : List Text :=
  ["Error: rejeu impossible pour ".toList ++ quoted '"' t, [], "Caused by:".toList,
    "    ".toList ++ fault.message]

/-- A replay shows both displays after the last key. A text that cannot be read leaves no trace but the
refusal. -/
def ofReplay (filter : Filter) (t : Text) : Report :=
  match Key.read t with
  | .ok keys =>
    let e := Expression.start.run keys
    ⟨0, [e.readout, e.line], logLines filter (Event.ofRun .start keys)⟩
  | .error fault => ⟨1, [], refusal t fault⟩

/-- What a window leaves behind from when it is asked for: the log of the steps taken in it, or an error. -/
def ofWindow (filter : Filter) : Window → Report
  | .closed done => ⟨0, [], logLines filter (Panel.start.log done)⟩
  | .failed reason => ⟨1, [], ["Error: fenêtre".toList ++ reason.elim [] (": ".toList ++ ·)]⟩

/-- A start with a window logs its size before the window is asked for. -/
def ofStart (filter : Filter) (size : Size × Size) (window : Window) : Report :=
  let started := Event.started (size.1.toFormat .double) (size.2.toFormat .double)
  after (logLines filter [started]) (ofWindow filter window)

/-- A run with settings that were accepted, a filter from the environment in case they have none, and what becomes
of the window if there is one. What is not understood of their own filter is told first. -/
def ofSettings (settings : Settings) (environment : Option Text) (window : Window := .failed none) : Report :=
  let filter := Filter.choose settings.log environment
  after (settings.log.elim [] Filter.complaints) <|
    match settings.replay with
    | some t => ofReplay filter t
    | none => ofStart filter settings.windowSize window

/-- The report of a run, if its arguments are accepted. -/
def ofArguments (arguments : List Text) (environment : Option Text) (window : Window) :
    Except ArgumentFault Report :=
  (Settings.ofArguments arguments).map fun settings => ofSettings settings environment window

end Report

end Calculator
