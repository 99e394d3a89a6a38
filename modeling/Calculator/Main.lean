import Calculator.Report

namespace Calculator

/-- What the user is told about arguments that are not accepted. -/
def ArgumentFault.message : ArgumentFault → String
  | unknownArgument => "argument inconnu"
  | missingValue => "valeur manquante"
  | badValue => "valeur invalide"
  | repeatedOption => "option répétée"
  | helpRequested => "calculatrice [--touches TOUCHES] [--log FILTRE] [--largeur LARGEUR] [--hauteur HAUTEUR]"
  | needlessValue => "valeur inattendue"

/-- Prints a report and hands on its exit code. -/
def Report.print (r : Report) : IO UInt32 := do
  for line in r.diagnostics do IO.eprintln (String.ofList line)
  for line in r.output do IO.println (String.ofList line)
  return r.exitCode.toUInt32

end Calculator

open Calculator in
/-- Runs the calculator with the arguments given and the log filter of the environment. There is no windowing system
that could show a window. -/
def main (arguments : List String) : IO UInt32 := do
  let environment := (← IO.getEnv "RUST_LOG").map String.toList
  match Report.ofArguments (arguments.map String.toList) environment (.failed none) with
  | .ok report => report.print
  | .error fault =>
    if fault = .helpRequested then IO.println fault.message else IO.eprintln fault.message
    return fault.exitCode.toUInt32
