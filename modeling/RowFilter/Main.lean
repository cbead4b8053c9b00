import RowFilter.Command.Run

/-!
# The command line

Reads the words of the command line, the environment and the files that a command
may need, runs the command, and writes its outcome. Everything that is decided is
decided by `RowFilter.Command`.
-/

open RowFilter RowFilter.Command

/-- The names under which a command may look for files. -/
def candidateNames (invocation : Invocation) : List String :=
  let settings :=
    match invocation.settingsFile with
    | none => []
    | some name => name :: Settings.formats.map fun (ext, _) => name ++ "." ++ ext
  match invocation.action with
  | .translate options => settings ++ options.tree.toList.filter (!isStandardInput ·)
  | _ => settings

/-- The file of a name, if it can be read. -/
def readFile? (name : String) : IO (Option (String × String)) := do
  try
    return some (name, ← IO.FS.readFile name)
  catch _ => return none

/-- True of a command that reads the standard input. -/
def readsInput (invocation : Invocation) : Bool :=
  match invocation.action with
  | .translate options => options.tree.any isStandardInput
  | _ => false

/-- What a command line that is not run answers. -/
def usageMessage : UsageError → String
  | .help | .nothingGiven | .noCommand =>
    "usage: [--config FILE] (translate | fields | sources) [OPTIONS]"
  | .version => "0.1.0"
  | .unknownCommand => "error: unknown command"
  | .unknownArgument => "error: unknown argument"
  | .missingOption => "error: a required option is missing"
  | .missingValue => "error: an option lacks its value"
  | .badNumber => "error: a value is not a number"
  | .repeated => "error: an option is given twice"
  | .unwantedValue => "error: a flag has a value"

/-- Runs the command line. -/
def main (args : List String) : IO UInt32 := do
  match Invocation.parse args (← IO.getEnv "FILTERQL_CONFIG") with
  | .error error =>
    let asked := error == .help || error == .version
    if asked then IO.println (usageMessage error) else IO.eprintln (usageMessage error)
    return if asked then 0 else 2
  | .ok invocation =>
    let files := (← (candidateNames invocation).mapM readFile?).reduceOption
    let input ← if readsInput invocation then (← IO.getStdin).readToEnd else pure ""
    let outcome := invocation.run ⟨fun name => Keyed.get? name files, input⟩
    IO.print outcome.output
    for notice in outcome.notices.filter Notice.isWarning do
      IO.eprintln notice.message
    IO.eprint outcome.errors
    match outcome.failure with
    | none => return 0
    | some failure =>
      IO.eprintln ("Error: " ++ failure.message)
      return 1
