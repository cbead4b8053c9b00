import RowFilter.Command.Basic
import RowFilter.Json.Reader
import RowFilter.Request
import RowFilter.Search
import RowFilter.Settings.File
import RowFilter.Source.Builtin
import RowFilter.Source.Fields
import RowFilter.Text.Lines

/-!
# Running commands

A command is a function of its surroundings: the files it can read and its standard
input. What it does to the outside is an `Outcome`: the lines it prints, the
complaints it makes on the way, the notices about trees it has read, and the error
it ends with, if it fails.

> `Invocation.run`: the outcome of a command.

With one tree per line, each line that is not blank is handled as if it were the
whole input, and gives one printed line, which is empty if the line fails. The
command fails after the last line if any of them did.

What is left out is what the outcome does not depend on: how many threads a batch is spread
over, and the lines that `--verbose` adds to the log.
-/

namespace RowFilter.Command

/-- What a command can read. -/
structure Surroundings where
  files : String → Option String
  input : String

/-- Why a text gives no filter. -/
inductive TreeError where
  | malformed (fault : Json.Fault)
  | refused (error : FilterError)
  deriving DecidableEq, Repr

/-- Why a command fails. -/
inductive Failure where
  | file (error : Settings.FileError)
  | config (error : ConfigError)
  | filter (error : FilterError)
  | noTextColumn (source : String)
  | noInput
  | unreadable (path : String)
  | malformed (path : String) (text : List Char) (fault : Json.Fault)
  | linesFailed (failed total : Nat)

/-- What was being done when a command failed for a reason of its input's. -/
def Failure.task : Failure → String
  | .file error => error.message
  | .config error => error.message
  | .filter error => error.message
  | .noTextColumn source =>
    "CLI: Source '" ++ source ++ "' has no text column; use --search-field"
  | .noInput => "CLI: --jsonl requires --tree (use - for stdin)"
  | .unreadable path => "CLI: Failed to read " ++ Text.Visible.quote path
  | .malformed path _ _ =>
    "CLI: Failed to parse filter tree from " ++ Text.Visible.quote path
  | .linesFailed failed total =>
    "CLI: " ++ toString failed ++ " of " ++ toString total ++ " filter trees failed to translate"

/-- The wording of a failure. -/
def Failure.message (failure : Failure) : String :=
  match failure with
  | .malformed _ text fault => failure.task ++ ": " ++ fault.message text
  | _ => failure.task

/-- What a command does to the outside. -/
structure Outcome where
  /-- The lines printed. -/
  printed : List String
  /-- The lines of complaint, apart from the failure. -/
  complaints : List String
  /-- What was remarkable about the trees read. -/
  notices : List Notice
  failure : Option Failure

namespace Outcome

/-- A failure and nothing else. -/
def fail (failure : Failure) : Outcome := ⟨[], [], [], some failure⟩

/-- One printed line and nothing else. -/
def print (line : String) : Outcome := ⟨[line], [], [], none⟩

/-- Lines as text, each with its end. -/
def unlines (lines : List String) : String := String.join (lines.map (· ++ "\n"))

/-- The text on the standard output. -/
def output (outcome : Outcome) : String := unlines outcome.printed

/-- The text on the standard error, apart from the failure. -/
def errors (outcome : Outcome) : String := unlines outcome.complaints

end Outcome

/-! ## Trees -/

/-- The filter of a text that holds a tree, and what was remarkable about it. The
tree is looked at as soon as it ends, so it may be remarkable in a text that is
malformed only behind it. -/
def readTree (scope : Scope) (text : List Char) :
    Except TreeError (Option Operation) × List Notice :=
  match Json.readFront text with
  | .error fault => (.error (.malformed fault), [])
  | .ok (value, rest) =>
    let (node, notices) := Node.read value
    match Json.trailingFault? rest with
    | some fault => (.error (.malformed fault), notices)
    | none =>
      match scope.filter node with
      | .error error => (.error (.refused error), notices)
      | .ok filter => (.ok filter, notices)

/-- What a search text is searched for in: the given field, or the first column that
holds texts. -/
def searchTarget (source : DataSource) (scope : Scope) (field : Option String) :
    Except Failure Symbol :=
  let symbol (field : String) : Except Failure Symbol := (scope.symbol field).mapError .filter
  match field with
  | some field => symbol field
  | none =>
    match source.registry.columns.find? (·.fieldType = .string) with
    | some column => symbol column.key
    | none => .error (.noTextColumn source.name)

/-- The filter of the search text, if one is given. -/
def searchOf (source : DataSource) (scope : Scope) (options : TreeOptions) :
    Except Failure (Option Operation) :=
  match options.search with
  | none => .ok none
  | some text => (searchTarget source scope options.searchField).map (searchFilter text ·)

/-- A filter as the options want it printed. -/
def render (source : DataSource) (options : TreeOptions) (filter : Option Operation) : String :=
  if options.request then Request.path ⟨filter, options.offset⟩ source
  else (filter.map Operation.text).getD ""

/-- True of a path that is a dash; empty parts and points behind it do not count. -/
def isStandardInput (path : String) : Bool :=
  match path.splitOn "/" with
  | first :: more => first == "-" && more.all fun part => part.isEmpty || part == "."
  | [] => false

/-- The content of a file, or the standard input for a dash. -/
def readInput (surroundings : Surroundings) (path : String) : Except Failure String :=
  if isStandardInput path then .ok surroundings.input
  else
    match surroundings.files path with
    | some content => .ok content
    | none => .error (.unreadable path)

/-- What a line with a tree comes to. -/
structure LineResult where
  /-- The number of the line, counted from one. -/
  number : Nat
  result : Except TreeError String
  notices : List Notice
  text : List Char

/-- The lines of a text that are not blank, with their numbers. -/
def numberedLines (text : List Char) : List (Nat × List Char) :=
  ((Text.lines text).zipIdx 1).filterMap fun (line, number) =>
    if Text.allBlank line then none else some (number, line)

/-- What a line comes to, joined with the search. -/
def lineResult (source : DataSource) (scope : Scope) (search : Option Operation)
    (options : TreeOptions) (number : Nat) (text : List Char) : LineResult :=
  let (filter, notices) := readTree scope text
  ⟨number, filter.map fun filter => render source options (combine filter search), notices, text⟩

/-- The complaint about a line that failed. -/
def LineResult.complaint? (line : LineResult) : Option String :=
  let complain (message : String) : Option String :=
    some ("error: line " ++ toString line.number ++ ": " ++ message)
  match line.result with
  | .ok _ => none
  | .error (.malformed fault) => complain (fault.message line.text)
  | .error (.refused error) => complain error.message

/-- The printed line, empty if the line failed. -/
def LineResult.printed (line : LineResult) : String :=
  match line.result with
  | .ok text => text
  | .error _ => ""

/-- The outcome of one tree per line. -/
def runLines (source : DataSource) (scope : Scope) (search : Option Operation)
    (options : TreeOptions) (text : List Char) : Outcome :=
  let results := (numberedLines text).map fun (number, line) =>
    lineResult source scope search options number line
  let complaints := results.filterMap LineResult.complaint?
  { printed := results.map LineResult.printed
    complaints := complaints
    notices := results.flatMap (·.notices)
    failure :=
      if complaints.isEmpty then none
      else some (.linesFailed complaints.length results.length) }

/-- The outcome of one tree. -/
def runTree (source : DataSource) (scope : Scope) (search : Option Operation)
    (options : TreeOptions) (path : String) (text : List Char) : Outcome :=
  match readTree scope text with
  | (.ok filter, notices) =>
    { Outcome.print (render source options (combine filter search)) with notices := notices }
  | (.error (.malformed fault), notices) =>
    { Outcome.fail (.malformed path text fault) with notices := notices }
  | (.error (.refused error), notices) =>
    { Outcome.fail (.filter error) with notices := notices }

/-- The outcome of `translate` for a compiled source. -/
def runTranslate (surroundings : Surroundings) (source : DataSource) (scope : Scope)
    (options : TreeOptions) : Outcome :=
  match searchOf source scope options with
  | .error failure => .fail failure
  | .ok search =>
    match options.tree with
    | none =>
      if options.lines then .fail .noInput
      else .print (render source options (combine none search))
    | some path =>
      match readInput surroundings path with
      | .error failure => .fail failure
      | .ok text =>
        if options.lines then runLines source scope search options text.toList
        else runTree source scope search options path text.toList

/-! ## Commands -/

/-- The line of a source in the list of sources. -/
def sourceLine (source : DataSource) : String := source.name ++ "\t" ++ source.endpoint

/-- The outcome of `sources`: the sources up to the first whose definition is at
fault. -/
def runSources (settings : Settings) : List String → Outcome
  | [] => ⟨[], [], [], none⟩
  | name :: rest =>
    match settings.source name with
    | .error error => .fail (.config error)
    | .ok source =>
      let outcome := runSources settings rest
      { outcome with printed := sourceLine source :: outcome.printed }

/-- The outcome of a command under settings. -/
def Action.run (surroundings : Surroundings) (settings : Settings) : Action → Outcome
  | .sources => runSources settings settings.names
  | .fields name ofDocument =>
    match settings.source name with
    | .error error => .fail (.config error)
    | .ok source =>
      let fields :=
        if ofDocument then configFieldDefinitions source.configFields
        else source.registry.fields
      .print (Json.object fields).indented
  | .translate options =>
    match settings.source options.source with
    | .error error => .fail (.config error)
    | .ok source =>
      runTranslate surroundings source (source.scope settings.maxDepth) options

/-- The outcome of a command. -/
def Invocation.run (surroundings : Surroundings) (invocation : Invocation) : Outcome :=
  match invocation.settingsFile with
  | none => invocation.action.run surroundings Builtin.settings
  | some name =>
    match Settings.load surroundings.files name with
    | .error error => .fail (.file error)
    | .ok settings => invocation.action.run surroundings settings

end RowFilter.Command
