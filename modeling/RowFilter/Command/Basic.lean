import RowFilter.Command.Line

/-!
# Commands

There are three: `translate` prints the filter of a tree, `fields` the field
definitions of a source, and `sources` the sources. A settings file may be named on
either side of the command's name or by the environment; the command's side wins,
and the environment comes last.

> `Invocation.parse`: the command that the words of a command line stand for.

This is the command line of the specification (section 4.8). The texts of help and of usage
messages are left out: a refusal has its kind only.
-/

namespace RowFilter.Command

/-- What `translate` is asked for. -/
structure TreeOptions where
  source : String
  /-- The file of the tree, a dash for the standard input. -/
  tree : Option String
  search : Option String
  searchField : Option String
  offset : Nat
  /-- Print the path of a request and not the filter alone. -/
  request : Bool
  /-- The input holds one tree per line. -/
  lines : Bool
  deriving DecidableEq, Repr

/-- What a command is asked to do. -/
inductive Action where
  | translate (options : TreeOptions)
  | fields (source : String) (ofDocument : Bool)
  | sources
  deriving DecidableEq, Repr

/-- What to do, and the settings file to do it with. -/
structure Invocation where
  settingsFile : Option String
  action : Action
  deriving DecidableEq, Repr

/-- The options that may stand on either side of a command's name. -/
def sharedOptions : List OptionSpec :=
  [⟨"config", some 'c', .value .fileName⟩, ⟨"threads", some 't', .value .number⟩,
    ⟨"verbose", some 'v', .flag⟩, ⟨"help", some 'h', .help⟩]

/-- The options in front of a command's name. -/
def outerOptions : List OptionSpec := sharedOptions ++ [⟨"version", some 'V', .version⟩]

/-- The options behind `translate`. -/
def treeOptions : List OptionSpec :=
  sharedOptions ++
    [⟨"source", some 's', .value .text⟩, ⟨"tree", none, .value .fileName⟩,
      ⟨"search", none, .value .text⟩, ⟨"search-field", none, .value .text⟩,
      ⟨"offset", none, .value .number⟩, ⟨"query", none, .flag⟩, ⟨"jsonl", none, .flag⟩]

/-- The options behind `fields`. -/
def fieldOptions : List OptionSpec :=
  sharedOptions ++
    [⟨"source", some 's', .value .text⟩, ⟨"config-fields", none, .flag⟩]

/-- The names of the commands. -/
def commandNames : List String := ["translate", "fields", "sources"]

/-- What follows the word that asks for help: nothing, or the name of a command. -/
def helpOn : List String → UsageError
  | [] => .help
  | [name] => if (commandNames ++ ["help"]).contains name then .help else .unknownCommand
  | _ => .unknownCommand

/-- Settles a level and looks at the environment's settings file, which counts
unless the level names one. -/
def close (level : Level) (environment : Option String) : Except UsageError Level :=
  match level.settle with
  | .error error => .error error
  | .ok level =>
    if level.has "config" then .ok level
    else
      match environment with
      | none => .ok level
      | some name => (ValueKind.fileName.check name).map fun _ => level

/-- What the command of a name is asked to do by the options behind it. -/
def ofLevel (name : String) (level : Level) : Except UsageError Action :=
  if name = "sources" then .ok .sources
  else
    match level.get? "source" with
    | none => .error .missingOption
    | some source =>
      if name = "fields" then .ok (.fields source (level.has "config-fields"))
      else .ok <| .translate
        { source := source
          tree := level.get? "tree"
          search := level.get? "search"
          searchField := level.get? "search-field"
          offset := ((level.get? "offset").bind number?).getD 0
          request := level.has "query"
          lines := level.has "jsonl" }

/-- The options behind a command's name. -/
def optionsOf (name : String) : List OptionSpec :=
  if name = "translate" then treeOptions
  else if name = "fields" then fieldOptions
  else sharedOptions

/-- What words ask for, and the settings file by option or by the environment. -/
def Invocation.parse (words : List String) (environment : Option String) :
    Except UsageError Invocation := do
  let (outer, rest) ← Level.empty.read outerOptions (commandNames ++ ["help"]) words
  match rest with
  | [] =>
    let outer ← close outer environment
    if outer.given.isEmpty && environment.isNone then .error .nothingGiven
    else .error .noCommand
  | name :: rest =>
    if name = "help" then .error (helpOn rest)
    else
      let (inner, _) ← Level.empty.read (optionsOf name) [] rest
      let inner ← close inner environment
      let action ← ofLevel name inner
      let outer ← close outer environment
      return ⟨inner.get? "config" <|> outer.get? "config" <|> environment, action⟩

end RowFilter.Command
