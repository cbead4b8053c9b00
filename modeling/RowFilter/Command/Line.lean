/-!
# Reading a command line

A command line is a list of words. Options start with one or two dashes; an
option's value follows it as a word of its own, behind an equals sign, or directly
behind a letter, and letters without values may share a word. A `Level` is what
stands on one side of the command's name: its options may be given once each.

> `Level.read`: the options of a level, from the words in front of the name of a
> command, or from all words behind it.

A value that is a word of its own is looked at when the next option comes or the
words end, so a word that cannot stand at all is reported first.
-/

namespace RowFilter.Command

/-- Why a command line is not understood, or what it asks for instead of a command. -/
inductive UsageError where
  | help
  | version
  /-- There is nothing on the command line. -/
  | nothingGiven
  | noCommand
  | unknownCommand
  | unknownArgument
  | missingOption
  /-- An option has no value, or an empty one where it needs a name. -/
  | missingValue
  | badNumber
  | repeated
  | unwantedValue
  deriving DecidableEq, Repr

/-- What an option's value has to be. -/
inductive ValueKind where
  /-- Any text. -/
  | text
  /-- The name of a file, which is not empty. -/
  | fileName
  /-- A number that fits an unsigned 64-bit word. -/
  | number
  deriving DecidableEq, Repr

/-- What an option does. -/
inductive OptionKind where
  | flag
  | value (kind : ValueKind)
  | help
  | version
  deriving DecidableEq, Repr

/-- An option: its name, its letter if it has one, and what it does. -/
structure OptionSpec where
  name : String
  letter : Option Char
  kind : OptionKind
  deriving DecidableEq, Repr

/-- The number that a text gives, a plus sign in front or not. -/
def number? (text : String) : Option Nat :=
  let digits :=
    match text.toList with
    | '+' :: rest => rest
    | other => other
  if digits.isEmpty || !digits.all Char.isDigit then none
  else
    let n := digits.foldl (fun n c => n * 10 + (c.toNat - '0'.toNat)) 0
    if n < 0x10000000000000000 then some n else none

/-- Whether a text can be the value of an option. -/
def ValueKind.check (kind : ValueKind) (text : String) : Except UsageError Unit :=
  match kind with
  | .text => .ok ()
  | .fileName => if text.isEmpty then .error .missingValue else .ok ()
  | .number => if (number? text).isSome then .ok () else .error .badNumber

/-- The options of one level: those with their values, and one that still waits to
be looked at, with its value if that has come. -/
structure Level where
  given : List (String × String)
  waiting : Option (String × ValueKind × Option String)
  deriving DecidableEq, Repr

namespace Level

/-- A level without options. -/
def empty : Level := ⟨[], none⟩

/-- The value of an option. -/
def get? (level : Level) (name : String) : Option String := level.given.lookup name

/-- True of an option that was given. -/
def has (level : Level) (name : String) : Bool := (level.get? name).isSome

/-- Adds an option with its value, unless it was given before. -/
def add (level : Level) (name value : String) (check : Except UsageError Unit) :
    Except UsageError Level :=
  if level.has name then .error .repeated
  else check.map fun _ => { level with given := level.given ++ [(name, value)] }

/-- Looks at the option that waits. -/
def settle (level : Level) : Except UsageError Level :=
  match level.waiting with
  | none => .ok level
  | some (_, _, none) => .error .missingValue
  | some (name, kind, some value) =>
    { level with waiting := none }.add name value (kind.check value)

/-- Takes an option with the value attached to it, if there is one. -/
def take (level : Level) (spec : OptionSpec) (attached : Option String) :
    Except UsageError Level :=
  match level.settle with
  | .error error => .error error
  | .ok level =>
    match spec.kind, attached with
    | .help, _ => .error .help
    | .version, _ => .error .version
    | .flag, _ => level.add spec.name "" (.ok ())
    | .value kind, some value => level.add spec.name value (kind.check value)
    | .value kind, none => .ok { level with waiting := some (spec.name, kind, none) }

/-- Takes the options of a word of letters. -/
def takeLetters (specs : List OptionSpec) (level : Level) :
    List Char → Except UsageError Level
  | [] => .ok level
  | letter :: rest =>
    match specs.find? (·.letter = some letter) with
    | none => .error .unknownArgument
    | some spec =>
      match spec.kind, rest with
      | .value _, '=' :: value => level.take spec (some (String.ofList value))
      | .value _, c :: value => level.take spec (some (String.ofList (c :: value)))
      | _, _ =>
        match level.take spec none with
        | .error error => .error error
        | .ok level => takeLetters specs level rest

/-- Takes an option by its name, with a value behind an equals sign or without. -/
def takeNamed (specs : List OptionSpec) (level : Level) (word : List Char) :
    Except UsageError Level :=
  let name := String.ofList (word.takeWhile (· != '='))
  let attached : Option String :=
    match word.dropWhile (· != '=') with
    | [] => none
    | _ :: value => some (String.ofList value)
  match specs.find? (·.name = name) with
  | none => .error .unknownArgument
  | some spec =>
    match spec.kind, attached with
    | .value _, _ => level.take spec attached
    | _, some _ => .error .unwantedValue
    | _, none => level.take spec none

/-- The options of a level and the words from the name of a command on. `commands`
are the names that may end the level; without any, no word may stand alone. -/
def read (specs : List OptionSpec) (commands : List String) (level : Level) :
    List String → Except UsageError (Level × List String)
  | [] => .ok (level, [])
  | word :: rest =>
    match word.toList with
    | ['-', '-'] =>
      match rest with
      | [] => .ok (level, [])
      | next :: _ =>
        if commands.isEmpty || commands.contains next then .error .unknownArgument
        else .error .unknownCommand
    | '-' :: '-' :: named =>
      match level.takeNamed specs named with
      | .error error => .error error
      | .ok level => read specs commands level rest
    | '-' :: c :: letters =>
      match level.takeLetters specs (c :: letters) with
      | .error error => .error error
      | .ok level => read specs commands level rest
    | _ =>
      match level.waiting with
      | some (name, kind, none) =>
        read specs commands { level with waiting := some (name, kind, some word) } rest
      | _ =>
        if commands.contains word then .ok (level, word :: rest)
        else if commands.isEmpty then .error .unknownArgument
        else .error .unknownCommand

end Level

end RowFilter.Command
