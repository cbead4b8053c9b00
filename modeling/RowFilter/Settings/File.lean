import RowFilter.Json.Reader
import RowFilter.Settings.Path
import RowFilter.Yaml.Reader

/-!
# Settings files

The format of a settings file is known by its extension. A name that no file has
is tried again with each known extension behind it.

> `load`: the settings of a named file. The file may be impossible to read (there is
> none, its extension is not known, it is malformed, or it is not a table), or its
> content may not fit the shape of settings.

The keys at the top of the file are paths (`RowFilter.Settings.Path`). Further down
keys are taken as they are.
-/

namespace RowFilter.Settings

/-- The formats of settings files. -/
inductive Format where
  | json
  | yaml
  deriving DecidableEq, Repr

/-- The known extensions. -/
def formats : List (String × Format) :=
  [("json", .json), ("yaml", .yaml), ("yml", .yaml)]

/-- Why a file gives no settings. -/
inductive FileError where
  /-- The file is missing, of no known format, malformed or not a table. -/
  | unreadable (name : String)
  | unfit (fault : Fault)
  deriving DecidableEq, Repr

/-- The wording of an error. -/
def FileError.message : FileError → String
  | .unreadable name => "Config: Failed to read " ++ Text.Visible.quote name
  | .unfit fault => fault.message

/-- The last part of a path. -/
def lastPart (path : List Char) : List Char := (path.reverse.takeWhile (· != '/')).reverse

/-- The extension of a file's name: what stands behind its last point, unless the
name starts with that point. -/
def extension? (name : String) : Option String :=
  let base := (lastPart name.toList).reverse
  match base.dropWhile (· != '.') with
  | [] | ['.'] => none
  | _ => some (String.ofList (base.takeWhile (· != '.')).reverse)

/-- A path without the separators and the parts `.` at its end. -/
def withoutTail (name : String) : String :=
  let rec strip : List Char → List Char
    | '/' :: rest => strip rest
    | '.' :: '/' :: rest => strip rest
    | other => other
  String.ofList (strip name.toList.reverse).reverse

/-- True of a path that means a directory whatever it holds. -/
def isDirectory (name : String) : Bool :=
  lastPart name.toList = [] || lastPart name.toList = ['.'] || lastPart name.toList = ['.', '.']

/-- The content of a file and its format, found under its name or under its name and
a known extension. -/
def locate (files : String → Option String) (name : String) : Option (Format × String) :=
  match files name with
  | some content => ((extension? name).bind fun ext => Keyed.get? ext formats).map (·, content)
  | none =>
    let base := withoutTail name
    if isDirectory base then none
    else formats.findSome? fun (ext, format) => (files (base ++ "." ++ ext)).map (format, ·)

/-- A text without the mark of its byte order. -/
def dropByteOrderMark : List Char → List Char
  | c :: rest => if c.toNat = 0xFEFF then rest else c :: rest
  | [] => []

/-- The content of a file, if it is well formed. -/
def Format.parse (format : Format) (content : String) : Option FileValue :=
  let text := dropByteOrderMark content.toList
  match format with
  | .json => (Json.parseChars text).toOption.map FileValue.ofJson
  | .yaml => Yaml.parse text

/-- The settings that a well-formed file's content gives. -/
def ofContent (name : String) : Option FileValue → Except FileError Settings
  | some (.table members) =>
    match FileValue.reading.settings (FileValue.assemble (.table members)) with
    | .ok settings => .ok settings
    | .error fault => .error (.unfit fault)
  | _ => .error (.unreadable name)

/-- The settings of a named file. -/
def load (files : String → Option String) (name : String) : Except FileError Settings :=
  ofContent name ((locate files name).bind fun (format, content) => format.parse content)

end RowFilter.Settings
