import RowFilter.Settings.FileValue
import RowFilter.Yaml.Lexer
import RowFilter.Yaml.Value

/-!
# Settings in YAML

The value of a YAML document as the content of a settings file. Keys become texts: a
decimal as it was written, an integer in decimal, a truth value by its word. Keys of
another kind have no place in settings, and neither have the words for what lies
beyond all numbers.

> `parse`: the content of the only document of a text. A text without any document
> is an empty table.
-/

namespace RowFilter.Yaml

open RowFilter.Settings

/-- A value as the key of a table. -/
def Value.key? : Value → Option String
  | .text word => some (String.ofList word)
  | .real word => some (String.ofList word)
  | .integer n => some (String.ofList (Decimal.integer n))
  | .bool value => some (if value then "true" else "false")
  | _ => none

mutual

/-- A value as the content of a settings file. -/
def Value.content? : Value → Option FileValue
  | .unfit => some .null
  | .null => some .null
  | .bool value => some (.bool value)
  | .integer n => some (.integer n)
  | .real word => (Decimal.double? word).map .double
  | .text word => some (.text (String.ofList word))
  | .list items => (itemContents? items).map .list
  | .table members => (memberContents? members).map fun pairs => .table (Keyed.ofPairs pairs)

/-- The contents of items. -/
def itemContents? : List Value → Option (List FileValue)
  | [] => some []
  | item :: rest =>
    match item.content?, itemContents? rest with
    | some first, some more => some (first :: more)
    | _, _ => none

/-- The contents of members with their keys as texts. -/
def memberContents? : List (Value × Value) → Option (List (String × FileValue))
  | [] => some []
  | (key, item) :: rest =>
    match key.key?, item.content?, memberContents? rest with
    | some name, some first, some more => some ((name, first) :: more)
    | _, _, _ => none

end

/-- The content of the only document of a text. -/
def parse (text : List Char) : Option FileValue :=
  match (Token.ofText? text).bind Document.ofTokens? with
  | none => none
  | some none => some (.table [])
  | some (some document) => document.value?.bind Value.content?

end RowFilter.Yaml
