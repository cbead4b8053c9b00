import RowFilter.Decimal.Layout
import RowFilter.Json.Basic
import RowFilter.Text.Quoted

/-!
# JSON text

`compact` writes a value without any blank. `indented` puts every item and
member on a line of its own, two spaces deeper than its container, with a space
behind the colon; empty containers stay closed.
-/

namespace RowFilter.Json

/-- A number in JSON text. -/
def Number.text : Number → List Char
  | .integer n _ => Decimal.integer n
  | .double x _ => Decimal.double Decimal.compact x

/-- The keyword for a truth value. -/
def boolText : Bool → List Char
  | true => ['t', 'r', 'u', 'e']
  | false => ['f', 'a', 'l', 's', 'e']

mutual

/-- A value without any blank. -/
def compact : Json → List Char
  | .null => ['n', 'u', 'l', 'l']
  | .bool value => boolText value
  | .number value => value.text
  | .string value => Text.Quoted.encode value.toList
  | .array items => '[' :: [','].intercalate (compactItems items) ++ [']']
  | .object members => '\x7b' :: [','].intercalate (compactMembers members) ++ ['\x7d']

/-- The items of an array, each without any blank. -/
def compactItems : List Json → List (List Char)
  | [] => []
  | item :: rest => compact item :: compactItems rest

/-- The members of an object, each without any blank. -/
def compactMembers : List (String × Json) → List (List Char)
  | [] => []
  | (key, value) :: rest =>
    (Text.Quoted.encode key.toList ++ ':' :: compact value) :: compactMembers rest

end

/-- A value as text without any blank. -/
def text (value : Json) : String := String.ofList value.compact

/-- The start of a line at a nesting level. -/
def newline (level : Nat) : List Char := '\n' :: List.replicate (2 * level) ' '

/-- A container over several lines, or closed if it has no parts. -/
def block (level : Nat) (opening closing : Char) (parts : List (List Char)) : List Char :=
  if parts.isEmpty then [opening, closing]
  else
    opening :: newline (level + 1) ++ (',' :: newline (level + 1)).intercalate parts
      ++ newline level ++ [closing]

mutual

/-- A value over several lines, as a part of something at the given level. -/
def indentedAt (level : Nat) : Json → List Char
  | .array items => block level '[' ']' (indentedItems (level + 1) items)
  | .object members => block level '\x7b' '\x7d' (indentedMembers (level + 1) members)
  | .null => ['n', 'u', 'l', 'l']
  | .bool value => boolText value
  | .number value => value.text
  | .string value => Text.Quoted.encode value.toList

/-- The items of an array, each over several lines. -/
def indentedItems (level : Nat) : List Json → List (List Char)
  | [] => []
  | item :: rest => indentedAt level item :: indentedItems level rest

/-- The members of an object, each over several lines. -/
def indentedMembers (level : Nat) : List (String × Json) → List (List Char)
  | [] => []
  | (key, value) :: rest =>
    (Text.Quoted.encode key.toList ++ ':' :: ' ' :: indentedAt level value)
      :: indentedMembers level rest

end

/-- A value over several lines. -/
def indented (value : Json) : String := String.ofList (indentedAt 0 value)

end RowFilter.Json
