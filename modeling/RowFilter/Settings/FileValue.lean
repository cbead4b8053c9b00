import RowFilter.Json.Number
import RowFilter.Settings.Decode

/-!
# The content of a settings file

A settings file is written by hand, so it is read generously. Its content is a
tree of tables, lists and scalars, and a scalar that is not of the wanted kind is
converted:

* where a text is wanted, a truth value, an integer or a double is written out;
* where a count is wanted, a truth value is one or zero, a double is rounded to the
  nearest count, a half up, and a text is one of the words for yes and no or a
  number in decimal.

Nothing is made of `null`, a list or a table, whatever stands beside the name of a
choice is ignored, and so are extra items of a list given for a record.
-/

namespace RowFilter.Settings

/-- The content of a settings file. An integer fits a 64-bit word,
signed or not. -/
inductive FileValue where
  | null
  | bool (value : Bool)
  | integer (n : Int)
  | double (x : Binary64)
  | text (value : String)
  | list (items : List FileValue)
  | table (members : List (String × FileValue))
  deriving Repr

namespace FileValue

/-- What a message shows of a value. -/
def found : FileValue → Found
  | .null => .null
  | .bool value => .bool value
  | .integer n => .integer n
  | .double x => .double x
  | .text value => .text value
  | .list _ => .list
  | .table _ => .table

/-- The greatest count. -/
def greatestCount : Nat := 0xFFFFFFFFFFFFFFFF

/-- The count nearest to a double, a half up; nothing below zero, and the greatest
count above it. -/
def countOfDouble (x : Binary64) : Nat :=
  if x.isNaN || x.isNegative then 0
  else if x.isFinite then
    let (num, den) := x.ratio
    min greatestCount ((2 * num + den) / (2 * den))
  else greatestCount

/-- The count that digits in decimal give, a plus sign in front or not. -/
def countOfDigits (text : List Char) : Option Nat :=
  let digits :=
    match text with
    | '+' :: rest => rest
    | other => other
  match Json.takeDigits digits with
  | ([], _) => none
  | (values, []) =>
    let n := Json.digitsValue 0 values
    if n ≤ greatestCount then some n else none
  | _ => none

/-- The count that a text gives, upper and lower case alike. -/
def countOfText (text : String) : Option Nat :=
  let lower := text.toLower
  if lower = "true" ∨ lower = "on" ∨ lower = "yes" then some 1
  else if lower = "false" ∨ lower = "off" ∨ lower = "no" then some 0
  else countOfDigits text.toList

/-- The count that a value gives. -/
def count (value : FileValue) : Except Fault Nat :=
  match value with
  | .bool true => .ok 1
  | .bool false => .ok 0
  | .integer (.ofNat n) => .ok n
  | .double x => .ok (countOfDouble x)
  | .text word =>
    match countOfText word with
    | some n => .ok n
    | none => .error (.wrongType (.text word) .count)
  | other => .error (.wrongType other.found .count)

/-- The text that a value gives. -/
def scalarText : FileValue → Except Fault String
  | .text value => .ok value
  | .bool true => .ok "true"
  | .bool false => .ok "false"
  | .integer n => .ok (String.ofList (Decimal.integer n))
  | .double x => .ok (String.ofList (Decimal.double Decimal.plain x))
  | other => .error (.wrongType other.found .text)

/-- A file's content read generously. -/
def reading : Reading FileValue where
  found := found
  table?
    | .table members => some members
    | _ => none
  list?
    | .list items => some items
    | _ => none
  text := scalarText
  count := count
  payload _ := .ok ()
  extraItems := true

mutual

/-- JSON as the content of a file. -/
def ofJson : Json → FileValue
  | .null => .null
  | .bool value => .bool value
  | .number (.integer n _) => .integer n
  | .number (.double x _) => .double x
  | .string value => .text value
  | .array items => .list (ofItems items)
  | .object members => .table (ofMembers members)

/-- The items of an array as the content of a file. -/
def ofItems : List Json → List FileValue
  | [] => []
  | item :: rest => ofJson item :: ofItems rest

/-- The members of an object as the content of a file. -/
def ofMembers : List (String × Json) → List (String × FileValue)
  | [] => []
  | (key, value) :: rest => (key, ofJson value) :: ofMembers rest

end

end FileValue

end RowFilter.Settings
