import RowFilter.Json.Basic
import RowFilter.Settings.Decode

/-!
# Settings given as a JSON value

Where settings are given as JSON, each value is taken at its word: a text is a
string, a count a number that is not negative and fits a word, and beside the
name of a choice stands nothing but `null`.
-/

namespace RowFilter.Settings

/-- What a message shows of a JSON value. -/
def foundJson : Json → Found
  | .null => .null
  | .bool value => .bool value
  | .number (.integer n _) => .integer n
  | .number (.double x _) => .double x
  | .string value => .text value
  | .array _ => .list
  | .object _ => .table

/-- JSON taken at its word. -/
def inline : Reading Json where
  found := foundJson
  table?
    | .object members => some members
    | _ => none
  list? := Json.items?
  text
    | .string value => .ok value
    | other => .error (.wrongType (foundJson other) .text)
  count
    | .number (.integer (.ofNat n) _) => .ok n
    | .number (.integer (.negSucc n) _) => .error (.wrongValue (.integer (.negSucc n)) .count)
    | other => .error (.wrongType (foundJson other) .count)
  payload
    | .null => .ok ()
    | other => .error (.wrongType (foundJson other) .nothing)
  extraItems := false

end RowFilter.Settings
