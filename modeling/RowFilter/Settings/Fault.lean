import RowFilter.Decimal.Layout
import RowFilter.Text.Visible

/-!
# Why a value is not settings

Settings are read from a value that was well formed as such, so a fault says
which rule of their shape the value breaks: what was found, and what was wanted
in its place.
-/

namespace RowFilter.Settings

/-- What was found, as far as a message shows it. -/
inductive Found where
  | null
  | bool (value : Bool)
  | integer (n : Int)
  | double (x : Binary64)
  | text (value : String)
  | list
  | table
  deriving DecidableEq, Repr

/-- What was wanted. -/
inductive Wanted where
  | text
  | list
  | table
  | count
  /-- A record, by its name. -/
  | record (name : String)
  /-- One of several names, alone or as the key of a table. -/
  | choice
  /-- A table with one key, which is one of several names. -/
  | singleKey
  /-- Nothing beside the name of a choice. -/
  | nothing
  deriving DecidableEq, Repr

/-- The first rule of the settings' shape that a value breaks. -/
inductive Fault where
  | missing (field : String)
  | wrongType (found : Found) (wanted : Wanted)
  | wrongValue (found : Found) (wanted : Wanted)
  | unknownChoice (name : String) (known : List String)
  /-- A list given for a record lacks the item of a required field. -/
  | tooShort (index : Nat) (record : String) (fields : Nat)
  /-- A list given for a record has more items than the record has fields. -/
  | tooLong (length : Nat)
  deriving DecidableEq, Repr

/-- What was found, in words. -/
def Found.message : Found → String
  | .null => "null"
  | .bool value => "boolean \x60" ++ toString value ++ "\x60"
  | .integer n => "integer \x60" ++ String.ofList (Decimal.integer n) ++ "\x60"
  | .double x =>
    "floating point \x60" ++ String.ofList (Decimal.double Decimal.compact x) ++ "\x60"
  | .text value => "string " ++ Text.Visible.quote value
  | .list => "sequence"
  | .table => "map"

/-- What was wanted, in words. -/
def Wanted.message : Wanted → String
  | .text => "a string"
  | .list => "a sequence"
  | .table => "a map"
  | .count => "usize"
  | .record name => "struct " ++ name
  | .choice => "string or map"
  | .singleKey => "map with a single key"
  | .nothing => "unit"

/-- A name between grave accents. -/
def ticked (name : String) : String := "\x60" ++ name ++ "\x60"

/-- The wording of a fault. -/
def Fault.message : Fault → String
  | .missing field => "missing field " ++ ticked field
  | .wrongType found wanted =>
    "invalid type: " ++ found.message ++ ", expected " ++ wanted.message
  | .wrongValue found wanted =>
    "invalid value: " ++ found.message ++ ", expected " ++ wanted.message
  | .unknownChoice name known =>
    "unknown variant " ++ ticked name ++ ", expected one of "
      ++ ", ".intercalate (known.map ticked)
  | .tooShort index record fields =>
    "invalid length " ++ toString index ++ ", expected struct " ++ record ++ " with "
      ++ toString fields ++ " elements"
  | .tooLong length =>
    "invalid length " ++ toString length ++ ", expected fewer elements in array"

end RowFilter.Settings
