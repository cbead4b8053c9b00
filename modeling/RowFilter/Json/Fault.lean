import RowFilter.Text.Quoted

/-!
# Why a text is not JSON

A fault has a cause and a place: the text that had not been read when the cause
was met. Causes fall into two classes. Either the text ended while more of it was
needed, or it holds something that cannot stand there.

> `Fault.message`: the cause, with the line and column of the last character read,
> both counted from one, the column in bytes.
-/

namespace RowFilter.Json

/-- The causes for which a text is not JSON. -/
inductive Cause where
  /-- The text ends where a value or a part of one is needed. -/
  | endInValue
  /-- The text ends inside an array. -/
  | endInArray
  /-- The text ends inside an object. -/
  | endInObject
  /-- A word is not `true`, `false` or `null`. -/
  | notKeyword
  /-- No value starts with the character found. -/
  | notValue
  /-- A key is not followed by a colon. -/
  | noColon
  /-- An item is followed neither by a comma nor by the end of its array. -/
  | arrayNotClosed
  /-- A member is followed neither by a comma nor by the end of its object. -/
  | objectNotClosed
  /-- A member does not start with a string. -/
  | keyNotString
  /-- A comma is followed by the end of its container. -/
  | trailingComma
  /-- Something follows the value. -/
  | trailingText
  /-- A number lacks a digit or has one too many. -/
  | badNumber
  /-- A number is too great for a double. -/
  | numberTooGreat
  /-- Arrays and objects are nested too deep. -/
  | nestedTooDeep
  /-- A string is at fault. -/
  | string (fault : Text.Quoted.Fault)
  deriving DecidableEq, Repr

/-- A cause and the text that was not read. -/
structure Fault where
  cause : Cause
  unread : List Char
  deriving DecidableEq, Repr

/-- True of the causes that more text could mend. -/
def Cause.isEnd : Cause → Bool
  | .endInValue | .endInArray | .endInObject | .string .unclosed => true
  | _ => false

/-- The wording of a cause. -/
def Cause.message : Cause → String
  | .endInValue => "EOF while parsing a value"
  | .endInArray => "EOF while parsing a list"
  | .endInObject => "EOF while parsing an object"
  | .notKeyword => "expected ident"
  | .notValue => "expected value"
  | .noColon => "expected \x60:\x60"
  | .arrayNotClosed => "expected \x60,\x60 or \x60]\x60"
  | .objectNotClosed => "expected \x60,\x60 or \x60\x7d\x60"
  | .keyNotString => "key must be a string"
  | .trailingComma => "trailing comma"
  | .trailingText => "trailing characters"
  | .badNumber => "invalid number"
  | .numberTooGreat => "number out of range"
  | .nestedTooDeep => "recursion limit exceeded"
  | .string .unclosed => "EOF while parsing a string"
  | .string .controlCharacter =>
    "control character (\\u0000-\\u001F) found while parsing a string"
  | .string .badEscape => "invalid escape"
  | .string .loneSurrogate => "lone leading surrogate in hex escape"
  | .string .unpairedSurrogate => "unexpected end of hex escape"

/-- Line and column reached after reading some characters from a place. -/
def advance : Nat × Nat → List Char → Nat × Nat
  | place, [] => place
  | (line, column), c :: rest =>
    if c = '\n' then advance (line + 1, 0) rest else advance (line, column + c.utf8Size) rest

/-- The wording of a fault met in a text. -/
def Fault.message (text : List Char) (fault : Fault) : String :=
  let (line, column) := advance (1, 0) (text.take (text.length - fault.unread.length))
  fault.cause.message ++ " at line " ++ toString line ++ " column " ++ toString column

end RowFilter.Json
