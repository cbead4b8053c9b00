import RowFilter.Text.Hidden

/-!
# Quoted text in messages

A message that quotes a value shows it between double quotes so that every
character can be told apart: tab, carriage return, line feed and the NUL
character by their usual letters, the quote and the backslash behind a
backslash, and every hidden character as its code point in braces. This is a
form for people; `RowFilter.Text.Quoted` is the one that programs read back.
-/

namespace RowFilter.Text.Visible

/-- The lowercase hexadecimal digits of a number. -/
def hex (n : Nat) : List Char := Nat.toDigits 16 n

/-- How a message shows one character. -/
def escape (c : Char) : List Char :=
  if c = '\t' then ['\\', 't']
  else if c = '\r' then ['\\', 'r']
  else if c = '\n' then ['\\', 'n']
  else if c = '\x00' then ['\\', '0']
  else if c = '"' then ['\\', '"']
  else if c = '\\' then ['\\', '\\']
  else if isHidden c then ['\\', 'u', '\x7b'] ++ hex c.toNat ++ ['\x7d']
  else [c]

/-- A text as a message quotes it. -/
def quote (text : String) : String :=
  String.ofList ('"' :: text.toList.flatMap escape ++ ['"'])

/-- A text that may be absent, as a message shows it. -/
def optional : Option String → String
  | none => "None"
  | some text => "Some(" ++ quote text ++ ")"

end RowFilter.Text.Visible
