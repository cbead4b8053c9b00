import RowFilter.Decimal.Reading

/-!
# Scalars of YAML

A scalar without quotes is read as what it looks like: nothing, a truth value, an
integer in decimal, hexadecimal or octal, a decimal, and a text if it looks like none
of these. A scalar in quotes or in a block is always a text.

> `Scalar.kind`: what a scalar is without a tag.
> `Scalar.kindAs?`: what it is under the tag of a kind, if it can be that.
-/

namespace RowFilter.Yaml

/-- A scalar as it stands in the file. -/
structure Scalar where
  text : List Char
  /-- Whether it stands in quotes or in a block. -/
  quoted : Bool
  deriving DecidableEq, Repr

/-- What a scalar is. -/
inductive Kind where
  | null
  | bool (value : Bool)
  | integer (n : Int)
  /-- A decimal, or a word for an infinity or for no number, as it was written. -/
  | real
  | text
  deriving DecidableEq, Repr

/-- An integer with a base mark or a plus sign in front. -/
def markedInteger? : List Char → Option Int
  | '0' :: 'x' :: rest => Decimal.integer? 16 rest
  | '0' :: 'o' :: rest => Decimal.integer? 8 rest
  | '+' :: rest => Decimal.integer? 10 rest
  | _ => none

/-- The words for the truth. -/
def trueWords : List String := ["true", "True", "TRUE"]

/-- The words for the opposite. -/
def falseWords : List String := ["false", "False", "FALSE"]

/-- The words for an infinity or for no number. -/
def beyondWords : List String :=
  [".inf", ".Inf", ".INF", "+.inf", "+.Inf", "+.INF", "-.inf", "-.Inf", "-.INF", ".nan",
    ".NaN", ".NAN"]

/-- True of decimals and of the words for what lies beyond all numbers. -/
def isReal (text : List Char) : Bool :=
  beyondWords.contains (String.ofList text) || (Decimal.double? text).isSome

/-- What a scalar without quotes looks like. -/
def plainKind (text : List Char) : Kind :=
  match markedInteger? text with
  | some n => .integer n
  | none =>
    let word := String.ofList text
    if word = "" ∨ word = "~" ∨ word = "null" then .null
    else if word ∈ trueWords then .bool true
    else if word ∈ falseWords then .bool false
    else
      match Decimal.integer? 10 text with
      | some n => .integer n
      | none => if isReal text then .real else .text

/-- What a scalar is without a tag. -/
def Scalar.kind (scalar : Scalar) : Kind :=
  if scalar.quoted then .text else plainKind scalar.text

/-- What a scalar is under the tag of a kind. Only scalars without quotes can be other
than texts, and kinds that are not known are texts. -/
def Scalar.kindAs? (kind : String) (scalar : Scalar) : Option Kind :=
  let word := String.ofList scalar.text
  if scalar.quoted then some .text
  else if kind = "bool" then
    if word = "true" then some (.bool true)
    else if word = "false" then some (.bool false)
    else none
  else if kind = "int" then (Decimal.integer? 10 scalar.text).map .integer
  else if kind = "float" then if isReal scalar.text then some .real else none
  else if kind = "null" then if word = "~" ∨ word = "null" then some .null else none
  else some .text

end RowFilter.Yaml
