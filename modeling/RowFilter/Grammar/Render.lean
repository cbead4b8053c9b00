import RowFilter.Decimal.Layout
import RowFilter.Grammar.Operation
import RowFilter.Json.Printer
import RowFilter.Text.Quoted

/-!
# The text of a filter

The grammar puts every operator in front of its operands and a pair of
parentheses around both:

> `expr = atom | symbol | "(" OP expr* ")"`,
> `symbol = COLUMN | "(" "JSON_EXTRACT" COLUMN STRING ")"`,
> `atom = STRING | NUMBER | "true" | "false"`.

One space stands between the parts. Column names are written as they are, texts
as double-quoted literals, and numbers in decimal without an exponent.

This is the serializer of the specification (section 4.1).
-/

namespace RowFilter

/-- An atom as the grammar writes it. -/
def Atom.render : Atom → List Char
  | .string text => Text.Quoted.encode text.toList
  | .integer n => Decimal.integer n.toInt
  | .unsigned n => Decimal.integer n.toNat
  | .double x => Decimal.double Decimal.plain x
  | .boolean value => Json.boolText value

/-- A symbol as the grammar writes it. -/
def Symbol.render : Symbol → List Char
  | .column name => name.toList
  | .pointer document path =>
    '(' :: Token.jsonExtract.chars ++ ' ' :: document.toList ++ ' ' ::
      Text.Quoted.encode path.toList ++ [')']

namespace Operation

mutual

/-- An operation as the grammar writes it. -/
def render : Operation → List Char
  | .atom value => value.render
  | .symbol target => target.render
  | .comparison op target value =>
    '(' :: op.token.chars ++ ' ' :: target.render ++ ' ' :: value.render ++ [')']
  | .equality op target value =>
    '(' :: op.token.chars ++ ' ' :: target.render ++ ' ' :: value.render ++ [')']
  | .contains target value =>
    '(' :: Token.contains.chars ++ ' ' :: target.render ++ ' ' :: value.render ++ [')']
  | .nullCheck op target => '(' :: op.token.chars ++ ' ' :: target.render ++ [')']
  | .logic op first rest =>
    '(' :: op.token.chars ++ ' ' :: render first ++ renderMore rest ++ [')']
  | .negation inner => '(' :: Token.not.chars ++ ' ' :: render inner ++ [')']

/-- Further operands, a space in front of each. -/
def renderMore : List Operation → List Char
  | [] => []
  | operand :: rest => ' ' :: render operand ++ renderMore rest

end

/-- The text of a filter. -/
def text (operation : Operation) : String := String.ofList operation.render

end Operation

/-- The text of an atom. -/
def Atom.text (atom : Atom) : String := String.ofList atom.render

/-- An integer as an atom is written as JSON writes it. -/
theorem Atom.render_ofNumber?_integer {n : Int}
    {inRange : -0x8000000000000000 ≤ n ∧ n < 0x10000000000000000} {atom : Atom}
    (h : ofNumber? (.integer n inRange) = some atom) : atom.render = Decimal.integer n := by
  rcases Int.lt_or_le n 0x8000000000000000 with hn | hn
  · obtain ⟨i, rfl, hi⟩ := ofNumber?_of_lt inRange hn
    obtain rfl := Option.some.inj (hi.symm.trans h)
    rfl
  · obtain ⟨u, rfl, hu⟩ := ofNumber?_of_le inRange hn
    obtain rfl := Option.some.inj (hu.symm.trans h)
    rfl

/-- The text of a symbol. -/
def Symbol.text (symbol : Symbol) : String := String.ofList symbol.render

end RowFilter
