import RowFilter.Grammar.Operation
import RowFilter.Proofs.Grammar.SExpr

/-!
# Reading a filter's text

A reader of the grammar, made without looking at how filters are written: it takes a
text apart into words, literals and parentheses (`SExpr.read`) and then says by the
first word of each pair of parentheses what it is.

> `expr = atom | symbol | "(" OP expr* ")"`,
> `symbol = COLUMN | "(" "JSON_EXTRACT" COLUMN STRING ")"`,
> `atom = STRING | NUMBER | "true" | "false"`.

What it gives is an `Expression`: an operation in which a number is known by its
digits, since a text does not say how a number is stored.
-/

namespace RowFilter

/-! ## What can be read -/

/-- A literal as a text tells it. -/
inductive Literal where
  | string (text : String)
  | number (digits : List Char)
  | boolean (value : Bool)
  deriving DecidableEq, Repr

/-- A condition as a text tells it. -/
inductive Condition where
  | comparison (op : ComparisonOperator) (target : Symbol) (value : Literal)
  | equality (op : EqualityOperator) (target : Symbol) (value : Literal)
  | contains (target : Symbol) (value : Literal)
  | nullCheck (op : NullCheckOperator) (target : Symbol)
  deriving DecidableEq, Repr

/-- A filter as a text tells it. -/
inductive Expression where
  | literal (value : Literal)
  | symbol (target : Symbol)
  | condition (condition : Condition)
  | logic (op : LogicOperator) (first : Expression) (rest : List Expression)
  | negation (inner : Expression)
  deriving Repr

/-! ## The reader -/

/-- The operator that a word is. -/
def Token.ofChars? (chars : List Char) : Option Token :=
  Token.all.find? fun token => token.chars = chars

namespace Literal

/-- The literal that a word is; other words are names. -/
def ofWord? (word : List Char) : Option Literal :=
  if word = ['t', 'r', 'u', 'e'] then some (.boolean true)
  else if word = ['f', 'a', 'l', 's', 'e'] then some (.boolean false)
  else if Decimal.isDecimal word then some (.number word)
  else none

/-- The literal that stands where one is needed. -/
def ofSExpr? : SExpr → Option Literal
  | .word word => ofWord? word
  | .quoted chars => some (.string (String.ofList chars))
  | .list .. => none

end Literal

/-- The symbol that stands where one is needed. -/
def Symbol.ofSExpr? : SExpr → Option Symbol
  | .word name => some (.column (String.ofList name))
  | .list (.word op) [.word document, .quoted path] =>
    if op = Token.jsonExtract.chars then
      some (.pointer (String.ofList document) (String.ofList path))
    else none
  | _ => none

namespace Condition

/-- A condition on the two operands of an operator. -/
def binary? (make : Symbol → Literal → Condition) : List SExpr → Option Expression
  | [target, value] =>
    (Symbol.ofSExpr? target).bind fun target =>
      (Literal.ofSExpr? value).map fun value => .condition (make target value)
  | _ => none

/-- A condition on the only operand of an operator. -/
def unary? (make : Symbol → Condition) : List SExpr → Option Expression
  | [target] => (Symbol.ofSExpr? target).map fun target => .condition (make target)
  | _ => none

end Condition

namespace Expression

/-- AND or OR of expressions, of which there must be one. -/
def logic? (op : LogicOperator) : List Expression → Option Expression
  | [] => none
  | first :: rest => some (.logic op first rest)

/-- NOT of a single expression. -/
def negation? : List Expression → Option Expression
  | [inner] => some (.negation inner)
  | _ => none

/-- An operator with its operands, which are given as they stand and as expressions. -/
def headed? (operands : List SExpr) (expressions : Option (List Expression)) :
    Token → Option Expression
  | .and => expressions.bind (logic? .and)
  | .or => expressions.bind (logic? .or)
  | .not => expressions.bind negation?
  | .less => Condition.binary? (.comparison .less) operands
  | .lessOrEqual => Condition.binary? (.comparison .lessOrEqual) operands
  | .greater => Condition.binary? (.comparison .greater) operands
  | .greaterOrEqual => Condition.binary? (.comparison .greaterOrEqual) operands
  | .equal => Condition.binary? (.equality .equal) operands
  | .unequal => Condition.binary? (.equality .unequal) operands
  | .contains => Condition.binary? .contains operands
  | .isNull => Condition.unary? (.nullCheck .isNull) operands
  | .isNotNull => Condition.unary? (.nullCheck .isNotNull) operands
  | .jsonExtract =>
    (Symbol.ofSExpr? (.list (.word Token.jsonExtract.chars) operands)).map .symbol

mutual

/-- The expression that a part of a text is. -/
def ofSExpr? : SExpr → Option Expression
  | .word word =>
    some <|
      match Literal.ofWord? word with
      | some value => .literal value
      | none => .symbol (.column (String.ofList word))
  | .quoted chars => some (.literal (.string (String.ofList chars)))
  | .list (.word op) operands =>
    (Token.ofChars? op).bind (headed? operands (ofSExprs? operands))
  | .list _ _ => none

/-- The expressions that several parts are. -/
def ofSExprs? : List SExpr → Option (List Expression)
  | [] => some []
  | part :: rest =>
    match ofSExpr? part, ofSExprs? rest with
    | some expression, some expressions => some (expression :: expressions)
    | _, _ => none

end

/-- The expression at the front of a text, and the text behind it. -/
def readFront (text : List Char) : Option (Expression × List Char) :=
  match SExpr.read text with
  | none => none
  | some (part, ⟨rest, _⟩) => (ofSExpr? part).map fun expression => (expression, rest)

/-- The expression that a whole text is. -/
def read (text : String) : Option Expression :=
  match readFront text.toList with
  | some (expression, []) => some expression
  | _ => none

end Expression

end RowFilter
