/-!
# The operator words of the filter grammar

The server that runs a filter accepts exactly these spellings. Every operator of
an expression is written through this table, so two operators are told apart by
their words and no word holds a character that has a meaning of its own in the
grammar.

This is the table of surface tokens of the specification's grammar (section 4.1).
-/

namespace RowFilter

/-- The operator words of the grammar. -/
inductive Token where
  | and
  | or
  | not
  | less
  | lessOrEqual
  | greater
  | greaterOrEqual
  | equal
  | unequal
  | contains
  | isNull
  | isNotNull
  | jsonExtract
  deriving DecidableEq, Repr

namespace Token

/-- All words, in the order of the grammar's description. -/
def all : List Token :=
  [.and, .or, .not, .less, .lessOrEqual, .greater, .greaterOrEqual, .equal, .unequal,
    .contains, .isNull, .isNotNull, .jsonExtract]

/-- The spelling of a word. -/
def text : Token → String
  | .and => "AND"
  | .or => "OR"
  | .not => "NOT"
  | .less => "<"
  | .lessOrEqual => "<="
  | .greater => ">"
  | .greaterOrEqual => ">="
  | .equal => "="
  | .unequal => "<>"
  | .contains => "CONTAINS"
  | .isNull => "IS_NULL"
  | .isNotNull => "IS_NOT_NULL"
  | .jsonExtract => "JSON_EXTRACT"

/-- The characters of a word. -/
def chars (token : Token) : List Char := token.text.toList

end Token

end RowFilter
