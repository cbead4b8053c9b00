import RowFilter.Error
import RowFilter.Keyed

/-!
# Columns a filter may name

A source lists the columns that a filter may name, each with its type, and says
which of them holds the JSON document. A `Symbol` is a reference that has passed
that list:

> `Context.column`: a column, if it is listed;
> `Context.pointer`: a place in the document, if the document's column is listed as JSON.

This is the operation context of the specification, with its column and pointer symbols
(section 3).
-/

namespace RowFilter

/-- The type of a column. -/
inductive ColumnType where
  | string
  | number
  | boolean
  | datetime
  | json
  deriving DecidableEq, Repr

/-- What a filter of one source may refer to. -/
structure Context where
  /-- The column that holds the JSON document. -/
  documentField : String
  /-- The columns a filter may name. -/
  whitelist : List (String × ColumnType)
  /-- No column is listed twice. -/
  [distinct : Keyed.Distinct whitelist]
  deriving DecidableEq, Repr

/-- A reference to a column or to a place in the document of one. -/
inductive Symbol where
  | column (name : String)
  | pointer (document path : String)
  deriving DecidableEq, Repr

namespace Symbol

/-- The column's name, if the reference is one to a column. -/
def column? : Symbol → Option String
  | .column name => some name
  | .pointer .. => none

/-- The place in the document, if the reference is one to a document. -/
def pointer? : Symbol → Option String
  | .column _ => none
  | .pointer _ path => some path

end Symbol

namespace Context

/-- The type of a listed column. -/
def columnType? (context : Context) (column : String) : Option ColumnType :=
  Keyed.get? column context.whitelist

/-- True of a listed column. -/
def isWhitelisted (context : Context) (column : String) : Bool :=
  (context.columnType? column).isSome

/-- A reference to a column, which must be listed. -/
def column (context : Context) (name : String) : Except FilterError Symbol :=
  if context.isWhitelisted name then .ok (.column name)
  else .error (.columnNotWhitelisted name)

/-- A reference into the document, whose column must be listed as JSON. -/
def pointer (context : Context) (path : String) : Except FilterError Symbol :=
  if context.columnType? context.documentField = some .json then
    .ok (.pointer context.documentField path)
  else .error (.documentFieldNotJson context.documentField)

end Context

end RowFilter
