import RowFilter.Grammar.Context

/-!
# Source definitions

A source is a table that can be filtered. Its definition names the endpoint that
serves the rows, the column that holds the JSON document, the columns a filter
may name, the fields that the query builder offers for columns, and the places
in the document that it offers as fields.

These are the parts of a source variant as the settings define it (sections 3 and 4.5 of the
specification).
-/

namespace RowFilter

/-- The kind of widget a column's field is edited with. -/
inductive FieldType where
  | string
  | number
  | datetime
  deriving DecidableEq, Repr

/-- A field of the query builder that stands for a column. -/
structure Column where
  key : String
  label : String
  fieldType : FieldType
  /-- The column that the field stands for. -/
  target : String
  deriving DecidableEq, Repr

/-- How a place in the document is edited in the grid. -/
inductive Editor where
  | checkbox
  | colorEditor
  | dropdown
  | mappingEditor
  | numeric
  | primitiveListEditor
  | textarea
  | textfield
  deriving DecidableEq, Repr

/-- A place in the document that the query builder may offer as a field. -/
structure ConfigField where
  pointer : String
  editor : Editor
  /-- The choices of a field that has a fixed list of them. -/
  options : Option (List String)
  deriving DecidableEq, Repr

/-- A column that a filter may name. -/
structure WhitelistEntry where
  column : String
  columnType : ColumnType
  deriving DecidableEq, Repr

/-- The definition of a source. -/
structure SourceConfig where
  endpoint : String
  documentField : String
  whitelist : List WhitelistEntry
  columns : List Column
  configFields : List ConfigField
  deriving DecidableEq, Repr

/-- Fields that start with this character are places in the document. -/
def pathMarker : Char := '/'

/-- True of a field that is a place in the document. -/
def isPath (field : String) : Bool := field.toList.head? == some pathMarker

end RowFilter
