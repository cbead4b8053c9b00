import RowFilter.Json.Basic
import RowFilter.Source.Compile

/-!
# Field definitions for the query builder

The query builder is told which fields it may offer: one for each column, under
the column's key, and one for each place in the document that has a widget, under
its path. Both lists are objects in JSON, so a key that occurs twice keeps its
first place and has its last definition.

This is the field configuration export of the specification (section 4.7), for columns and
for places in the document.
-/

namespace RowFilter

/-- The widget of a column's field. -/
def FieldType.widget : FieldType → String
  | .string => "text"
  | .number => "number"
  | .datetime => "datetime"

/-- The widget of a place in the document, unless the query builder has none for
its editor. -/
def Editor.widget? : Editor → Option String
  | .checkbox => some "boolean"
  | .dropdown => some "select"
  | .numeric => some "number"
  | .textarea | .textfield => some "text"
  | .colorEditor | .mappingEditor | .primitiveListEditor => none

/-- The members that every field definition starts with. -/
def fieldMembers (label widget : String) : List (String × Json) :=
  [("label", .string label), ("type", .string widget),
    ("valueSources", .array [.string "value"])]

/-- The definition of a column's field. -/
def Column.definition (column : Column) : Json :=
  .object (fieldMembers column.label column.fieldType.widget)

/-- The definition of a place in the document, if it has a widget. Its choices are
listed even if there are none. -/
def ConfigField.definition? (field : ConfigField) : Option Json :=
  field.editor.widget?.map fun widget =>
    let choices := (field.options.getD []).map Json.string
    .object (fieldMembers field.pointer widget
      ++ [("fieldSettings", .object [("listValues", .array choices)])])

/-- The fields of the columns by key. -/
def Registry.fields (registry : Registry) : List (String × Json) :=
  Keyed.ofPairs (registry.columns.map fun column => (column.key, column.definition))

/-- The fields of places in the document by path. -/
def configFieldDefinitions (fields : List ConfigField) : List (String × Json) :=
  Keyed.ofPairs (fields.filterMap fun field =>
    field.definition?.map fun definition => (field.pointer, definition))

end RowFilter
