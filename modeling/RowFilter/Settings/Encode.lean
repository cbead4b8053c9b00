import RowFilter.Json.Basic
import RowFilter.Settings.Decode

/-!
# Settings as JSON

Every record is written as an object of all its fields in the order of their
declaration. A list of choices that is absent is written as `null`, which is not
the same as a list of none.
-/

namespace RowFilter

/-- The name of a column type. -/
def ColumnType.name : ColumnType → String
  | .string => "string"
  | .number => "number"
  | .boolean => "boolean"
  | .datetime => "datetime"
  | .json => "json"

/-- The name of a field type. -/
def FieldType.name : FieldType → String
  | .string => "string"
  | .number => "number"
  | .datetime => "datetime"

/-- The name of an editor. -/
def Editor.name : Editor → String
  | .checkbox => "checkbox"
  | .colorEditor => "colorEditor"
  | .dropdown => "dropdown"
  | .mappingEditor => "mappingEditor"
  | .numeric => "numeric"
  | .primitiveListEditor => "primitiveListEditor"
  | .textarea => "textarea"
  | .textfield => "textfield"

/-- A whitelist entry as JSON. -/
def WhitelistEntry.toJson (entry : WhitelistEntry) : Json :=
  .object [("column", .string entry.column), ("type", .string entry.columnType.name)]

/-- A column as JSON. -/
def Column.toJson (column : Column) : Json :=
  .object
    [("key", .string column.key), ("label", .string column.label),
      ("type", .string column.fieldType.name), ("target", .string column.target)]

/-- Choices as JSON. -/
def choicesToJson : Option (List String) → Json
  | none => .null
  | some choices => .array (choices.map .string)

/-- A place in the document as JSON. -/
def ConfigField.toJson (field : ConfigField) : Json :=
  .object
    [("pointer", .string field.pointer), ("editor", .string field.editor.name),
      ("enum_options", choicesToJson field.options)]

/-- The definition of a source as JSON. -/
def SourceConfig.toJson (config : SourceConfig) : Json :=
  .object
    [("endpoint", .string config.endpoint), ("document_field", .string config.documentField),
      ("whitelist", .array (config.whitelist.map WhitelistEntry.toJson)),
      ("columns", .array (config.columns.map Column.toJson)),
      ("config_fields", .array (config.configFields.map ConfigField.toJson))]

end RowFilter
