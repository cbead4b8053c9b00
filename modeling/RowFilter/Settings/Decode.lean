import RowFilter.Settings.Fault
import RowFilter.Source.Settings

/-!
# Reading settings from a value

A `Reading` says how to look at one kind of value: which tables and lists it
holds, and what it gives where a text, a count or a choice is wanted. Two are
used, one that takes every value at its word and one that converts between
scalars; the shape of the settings is stated once for both.

> A record is a table of its fields, in any order and with other keys ignored, or
> the list of its fields in the order of their declaration.

Fields are read in the order of the value, so the first fault in that order is
the one reported; a field that is missing is reported after all that are there.
-/

namespace RowFilter.Settings

/-- How to look at values of one kind. -/
structure Reading (ν : Type) where
  /-- What a message shows of a value. -/
  found : ν → Found
  /-- The members of a table. -/
  table? : ν → Option (List (String × ν))
  /-- The items of a list. -/
  list? : ν → Option (List ν)
  /-- The text that a value gives. -/
  text : ν → Except Fault String
  /-- The count that a value gives. -/
  count : ν → Except Fault Nat
  /-- What may stand beside the name of a choice. -/
  payload : ν → Except Fault Unit
  /-- Whether a list given for a record may have more items than the record fields. -/
  extraItems : Bool

/-- A field of a record: its name, whether it has to be there, and how it is set. -/
structure Field (ν σ : Type) where
  name : String
  required : Bool
  set : ν → σ → Except Fault σ

/-- A record: its name, its fields in the order of declaration, and what it is
before any field is set. -/
structure Record (ν σ : Type) where
  name : String
  fields : List (Field ν σ)
  blank : σ

variable {ν σ τ : Type}

/-- A field whose value is decoded and then put into the record. -/
def Field.of (name : String) (required : Bool) (decode : ν → Except Fault τ)
    (put : τ → σ → σ) : Field ν σ where
  name := name
  required := required
  set value record := (decode value).map (put · record)

namespace Record

/-- Sets the fields that a table names, in the table's order. -/
def setMembers (record : Record ν σ) : List (String × ν) → σ → Except Fault σ
  | [], state => .ok state
  | (key, value) :: rest, state =>
    match record.fields.find? (·.name = key) with
    | none => setMembers record rest state
    | some field =>
      match field.set value state with
      | .error fault => .error fault
      | .ok state => setMembers record rest state

/-- Sets fields to items in the order of declaration. -/
def setItems : List (Field ν σ) → List ν → σ → Except Fault σ
  | field :: fields, item :: items, state =>
    match field.set item state with
    | .error fault => .error fault
    | .ok state => setItems fields items state
  | _, _, state => .ok state

end Record

namespace Reading

/-- A record. -/
def record (reading : Reading ν) (shape : Record ν σ) (value : ν) : Except Fault σ :=
  match reading.table? value with
  | some members =>
    match shape.setMembers members shape.blank with
    | .error fault => .error fault
    | .ok state =>
      match shape.fields.find? fun field =>
          field.required && !members.any (·.1 = field.name) with
      | some field => .error (.missing field.name)
      | none => .ok state
  | none =>
    match reading.list? value with
    | some items =>
      match Record.setItems shape.fields items shape.blank with
      | .error fault => .error fault
      | .ok state =>
        match (shape.fields.drop items.length).findIdx? (·.required) with
        | some index =>
          .error (.tooShort (items.length + index) shape.name shape.fields.length)
        | none =>
          if shape.fields.length < items.length && !reading.extraItems then
            .error (.tooLong items.length)
          else .ok state
    | none => .error (.wrongType (reading.found value) (.record shape.name))

/-- A list of things of one kind. -/
def list (reading : Reading ν) (item : ν → Except Fault τ) (value : ν) :
    Except Fault (List τ) :=
  match reading.list? value with
  | some items => items.mapM item
  | none => .error (.wrongType (reading.found value) .list)

/-- A table of things of one kind. -/
def table (reading : Reading ν) (entry : ν → Except Fault τ) (value : ν) :
    Except Fault (List (String × τ)) :=
  match reading.table? value with
  | some members => members.mapM fun (key, value) => (entry value).map (key, ·)
  | none => .error (.wrongType (reading.found value) .table)

/-- A thing that may be absent, which `null` says. -/
def optional (reading : Reading ν) (item : ν → Except Fault τ) (value : ν) :
    Except Fault (Option τ) :=
  if reading.found value = .null then .ok none else (item value).map some

/-- One of several names, alone or as the only key of a table. -/
def choice (reading : Reading ν) (choices : List (String × τ)) (value : ν) :
    Except Fault τ :=
  let named (name : String) : Except Fault τ :=
    match Keyed.get? name choices with
    | some chosen => .ok chosen
    | none => .error (.unknownChoice name (choices.map (·.1)))
  match reading.table? value with
  | some [(name, payload)] =>
    match named name with
    | .error fault => .error fault
    | .ok chosen => (reading.payload payload).map fun _ => chosen
  | some _ => .error (.wrongValue .table .singleKey)
  | none =>
    match reading.found value with
    | .text name => named name
    | other => .error (.wrongType other .choice)

end Reading

/-! ## The shape of settings -/

/-- The names of column types. -/
def columnTypes : List (String × ColumnType) :=
  [("string", .string), ("number", .number), ("boolean", .boolean), ("datetime", .datetime),
    ("json", .json)]

/-- The names of field types. -/
def fieldTypes : List (String × FieldType) :=
  [("string", .string), ("number", .number), ("datetime", .datetime)]

/-- The names of editors. -/
def editors : List (String × Editor) :=
  [("checkbox", .checkbox), ("colorEditor", .colorEditor), ("dropdown", .dropdown),
    ("mappingEditor", .mappingEditor), ("numeric", .numeric),
    ("primitiveListEditor", .primitiveListEditor), ("textarea", .textarea),
    ("textfield", .textfield)]

namespace Reading

variable (reading : Reading ν)

/-- A column that a filter may name. -/
def whitelistEntry : ν → Except Fault WhitelistEntry :=
  reading.record
    { name := "WhitelistEntry"
      blank := ⟨"", .string⟩
      fields :=
        [.of "column" true reading.text fun v r => { r with column := v },
          .of "type" true (reading.choice columnTypes) fun v r => { r with columnType := v }] }

/-- A field that stands for a column. -/
def column : ν → Except Fault Column :=
  reading.record
    { name := "ReadOnlyColumn"
      blank := ⟨"", "", .string, ""⟩
      fields :=
        [.of "key" true reading.text fun v r => { r with key := v },
          .of "label" true reading.text fun v r => { r with label := v },
          .of "type" true (reading.choice fieldTypes) fun v r => { r with fieldType := v },
          .of "target" true reading.text fun v r => { r with target := v }] }

/-- A place in the document. -/
def configField : ν → Except Fault ConfigField :=
  reading.record
    { name := "ConfigField"
      blank := ⟨"", .textfield, none⟩
      fields :=
        [.of "pointer" true reading.text fun v r => { r with pointer := v },
          .of "editor" true (reading.choice editors) fun v r => { r with editor := v },
          .of "enum_options" false (reading.optional (reading.list reading.text)) fun v r =>
            { r with options := v }] }

/-- The definition of a source. -/
def sourceConfig : ν → Except Fault SourceConfig :=
  reading.record
    { name := "SourceConfig"
      blank := ⟨"", "", [], [], []⟩
      fields :=
        [.of "endpoint" true reading.text fun v r => { r with endpoint := v },
          .of "document_field" true reading.text fun v r => { r with documentField := v },
          .of "whitelist" true (reading.list reading.whitelistEntry) fun v r =>
            { r with whitelist := v },
          .of "columns" true (reading.list reading.column) fun v r => { r with columns := v },
          .of "config_fields" false (reading.list reading.configField) fun v r =>
            { r with configFields := v }] }

/-- Settings. -/
def settings : ν → Except Fault Settings :=
  reading.record
    { name := "Settings"
      blank := ⟨defaultMaxDepth, []⟩
      fields :=
        [.of "max_depth" false reading.count fun v r => { r with maxDepth := v },
          .of "sources" true (reading.table reading.sourceConfig) fun v r =>
            { r with sources := v }] }

end Reading

end RowFilter.Settings
