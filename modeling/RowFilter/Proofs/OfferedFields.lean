import RowFilter.Proofs.CompiledSource
import RowFilter.Proofs.Keyed
import RowFilter.Source.Fields

/-!
# The fields that are offered

The query builder is told of fields by one pair of functions, and hands them back to
another that looks them up. Where several columns have one key, or several places one
path, each of the lists has to let the same entry win:

> `offered_fields_understood`: what is offered under a key is the definition of the column
> that answers to it, and what is offered under a path has that path as its place.

A place whose editor has no widget is passed over, so the last entry of a path wins among
those that have one.
-/

namespace RowFilter

namespace Registry

variable (registry : Registry)

/-- Every column is offered under its key, and no other field is. -/
theorem keys_fields :
    registry.fields.map Prod.fst = (registry.columns.map Column.key).eraseDups := by
  rw [fields, Keyed.keys_ofPairs, List.map_map]
  rfl

theorem nodup_keys_fields : (registry.fields.map Prod.fst).Nodup := (Keyed.distinct_ofPairs _).nodup

/-- Under a key stands the definition of the column that answers to it. -/
theorem mem_fields_iff {key : String} {definition : Json} :
    (key, definition) ∈ registry.fields ↔
      ∃ column, registry.get? key = some column ∧ column.definition = definition := by
  have hfind : Keyed.get? key registry.fields = (registry.get? key).map Column.definition := by
    rw [fields, Keyed.get?_ofPairs, ← List.map_reverse, List.find?_map, Option.map_map,
      get?_eq_find?]
    rfl
  rw [Keyed.mem_iff_get? registry.nodup_keys_fields, ← Option.map_eq_some_iff, ← hfind]

end Registry

namespace ConfigField

/-- True of a place that the query builder has a widget for. -/
def HasWidget (field : ConfigField) : Prop := field.editor.widget?.isSome = true

instance : DecidablePred HasWidget := fun _ => inferInstanceAs (Decidable (_ = true))

/-- What a place adds to the fields that are offered. -/
def offered? (field : ConfigField) : Option (String × Json) :=
  field.definition?.map fun definition => (field.pointer, definition)

theorem offered?_eq_some_iff {field : ConfigField} {pointer : String} {definition : Json} :
    field.offered? = some (pointer, definition) ↔
      field.pointer = pointer ∧ field.definition? = some definition := by
  rw [offered?, Option.map_eq_some_iff]
  constructor
  · rintro ⟨found, hfound, he⟩
    obtain ⟨hp, rfl⟩ := Prod.mk.inj he
    exact ⟨hp, hfound⟩
  · rintro ⟨rfl, hfound⟩
    exact ⟨definition, hfound, rfl⟩

/-- A place is offered under its path if it has a widget, and else not. -/
theorem offered?_cases (field : ConfigField) :
    (field.HasWidget ∧ ∃ definition, field.definition? = some definition ∧
        field.offered? = some (field.pointer, definition)) ∨
      ¬ field.HasWidget ∧ field.offered? = none := by
  unfold HasWidget offered? definition?
  generalize field.editor.widget? = widget
  cases widget with
  | none => exact Or.inr ⟨by simp, rfl⟩
  | some widget => exact Or.inl ⟨rfl, _, rfl, rfl⟩

end ConfigField

section

variable {fields : List ConfigField} {pointer : String} {definition : Json}

/-- Every path is offered that has a widget somewhere, and no other is. -/
theorem keys_configFieldDefinitions (fields : List ConfigField) :
    (configFieldDefinitions fields).map Prod.fst
      = ((fields.filter (·.HasWidget)).map ConfigField.pointer).eraseDups := by
  have hkeys : (fields.filterMap ConfigField.offered?).map Prod.fst
      = (fields.filter (·.HasWidget)).map ConfigField.pointer := by
    induction fields with
    | nil => rfl
    | cons field rest ih =>
      rcases field.offered?_cases with ⟨hw, definition, -, he⟩ | ⟨hw, he⟩
      · rw [List.filterMap_cons_some he, List.filter_cons, if_pos (decide_eq_true hw),
          List.map_cons, List.map_cons, ih]
      · rw [List.filterMap_cons_none he, List.filter_cons, if_neg (by simpa using hw), ih]
  rw [← hkeys]
  exact Keyed.keys_ofPairs _

theorem nodup_keys_configFieldDefinitions (fields : List ConfigField) :
    ((configFieldDefinitions fields).map Prod.fst).Nodup := (Keyed.distinct_ofPairs _).nodup

/-- Under a path stands the definition of the last entry of it that has a widget. -/
theorem mem_configFieldDefinitions_iff :
    (pointer, definition) ∈ configFieldDefinitions fields ↔
      ∃ field, IsLast (fun field => field.pointer = pointer ∧ field.HasWidget) fields field ∧
        field.definition? = some definition := by
  have hentry : ∀ field : ConfigField,
      (field.offered?.any fun pair => decide (pair.1 = pointer))
        = decide (field.pointer = pointer ∧ field.HasWidget) := by
    intro field
    rcases field.offered?_cases with ⟨hw, definition, -, he⟩ | ⟨hw, he⟩
    · rw [he]
      simp [hw]
    · rw [he]
      simp [hw]
  have hfind : Keyed.get? pointer (configFieldDefinitions fields)
      = ((fields.reverse.find? fun field => decide (field.pointer = pointer ∧ field.HasWidget)).bind
          ConfigField.offered?).map Prod.snd := by
    show Keyed.get? pointer (Keyed.ofPairs (fields.filterMap ConfigField.offered?)) = _
    rw [Keyed.get?_ofPairs, ← List.filterMap_reverse, List.find?_filterMap, funext hentry]
  rw [Keyed.mem_iff_get? (nodup_keys_configFieldDefinitions fields), hfind,
    Option.map_eq_some_iff]
  constructor
  · rintro ⟨⟨p, d⟩, hbind, rfl⟩
    obtain ⟨field, hf, he⟩ := Option.bind_eq_some_iff.mp hbind
    exact ⟨field, isLast_iff_find?.mpr hf, (ConfigField.offered?_eq_some_iff.mp he).2⟩
  · rintro ⟨field, hlast, hd⟩
    refine ⟨(pointer, definition), Option.bind_eq_some_iff.mpr ?_, rfl⟩
    exact ⟨field, isLast_iff_find?.mp hlast, ConfigField.offered?_eq_some_iff.mpr ⟨hlast.1.1, hd⟩⟩

end

/-- **The fields that are offered are those that are understood.** Columns are offered under
their keys, each where it came first. Under a key stands the definition of the last column
with it, the one that answers to the key; and the key stands for that column's target unless
it looks like a path. Places are offered under their paths, those with a widget only, each
where it came first. Under a path stands the definition of the last such entry, and the path
stands for itself. -/
theorem SourceConfig.offered_fields_understood {config : SourceConfig} {name : String}
    {source : DataSource} (h : config.compile name = .ok source) (maxDepth : Nat) :
    (source.registry.fields.map Prod.fst = (config.columns.map Column.key).eraseDups ∧
      (source.registry.fields.map Prod.fst).Nodup ∧
      (∀ key, key ∈ source.registry.fields.map Prod.fst ↔
        ∃ column, source.registry.get? key = some column) ∧
      ∀ key definition, (key, definition) ∈ source.registry.fields →
        ∃ column, source.registry.get? key = some column ∧
          IsLast (·.key = key) config.columns column ∧ column.definition = definition ∧
          (isPath key = false →
            (source.scope maxDepth).symbol key = .ok (.column column.target))) ∧
    (configFieldDefinitions source.configFields).map Prod.fst
        = ((config.configFields.filter (·.HasWidget)).map ConfigField.pointer).eraseDups ∧
      ((configFieldDefinitions source.configFields).map Prod.fst).Nodup ∧
      ∀ pointer definition, (pointer, definition) ∈ configFieldDefinitions source.configFields →
        (∃ field, IsLast (fun field => field.pointer = pointer ∧ field.HasWidget)
            config.configFields field ∧ field.definition? = some definition) ∧
        (source.scope maxDepth).symbol pointer = .ok (.pointer config.documentField pointer) := by
  obtain ⟨-, -, hcontext, hregistry, hfields⟩ := parts_of_compile h
  have hcolumns : source.registry.columns = config.columns := by rw [hregistry]
  refine ⟨⟨?_, source.registry.nodup_keys_fields, ?_, ?_⟩, ?_,
    nodup_keys_configFieldDefinitions _, ?_⟩
  · rw [Registry.keys_fields, hcolumns]
  · intro key
    rw [Registry.keys_fields, List.mem_eraseDups, List.mem_map]
    constructor
    · rintro ⟨column, hc, hkey⟩
      refine Option.ne_none_iff_exists'.mp fun hnone => ?_
      exact Registry.get?_eq_none_iff.mp hnone column hc hkey
    · rintro ⟨column, hget⟩
      exact ⟨column, Registry.mem_of_get? hget⟩
  · intro key definition hm
    obtain ⟨column, hget, hd⟩ := source.registry.mem_fields_iff.mp hm
    refine ⟨column, hget, ?_, hd, fun hpath => ?_⟩
    · rw [← hcolumns]
      exact Registry.get?_eq_some_iff.mp hget
    · exact DataSource.symbol_of_get? (by simp [hpath]) hget
  · rw [keys_configFieldDefinitions, hfields]
  · intro pointer definition hm
    obtain ⟨field, hlast, hd⟩ := mem_configFieldDefinitions_iff.mp hm
    refine ⟨⟨field, by rwa [← hfields], hd⟩, ?_⟩
    -- the paths of a source have been checked when it was compiled
    have hpath : isPath field.pointer = true :=
      source.pointersArePaths field hlast.mem
    rw [← hlast.1.1, DataSource.symbol_of_isPath hpath, hcontext]
    rfl

/-- A definition in which keys and paths come several times, and one path comes last with
an editor that has no widget. -/
def layeredConfig : SourceConfig where
  endpoint := "/pages"
  documentField := "config"
  whitelist := [⟨"title", .string⟩, ⟨"views", .number⟩, ⟨"config", .json⟩]
  columns := [⟨"name", "Name", .string, "title"⟩, ⟨"/type", "Type", .string, "title"⟩,
    ⟨"name", "Views", .number, "views"⟩]
  configFields := [⟨"/map", .colorEditor, none⟩, ⟨"/type", .textfield, none⟩,
    ⟨"/note", .textarea, none⟩, ⟨"/type", .dropdown, some ["Line", "Map"]⟩,
    ⟨"/type", .mappingEditor, none⟩]

/-- The source of that definition. -/
def layeredSource : DataSource where
  name := "pages"
  endpoint := "/pages"
  context :=
    { documentField := "config"
      whitelist := [("title", .string), ("views", .number), ("config", .json)]
      distinct := ⟨by decide⟩ }
  registry := ⟨layeredConfig.columns⟩
  configFields := layeredConfig.configFields
  documentIsJson := by decide
  pointersArePaths := by decide
  targetsAreListed := by decide

/-- The later of two columns is offered where the earlier one stands and answers to their
key; a path is offered as the dropdown, behind which only an editor without a widget comes. -/
theorem layeredConfig_fields_understood :
    ∃ source, layeredConfig.compile "pages" = .ok source ∧
      source.registry.fields.map Prod.fst = ["name", "/type"] ∧
      (∃ column, source.registry.get? "name" = some column ∧ column.label = "Views" ∧
        ("name", column.definition) ∈ source.registry.fields ∧
        (source.scope 1).symbol "name" = .ok (.column column.target)) ∧
      (configFieldDefinitions source.configFields).map Prod.fst = ["/type", "/note"] ∧
      ∃ field, field.editor = .dropdown ∧
        (∃ definition, field.definition? = some definition ∧
          ("/type", definition) ∈ configFieldDefinitions source.configFields) ∧
        IsLast (fun field => field.pointer = "/type" ∧ field.HasWidget)
          layeredConfig.configFields field ∧
        (source.scope 1).symbol "/type" = .ok (.pointer "config" "/type") := by
  have hcompile : layeredConfig.compile "pages" = .ok layeredSource := by rfl
  obtain ⟨⟨hkeys, -, -, hcolumn⟩, hpaths, -, hplace⟩ :=
    SourceConfig.offered_fields_understood hcompile 1
  refine ⟨layeredSource, hcompile, hkeys.trans (by decide), ?_, hpaths.trans (by decide), ?_⟩
  · have hm : ("name", Column.definition ⟨"name", "Views", .number, "views"⟩)
        ∈ layeredSource.registry.fields := List.mem_cons_self ..
    obtain ⟨column, hget, -, hd, hsymbol⟩ := hcolumn _ _ hm
    obtain rfl := Option.some.inj hget
    exact ⟨_, rfl, rfl, hm, hsymbol (by decide)⟩
  · have hm : ∃ definition, (ConfigField.mk "/type" .dropdown (some ["Line", "Map"])).definition?
          = some definition ∧
        ("/type", definition) ∈ configFieldDefinitions layeredSource.configFields :=
      ⟨_, rfl, List.mem_cons_self ..⟩
    obtain ⟨definition, hd, hmem⟩ := hm
    obtain ⟨-, hsymbol⟩ := hplace _ _ hmem
    exact ⟨_, rfl, ⟨definition, hd, hmem⟩, isLast_iff_find?.mpr (by decide), hsymbol⟩

end RowFilter
