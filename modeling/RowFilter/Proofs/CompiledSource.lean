import RowFilter.Proofs.Faults
import RowFilter.Proofs.Symbol
import RowFilter.Source.Compile

/-!
# Filters of a compiled source

The columns of a source are checked when it is compiled, and looked up by other functions
when a filter is built. Of entries for the same column and of columns with the same key
the later one counts in both, so that what has been checked is what is found:

> `symbol_cases`: a path or a key refers to something, and every other field is unknown;
> `fails_by_its_tree_only`: a filter fails because of its tree, never because of how the
> source is defined.
-/

namespace RowFilter

/-- A source has the name that its definition is compiled under, and otherwise what the
definition says. -/
theorem SourceConfig.parts_of_compile {config : SourceConfig} {name : String}
    {source : DataSource} (h : config.compile name = .ok source) :
    source.name = name ∧ source.endpoint = config.endpoint ∧ source.context = config.context ∧
      source.registry = ⟨config.columns⟩ ∧ source.configFields = config.configFields := by
  unfold compile at h
  split at h
  next =>
    split at h
    next => exact absurd h (by simp)
    next =>
      split at h
      next => exact absurd h (by simp)
      next =>
        obtain rfl := Except.ok.inj h
        exact ⟨rfl, rfl, rfl, rfl, rfl⟩
  next => exact absurd h (by simp)

/-- A source has the columns of its definition, and its filters may name what the
definition lists. -/
theorem SourceConfig.of_compile {config : SourceConfig} {name : String} {source : DataSource}
    (h : config.compile name = .ok source) :
    source.context = config.context ∧ source.registry.columns = config.columns := by
  obtain ⟨-, -, hcontext, hregistry, -⟩ := parts_of_compile h
  exact ⟨hcontext, by rw [hregistry]⟩

namespace DataSource

variable {source : DataSource} {maxDepth : Nat} {field : String}

/-- A path is a place in the document, whose column has been checked. -/
theorem symbol_of_isPath (h : isPath field = true) :
    (source.scope maxDepth).symbol field
      = .ok (.pointer source.context.documentField field) := by
  rw [Scope.symbol_of_isPath h]
  exact Context.pointer_eq_ok_iff.mpr ⟨source.documentIsJson, rfl⟩

/-- A key stands for the target of the column that answers to it, which has been checked
like that of every column. -/
theorem symbol_of_get? {column : Column} (hp : ¬ isPath field = true)
    (h : source.registry.get? field = some column) :
    (source.scope maxDepth).symbol field = .ok (.column column.target) := by
  rw [Scope.symbol_of_get? hp h]
  exact Context.column_eq_ok_iff.mpr
    ⟨source.targetsAreListed column (Registry.mem_of_get? h).1, rfl⟩

/-- True of a field that the source has: a path, or the key of a column. -/
def HasField (source : DataSource) (field : String) : Prop :=
  isPath field = true ∨ ∃ column ∈ source.registry.columns, column.key = field

/-- Either the source has a field and the field refers to something, or it is unknown. -/
theorem symbol_cases (source : DataSource) (maxDepth : Nat) (field : String) :
    (source.HasField field ∧ ∃ symbol, (source.scope maxDepth).symbol field = .ok symbol) ∨
      ¬ source.HasField field ∧
        (source.scope maxDepth).symbol field = .error (.unknownField field) := by
  rcases (source.scope maxDepth).symbol_cases field with
    ⟨hp, -⟩ | ⟨hp, column, hg, -⟩ | ⟨hp, hg, hunknown⟩
  · exact Or.inl ⟨Or.inl hp, _, symbol_of_isPath hp⟩
  · obtain ⟨hc, hkey⟩ := Registry.mem_of_get? hg
    exact Or.inl ⟨Or.inr ⟨column, hc, hkey⟩, _, symbol_of_get? hp hg⟩
  · refine Or.inr ⟨?_, hunknown⟩
    rintro (hpath | ⟨column, hc, hkey⟩)
    · exact hp hpath
    · exact Registry.get?_eq_none_iff.mp hg column hc hkey

/-- Nothing else is wrong with a field than that it is unknown. -/
theorem eq_unknownField_of_symbol {error : FilterError}
    (h : (source.scope maxDepth).symbol field = .error error) : error = .unknownField field := by
  rcases source.symbol_cases maxDepth field with ⟨-, symbol, hsymbol⟩ | ⟨-, hunknown⟩
  · exact absurd (h.symm.trans hsymbol) (by simp)
  · exact Except.error.inj (h.symm.trans hunknown)

end DataSource

/-- **A compiled source does not fail because of its definition.** Whatever the JSON value
and the depth bound, there is a filter or none, or a field is unknown, a conjunction is
unknown, or the tree is too deep. A field refers to something if and only if it is a path
or the key of a column in the definition, and else it is unknown. -/
theorem SourceConfig.fails_by_its_tree_only {config : SourceConfig} {name : String}
    {source : DataSource} (h : config.compile name = .ok source) (maxDepth : Nat) :
    (∀ value : Json,
      (∃ filter, (source.scope maxDepth).filterOfJson value = .ok filter) ∨
      (∃ field, (source.scope maxDepth).filterOfJson value = .error (.unknownField field)) ∨
      (∃ text, (source.scope maxDepth).filterOfJson value = .error (.unknownConjunction text)) ∨
      (source.scope maxDepth).filterOfJson value = .error (.tooDeep maxDepth)) ∧
    ∀ field : String,
      ((∃ symbol, (source.scope maxDepth).symbol field = .ok symbol) ↔
        isPath field = true ∨ ∃ column ∈ config.columns, column.key = field) ∧
      (¬ (isPath field = true ∨ ∃ column ∈ config.columns, column.key = field) →
        (source.scope maxDepth).symbol field = .error (.unknownField field)) := by
  refine ⟨?_, ?_⟩
  · intro value
    cases hfilter : (source.scope maxDepth).filterOfJson value with
    | ok filter => exact Or.inl ⟨filter, rfl⟩
    | error error =>
      -- of what a tree can fail by, only the field depends on how the source is defined
      rcases Scope.filter_error_cases hfilter with rfl | ⟨text, rfl⟩ | ⟨field, hfield⟩
      · exact Or.inr (Or.inr (Or.inr rfl))
      · exact Or.inr (Or.inr (Or.inl ⟨text, rfl⟩))
      · obtain rfl := DataSource.eq_unknownField_of_symbol hfield
        exact Or.inr (Or.inl ⟨field, rfl⟩)
  · intro field
    have hcolumns : source.HasField field ↔
        isPath field = true ∨ ∃ column ∈ config.columns, column.key = field := by
      rw [DataSource.HasField, (of_compile h).2]
    rw [← hcolumns]
    rcases source.symbol_cases maxDepth field with ⟨hhas, hsymbol⟩ | ⟨hnot, hunknown⟩
    · exact ⟨⟨fun _ => hhas, fun _ => hsymbol⟩, fun hnot => absurd hhas hnot⟩
    · refine ⟨⟨?_, fun hhas => absurd hhas hnot⟩, fun _ => hunknown⟩
      rintro ⟨symbol, hsymbol⟩
      exact absurd (hsymbol.symm.trans hunknown) (by simp)

/-- A definition in which the first entry for the document's column has the wrong type,
two columns have the same key, and the key of another looks like a path. -/
def crowdedConfig : SourceConfig where
  endpoint := "/pages"
  documentField := "config"
  whitelist := [⟨"config", .string⟩, ⟨"title", .string⟩, ⟨"config", .json⟩]
  columns := [⟨"name", "Name", .string, "title"⟩, ⟨"/type", "Type", .string, "title"⟩,
    ⟨"name", "Document", .string, "config"⟩]
  configFields := [⟨"/type", .dropdown, none⟩]

/-- The source of that definition. -/
def crowdedSource : DataSource where
  name := "pages"
  endpoint := "/pages"
  context :=
    { documentField := "config"
      whitelist := [("config", .json), ("title", .string)]
      distinct := ⟨by decide⟩ }
  registry := ⟨crowdedConfig.columns⟩
  configFields := crowdedConfig.configFields
  documentIsJson := by decide
  pointersArePaths := by decide
  targetsAreListed := by decide

/-- It compiles. The later column answers to the key that two have, the path wins over
the key that looks like one, and what is listed but is no key is unknown. -/
theorem crowdedConfig_fails_by_its_tree_only :
    ∃ source, crowdedConfig.compile "pages" = .ok source ∧
      (∀ value : Json,
        (∃ filter, (source.scope 1).filterOfJson value = .ok filter) ∨
        (∃ field, (source.scope 1).filterOfJson value = .error (.unknownField field)) ∨
        (∃ text, (source.scope 1).filterOfJson value = .error (.unknownConjunction text)) ∨
        (source.scope 1).filterOfJson value = .error (.tooDeep 1)) ∧
      (source.scope 1).symbol "name" = .ok (.column "config") ∧
      (∃ symbol, (source.scope 1).symbol "/type" = .ok symbol) ∧
      (source.scope 1).symbol "title" = .error (.unknownField "title") := by
  have hcompile : crowdedConfig.compile "pages" = .ok crowdedSource := by rfl
  obtain ⟨hfilter, hsymbol⟩ := SourceConfig.fails_by_its_tree_only hcompile 1
  refine ⟨crowdedSource, hcompile, hfilter, by rfl, ?_, ?_⟩
  · exact (hsymbol "/type").1.mpr (Or.inl (by decide))
  · exact (hsymbol "title").2 (by decide)

end RowFilter
