import RowFilter.Source.Registry
import RowFilter.Tree.Build

/-!
# Compiled sources

A definition is checked once, before any tree is read, so that no tree can fail
because of it: the document's column must be listed as JSON, every place in the
document must be a path, and every column that a field stands for must be listed.
A compiled source carries these facts.

> `SourceConfig.compile`: the source, or the first of the three checks that fails,
> with the first entry that fails it.

This is the validation of a source when settings are loaded (section 4.5 of the
specification).
-/

namespace RowFilter

/-- Why a definition cannot be used. -/
inductive ConfigError where
  | unknownSource (name : String) (available : List String)
  | documentFieldNotJson (field source : String)
  | notAPath (pointer source : String)
  | targetNotWhitelisted (key source target : String)
  deriving DecidableEq, Repr

/-- The wording of an error. -/
def ConfigError.message : ConfigError → String
  | .unknownSource name available =>
    "Config: Unknown source '" ++ name ++ "' (available: "
      ++ ", ".intercalate available ++ ")"
  | .documentFieldNotJson field source =>
    "Config: Document field '" ++ field ++ "' of source '" ++ source
      ++ "' must be whitelisted with type json"
  | .notAPath pointer source =>
    "Config: Config field '" ++ pointer ++ "' of source '" ++ source
      ++ "' must start with '" ++ String.singleton pathMarker ++ "'"
  | .targetNotWhitelisted key source target =>
    "Config: Column '" ++ key ++ "' of source '" ++ source ++ "' targets '" ++ target
      ++ "', which is not whitelisted"

/-- A source whose definition has been checked. -/
structure DataSource where
  name : String
  endpoint : String
  context : Context
  registry : Registry
  configFields : List ConfigField
  documentIsJson : context.columnType? context.documentField = some .json
  pointersArePaths : ∀ field ∈ configFields, isPath field.pointer = true
  targetsAreListed : ∀ column ∈ registry.columns, context.isWhitelisted column.target = true

/-- What a filter of a definition's source may refer to. Of two entries for the
same column the later one counts. -/
def SourceConfig.context (config : SourceConfig) : Context where
  documentField := config.documentField
  whitelist := Keyed.ofPairs (config.whitelist.map fun entry => (entry.column, entry.columnType))

/-- The source of a definition. -/
def SourceConfig.compile (name : String) (config : SourceConfig) :
    Except ConfigError DataSource :=
  if document : config.context.columnType? config.context.documentField = some .json then
    match paths : config.configFields.find? fun field => !isPath field.pointer with
    | some field => .error (.notAPath field.pointer name)
    | none =>
      match targets : config.columns.find? fun column =>
          !config.context.isWhitelisted column.target with
      | some column => .error (.targetNotWhitelisted column.key name column.target)
      | none => .ok
        { name := name
          endpoint := config.endpoint
          context := config.context
          registry := ⟨config.columns⟩
          configFields := config.configFields
          documentIsJson := document
          pointersArePaths := by simpa using paths
          targetsAreListed := by simpa using targets }
  else .error (.documentFieldNotJson config.documentField name)

/-- What filters of a source are built for. -/
def DataSource.scope (source : DataSource) (maxDepth : Nat) : Scope :=
  ⟨source.context, source.registry, maxDepth⟩

end RowFilter
