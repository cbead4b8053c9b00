import RowFilter.Source.Compile

/-!
# Settings

Settings are a depth bound for filter trees and the definitions of the sources,
each under its name.

> `Settings.source`: the compiled source of a name. An unknown name is an error
> that lists the known ones in order.

These are the settings of section 4.5 of the specification.
-/

namespace RowFilter

/-- A depth bound and the definitions of the sources by name. -/
structure Settings where
  maxDepth : Nat
  sources : List (String × SourceConfig)
  deriving DecidableEq, Repr

namespace Settings

/-- The names of the sources in the order of their characters. -/
def names (settings : Settings) : List String :=
  (settings.sources.map (·.1)).mergeSort fun a b => a ≤ b

/-- The compiled source of a name. -/
def source (settings : Settings) (name : String) : Except ConfigError DataSource :=
  match Keyed.get? name settings.sources with
  | some config => config.compile name
  | none => .error (.unknownSource name settings.names)

end Settings

end RowFilter
