import RowFilter.Source.Config

/-!
# The columns of a source by key

A registry keeps the columns in the order in which they were configured. Its index
has the position that each key leads to. Where two columns have the same key, the
position of the later one is put over that of the earlier one:

> `Registry.get?`: the column at the position that the index has for a key, which is
> the last column with that key.

This is the registry of read-only columns of the specification (section 3).
-/

namespace RowFilter

/-- The fields that stand for columns, in order. -/
structure Registry where
  columns : List Column
  deriving DecidableEq, Repr

namespace Registry

/-- The position that each key leads to. -/
def index (registry : Registry) : List (String × Nat) :=
  Keyed.ofPairs (registry.columns.zipIdx.map fun entry => (entry.1.key, entry.2))

/-- The column that a key leads to. -/
def get? (registry : Registry) (key : String) : Option Column :=
  (Keyed.get? key registry.index).bind fun position => registry.columns[position]?

/-- How many columns there are, those that share a key included. -/
def size (registry : Registry) : Nat := registry.columns.length

/-- True of a registry without columns. -/
def isEmpty (registry : Registry) : Bool := registry.columns.isEmpty

end Registry

end RowFilter
