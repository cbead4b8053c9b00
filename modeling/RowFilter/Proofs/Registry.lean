import RowFilter.Proofs.Keyed
import RowFilter.Source.Registry

/-!
# What a key leads to

A key is looked up in the index of a registry, which has a position for it and not the
column. The index is filled from the first column to the last, so the position is that of
the last column with the key:

> `get?_eq_find?`: what the index leads to is what a search from the end finds;
> `get?_eq_some_iff`, `get?_eq_none_iff`: it is the last column with the key, and there is
> nothing only if no column has it.
-/

namespace RowFilter.Registry

variable {registry : Registry} {key : String} {column : Column}

/-- What the index leads to is the first column with the key from the end. -/
theorem get?_eq_find? (registry : Registry) (key : String) :
    registry.get? key = registry.columns.reverse.find? (·.key = key) := by
  have hcolumns : registry.columns.reverse = registry.columns.zipIdx.reverse.map Prod.fst := by
    rw [List.map_reverse, List.zipIdx_map_fst]
  rw [get?, index, Keyed.get?_ofPairs, ← List.map_reverse, List.find?_map, hcolumns,
    List.find?_map]
  -- both sides look for one entry, and its position is where its column stands
  show ((registry.columns.zipIdx.reverse.find? fun entry => entry.1.key = key).map _ |>.map _
    |>.bind _) = (registry.columns.zipIdx.reverse.find? fun entry => entry.1.key = key).map _
  cases hfound : registry.columns.zipIdx.reverse.find? fun entry => entry.1.key = key with
  | none => rfl
  | some entry =>
    have hmem := List.mem_reverse.mp (List.mem_of_find?_eq_some hfound)
    exact List.mem_zipIdx_iff_getElem?.mp hmem

/-- What answers to a key is the last column with it. -/
theorem get?_eq_some_iff :
    registry.get? key = some column ↔ IsLast (·.key = key) registry.columns column := by
  rw [isLast_iff_find?, get?_eq_find?]

/-- What answers to a key is a column with that key. -/
theorem mem_of_get? (h : registry.get? key = some column) :
    column ∈ registry.columns ∧ column.key = key := by
  have hlast := get?_eq_some_iff.mp h
  exact ⟨hlast.mem, hlast.1⟩

theorem get?_eq_none_iff :
    registry.get? key = none ↔ ∀ column ∈ registry.columns, column.key ≠ key := by
  rw [get?_eq_find?, List.find?_eq_none]
  constructor
  · intro h column hc he
    exact h column (List.mem_reverse.mpr hc) (decide_eq_true he)
  · intro h column hc he
    exact h column (List.mem_reverse.mp hc) (of_decide_eq_true he)

end RowFilter.Registry
