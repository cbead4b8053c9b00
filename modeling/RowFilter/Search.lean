import RowFilter.Grammar.Operation
import RowFilter.Text.Blank

/-!
# The search box

A search text asks for rows in which one symbol contains every word of it.

> `searchFilter`: a conjunction with one `CONTAINS` per word; nothing without words.
> `combine`: the conjunction of two filters, of which either may be absent.

This is the search helper of the specification (section 4.4).
-/

namespace RowFilter

/-- The condition that a symbol contains every word of a text. -/
def searchFilter (text : String) (target : Symbol) : Option Operation :=
  Operation.logic? .and <|
    (Text.words text.toList).map fun word =>
      .contains target (.string (String.ofList word))

/-- Two filters joined by AND, or the one that is there. -/
def combine : Option Operation → Option Operation → Option Operation
  | some left, some right => Operation.logic? .and [left, right]
  | some left, none => some left
  | none, right => right

@[simp] theorem combine_none_left (right : Option Operation) : combine none right = right := by
  cases right <;> rfl

@[simp] theorem combine_none_right (left : Option Operation) : combine left none = left := by
  cases left <;> rfl

@[simp] theorem combine_some (left right : Operation) :
    combine (some left) (some right) = some (.logic .and left [right]) := rfl

/-- Nothing is joined of nothing only. -/
@[simp] theorem combine_eq_none_iff {left right : Option Operation} :
    combine left right = none ↔ left = none ∧ right = none := by
  cases left <;> cases right <;> simp

end RowFilter
