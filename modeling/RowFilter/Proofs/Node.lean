import RowFilter.Tree.Node

/-!
# The node of a JSON value

Reading a JSON value gives a node and notices; here is the node alone, by the type that
the value gives itself:

> `ofJson_group`: a group has the nodes of its child values, in order;
> `ofJson_rule`, `ofJson_unknown`: every other value is a row, or unknown, as it stands.

`ofJson_induction` is the recursion behind it. The child values of a group may lie two
objects deep in it, so recursion over the JSON value itself does not fit.
-/

namespace RowFilter.Node

/-- The values from which the children of a value are read, if it is a group. -/
def children (value : Json) : List Json := childValues (value.get? "children1")

theorem fst_readAll : ∀ values : List Json, (readAll values).1 = values.map ofJson
  | [] => by rw [readAll]; rfl
  | value :: rest => by
    rw [readAll, List.map_cons, ← fst_readAll rest]
    rfl

/-- The node of a group. -/
theorem ofJson_group {value : Json} (h : type? value = some "group") :
    ofJson value = .group ((property? "conjunction" value).bind conjunctionText?)
      (((property? "not" value).bind Json.bool?).getD false) ((children value).map ofJson) := by
  unfold ofJson
  rw [read, dif_pos h]
  show Node.group _ _ (readAll (childValues (value.get? "children1"))).1 = _
  rw [fst_readAll]
  rfl

/-- No row is a group as well. -/
theorem ne_group_of_rule {value : Json} (h : type? value = some "rule") :
    type? value ≠ some "group" := by
  rw [h]
  decide

/-- The node of a row. -/
theorem ofJson_rule {value : Json} (h : type? value = some "rule") :
    ofJson value = .rule (ruleOf value) := by
  unfold ofJson
  rw [read, dif_neg (ne_group_of_rule h), if_pos h]

/-- The node of any other value. -/
theorem ofJson_unknown {value : Json} (hg : type? value ≠ some "group")
    (hr : type? value ≠ some "rule") : ofJson value = .unknown := by
  unfold ofJson
  rw [read, dif_neg hg, if_neg hr]

/-- What holds of a group whenever it holds of its children, and of every other value,
holds of all values. -/
@[elab_as_elim]
theorem ofJson_induction {motive : Json → Prop}
    (group : ∀ value, type? value = some "group" → (∀ child ∈ children value, motive child) →
      motive value)
    (rule : ∀ value, type? value = some "rule" → motive value)
    (unknown : ∀ value, type? value ≠ some "group" → type? value ≠ some "rule" → motive value) :
    ∀ value : Json, motive value := by
  intro value
  by_cases hg : type? value = some "group"
  · refine group value hg fun child hc => ?_
    -- a child is smaller than the list that holds it, and that is smaller than the group
    have : sizeOf child < sizeOf value :=
      Nat.lt_trans (List.sizeOf_lt_of_mem hc) (sizeOf_childValues "children1" hg)
    exact ofJson_induction group rule unknown child
  · by_cases hr : type? value = some "rule"
    · exact rule value hr
    · exact unknown value hg hr
  termination_by value => sizeOf value

end RowFilter.Node
