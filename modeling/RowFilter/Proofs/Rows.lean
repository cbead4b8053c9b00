import Mathlib.Data.List.ReduceOption
import RowFilter.Proofs.Whitelist

/-!
# Every row once

A tree's filter is built level by level, and groups in which nothing is left vanish on the
way. Its conditions can be had without the recursion as well: by building a filter for
each row on its own, one row after the other.

> `every_row_once`: both give the same conditions in the same order, and the tree has no
> filter if and only if no row gives one.

So a row whose condition is missing from the filter, stands in it twice or stands behind
that of a later row would be one that behaves so on its own.
-/

namespace RowFilter

namespace Operation

/-- True of a condition on one symbol: a comparison, a search for a text or a test for a
value. A literal or a symbol on its own is none. -/
def IsCondition : Operation → Prop
  | .comparison .. => True
  | .equality .. => True
  | .contains .. => True
  | .nullCheck .. => True
  | _ => False

/-- No filter is without a condition, because nothing is joined from an empty list. -/
theorem leaves_ne_nil : ∀ operation : Operation, operation.leaves ≠ []
  | .logic op first rest => by
    intro hnil
    rw [leaves_logic] at hnil
    exact leaves_ne_nil first (List.append_eq_nil_iff.mp hnil).1
  | .negation inner => by
    rw [leaves_negation]
    exact leaves_ne_nil inner
  | .atom _ => List.cons_ne_nil _ _
  | .symbol _ => List.cons_ne_nil _ _
  | .comparison .. => List.cons_ne_nil _ _
  | .equality .. => List.cons_ne_nil _ _
  | .contains .. => List.cons_ne_nil _ _
  | .nullCheck .. => List.cons_ne_nil _ _

end Operation

namespace Scope

variable {scope : Scope}

theorem isCondition_rowFilter? {row : Rule} {operation : Operation}
    (h : scope.rowFilter? row = some operation) : operation.IsCondition := by
  obtain ⟨_, _, _, -, -, -, hc⟩ := rowFilter?_eq_some h
  rcases condition?_cases hc with ⟨_, _, rfl, -⟩ | ⟨_, _, rfl, -⟩ | ⟨_, rfl⟩ | ⟨_, rfl⟩
  · trivial
  · trivial
  · trivial
  · trivial

/-- A row on its own is a tree of one node, which no bound makes too deep. -/
theorem filter_rule (scope : Scope) (row : Rule) :
    scope.filter (.rule row) = (scope.buildRule row).map Built.filter := by
  rw [filter, build, buildAt_rule (Nat.zero_le _)]

/-- A tree that is not at fault has no row that is. -/
theorem invariant_filter_rule (scope : Scope) :
    scope.Invariant
      (fun _ node _ =>
        ∀ row ∈ node.rules, scope.filter (.rule row) = .ok (scope.rowFilter? row))
      (fun _ nodes _ _ =>
        ∀ row ∈ Node.rulesOf nodes, scope.filter (.rule row) = .ok (scope.rowFilter? row)) where
  unknown _ := by simp
  rule {_ row _} _ h := by
    rw [Node.rules_rule, List.forall_mem_singleton, filter_rule, h, ← buildRule_filter h, map_ok]
  group _ _ h := h
  nil := by simp
  cons hfirst hmore := List.forall_mem_append.mpr ⟨hfirst, hmore⟩

/-- **No row is lost, doubled or moved.** If a tree can be built, so can each of its rows
on its own; the conditions of the tree's filter are what the rows come to in document
order, without those that come to nothing; and there is no filter if and only if all of
them do. -/
theorem every_row_once {node : Node} {result : Option Operation}
    (h : scope.filter node = .ok result) :
    ∃ parts : List (Option Operation),
      (node.rules.map fun row => scope.filter (.rule row)) = parts.map .ok ∧
      result.toList.flatMap Operation.leaves = parts.reduceOption ∧
      (∀ leaf ∈ parts.reduceOption, leaf.IsCondition) ∧
      (result = none ↔ parts.reduceOption = []) := by
  have hleaves : result.toList.flatMap Operation.leaves
      = (node.rules.map scope.rowFilter?).reduceOption := by
    rw [leaves_filter h, List.reduceOption, List.filterMap_map]
    rfl
  refine ⟨node.rules.map scope.rowFilter?, ?_, hleaves, ?_, ?_⟩
  · obtain ⟨built, hbuilt, -⟩ := filter_eq_ok_iff.mp h
    rw [List.map_map]
    exact List.map_congr_left ((invariant_filter_rule scope).buildAt node hbuilt)
  · intro leaf hleaf
    obtain ⟨row, -, hrow⟩ := List.mem_map.mp (List.reduceOption_mem_iff.mp hleaf)
    exact isCondition_rowFilter? hrow
  · rw [← hleaves]
    cases result with
    | none => simp
    | some operation => simp [Operation.leaves_ne_nil]

end Scope

namespace Builtin

/-- Two equal rows around a negated group of a row without a value, a group of its own,
and a row without a field. -/
def repeatedRows : Node :=
  .group (some "OR") true
    [.rule ⟨some "/title", some "is_null", []⟩,
      .group none true [.rule ⟨some "name", some "like", [.null]⟩],
      .group none false [.rule ⟨some "name", some "equal", [.bool true]⟩],
      .rule ⟨some "/title", some "is_null", []⟩,
      .rule ⟨none, some "equal", [.bool true]⟩]

/-- The filter of those rows. -/
def repeatedFilter : Operation :=
  .negation (.logic .or (.nullCheck .isNull (.pointer "grapherConfig" "/title"))
    [.logic .and (.equality .equal (.column "variables.name") (.boolean true)) [],
      .nullCheck .isNull (.pointer "grapherConfig" "/title")])

/-- Of five rows three make a condition, the first and the last of them the same. -/
theorem repeatedRows_once :
    annotationsScope.filter repeatedRows = .ok (some repeatedFilter) ∧
    ∃ parts : List (Option Operation),
      (repeatedRows.rules.map fun row => annotationsScope.filter (.rule row)) = parts.map .ok ∧
      (some repeatedFilter).toList.flatMap Operation.leaves = parts.reduceOption ∧
      (∀ leaf ∈ parts.reduceOption, leaf.IsCondition) ∧
      (some repeatedFilter = none ↔ parts.reduceOption = []) := by
  have hfilter : annotationsScope.filter repeatedRows = .ok (some repeatedFilter) := by rfl
  exact ⟨hfilter, Scope.every_row_once hfilter⟩

end Builtin

end RowFilter
