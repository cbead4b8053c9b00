import Mathlib
import RowFilter.Proofs.Samples
import RowFilter.Proofs.Symbol
import RowFilter.Proofs.Tree
import RowFilter.Search

/-!
# What a filter can refer to

A symbol is checked against the columns that a filter may name when it is made, and
nothing that is done to conditions afterwards makes a symbol. So every symbol of a
filter, however deep it lies, is one that the context admits and that some row of the
tree, or the search box, asked for by its field:

> `symbols_admitted_and_asked_for`: of the tree's filter and of its conjunction with a
> search.

Nothing is assumed of the registry: a column whose target is not listed is refused
when a row names it.
-/

namespace RowFilter

namespace Context

/-- True of a reference that a filter of this context may hold: a listed column, or
a place in the document, whose column is listed as JSON. -/
def Admits (context : Context) : Symbol → Prop
  | .column name => name ∈ context.whitelist.map Prod.fst
  | .pointer document _ =>
    document = context.documentField ∧ context.columnType? context.documentField = some .json

theorem admits_column {context : Context} {name : String} {symbol : Symbol}
    (h : context.column name = .ok symbol) : context.Admits symbol := by
  obtain ⟨hlisted, rfl⟩ := column_eq_ok_iff.mp h
  exact isWhitelisted_iff.mp hlisted

theorem admits_pointer {context : Context} {path : String} {symbol : Symbol}
    (h : context.pointer path = .ok symbol) : context.Admits symbol := by
  obtain ⟨hjson, rfl⟩ := pointer_eq_ok_iff.mp h
  exact ⟨rfl, hjson⟩

end Context

namespace Scope

variable {scope : Scope}

/-- Whatever a field refers to is admitted. -/
theorem admits_symbol {field : String} {symbol : Symbol} (h : scope.symbol field = .ok symbol) :
    scope.context.Admits symbol := by
  rcases scope.symbol_cases field with ⟨-, he⟩ | ⟨-, column, -, he⟩ | ⟨-, -, he⟩
  · exact Context.admits_pointer (he.symm.trans h)
  · exact Context.admits_column (he.symm.trans h)
  · exact absurd (he.symm.trans h) (by simp)

/-- True of a symbol that the field of one of the rows refers to. -/
def AskedFor (scope : Scope) (rows : List Rule) (symbol : Symbol) : Prop :=
  ∃ rule ∈ rows, ∃ field, rule.field = some field ∧ scope.symbol field = .ok symbol

/-- Every symbol of a tree's filter is asked for by a row. -/
theorem askedFor_of_mem_symbols {node : Node} {operation : Operation} {symbol : Symbol}
    (h : scope.filter node = .ok (some operation)) (hs : symbol ∈ operation.symbols) :
    scope.AskedFor node.rules symbol := by
  obtain ⟨leaf, hm, hl⟩ := List.mem_filterMap.mp hs
  obtain ⟨rule, hr, ho⟩ := mem_leaves_filter h hm
  obtain ⟨field, target, operator, hf, ht, -, hc⟩ := rowFilter?_eq_some ho
  rw [(leaves_condition? hc).2] at hl
  obtain rfl := Option.some.inj hl
  exact ⟨rule, hr, field, hf, ht⟩

end Scope

/-! ## The search box -/

/-- The conditions of a search, one for each word. -/
theorem leaves_searchFilter (text : String) (target : Symbol) :
    (searchFilter text target).toList.flatMap Operation.leaves
      = (Text.words text.toList).map fun word =>
          .contains target (.string (String.ofList word)) := by
  unfold searchFilter
  rw [Operation.leaves_logic?]
  induction Text.words text.toList with
  | nil => rfl
  | cons word words ih =>
    rw [List.map_cons, List.flatMap_cons, ih]
    rfl

/-- The conditions of two filters joined are those of the one and then of the other. -/
theorem leaves_combine (left right : Option Operation) :
    (combine left right).toList.flatMap Operation.leaves
      = left.toList.flatMap Operation.leaves ++ right.toList.flatMap Operation.leaves := by
  cases left with
  | none => simp
  | some l =>
    cases right with
    | none => simp
    | some r => simp

/-- A condition of a filter with a search is one of the filter, or asks for a word. -/
theorem mem_leaves_combine_search {left : Option Operation} {text : String} {target : Symbol}
    {operation leaf : Operation} (h : combine left (searchFilter text target) = some operation)
    (hm : leaf ∈ operation.leaves) :
    (∃ part, left = some part ∧ leaf ∈ part.leaves) ∨
      ∃ word, leaf = .contains target (.string word) := by
  have hleaves := leaves_combine left (searchFilter text target)
  rw [h, leaves_searchFilter] at hleaves
  have hm : leaf ∈ (some operation).toList.flatMap Operation.leaves := by simpa using hm
  rw [hleaves] at hm
  rcases List.mem_append.mp hm with hm | hm
  · obtain ⟨part, hp, hm⟩ := List.mem_flatMap.mp hm
    exact Or.inl ⟨part, Option.mem_toList.mp hp, hm⟩
  · obtain ⟨word, -, rfl⟩ := List.mem_map.mp hm
    exact Or.inr ⟨_, rfl⟩

/-- A symbol of a filter with a search is one of the filter, or the target of the search. -/
theorem mem_symbols_combine_search {left : Option Operation} {text : String} {target : Symbol}
    {operation : Operation} {symbol : Symbol}
    (h : combine left (searchFilter text target) = some operation)
    (hs : symbol ∈ operation.symbols) :
    (∃ part, left = some part ∧ symbol ∈ part.symbols) ∨ symbol = target := by
  obtain ⟨leaf, hm, hl⟩ := List.mem_filterMap.mp hs
  rcases mem_leaves_combine_search h hm with ⟨part, hp, hm⟩ | ⟨word, rfl⟩
  · exact Or.inl ⟨part, hp, List.mem_filterMap.mpr ⟨leaf, hm, hl⟩⟩
  · exact Or.inr (Option.some.inj hl).symm

/-- **Only listed columns are sent.** Every symbol of a tree's filter is admitted by
the context and is what the field of some row refers to. With a search joined to it,
a symbol may also be what the search's field refers to, and nothing else. -/
theorem symbols_admitted_and_asked_for {scope : Scope} {value : Json}
    {filter : Option Operation} (h : scope.filterOfJson value = .ok filter) :
    (∀ operation, filter = some operation → ∀ symbol ∈ operation.symbols,
      scope.context.Admits symbol ∧ scope.AskedFor (Node.ofJson value).rules symbol) ∧
    ∀ (text field : String) (target : Symbol), scope.symbol field = .ok target →
      ∀ operation, combine filter (searchFilter text target) = some operation →
        ∀ symbol ∈ operation.symbols, scope.context.Admits symbol ∧
          (scope.AskedFor (Node.ofJson value).rules symbol ∨ scope.symbol field = .ok symbol) := by
  have tree : ∀ operation, filter = some operation → ∀ symbol ∈ operation.symbols,
      scope.context.Admits symbol ∧ scope.AskedFor (Node.ofJson value).rules symbol := by
    intro operation ho symbol hs
    obtain rfl := ho
    obtain ⟨rule, hr, field, hf, ht⟩ := Scope.askedFor_of_mem_symbols h hs
    exact ⟨Scope.admits_symbol ht, rule, hr, field, hf, ht⟩
  refine ⟨tree, ?_⟩
  intro text field target ht operation ho symbol hs
  rcases mem_symbols_combine_search ho hs with ⟨part, hp, hs⟩ | rfl
  · obtain ⟨ha, hasked⟩ := tree part hp symbol hs
    exact ⟨ha, Or.inl hasked⟩
  · exact ⟨Scope.admits_symbol ht, Or.inr ht⟩

namespace Builtin

theorem titleQuery_filter :
    annotationsScope.filterOfJson titleQuery = .ok (some titleFilter) := by cbv

/-- The query above, joined with a search in the names. -/
theorem titleQuery_admitted :
    annotationsScope.filterOfJson titleQuery = .ok (some titleFilter) ∧
    annotationsScope.symbol "name" = .ok (.column "variables.name") ∧
    (∀ symbol ∈ titleFilter.symbols, annotationsScope.context.Admits symbol ∧
      annotationsScope.AskedFor (Node.ofJson titleQuery).rules symbol) ∧
    ∀ operation, combine (some titleFilter)
        (searchFilter "share of" (.column "variables.name")) = some operation →
      ∀ symbol ∈ operation.symbols, annotationsScope.context.Admits symbol ∧
        (annotationsScope.AskedFor (Node.ofJson titleQuery).rules symbol ∨
          annotationsScope.symbol "name" = .ok symbol) := by
  have hname : annotationsScope.symbol "name" = .ok (.column "variables.name") := by cbv
  obtain ⟨tree, search⟩ := symbols_admitted_and_asked_for titleQuery_filter
  exact ⟨titleQuery_filter, hname, tree titleFilter rfl, search "share of" "name" _ hname⟩

end Builtin

end RowFilter
