import RowFilter.Proofs.Grammar.Written
import RowFilter.Proofs.Whitelist

/-!
# The words of a filter

What a filter's text holds outside of its literals is not made by the user: the words there
are operators, decimals, truth values, and names that the context gives.

> `eachWord_filter`: what holds of the first three (`OfGrammar`) and of the names holds of all
> words of a tree's filter.
-/

namespace RowFilter

/-- The names that a filter may write: those of its columns and that of the document's. -/
def Context.names (context : Context) : List String :=
  context.documentField :: context.whitelist.map Prod.fst

theorem Context.name_mem_names {context : Context} {symbol : Symbol}
    (h : context.Admits symbol) : symbol.name ∈ context.names := by
  cases symbol with
  | column name => exact List.mem_cons_of_mem _ h
  | pointer document path =>
    obtain ⟨rfl, -⟩ := h
    exact List.mem_cons_self ..

/-- True of a property that all words have which the grammar itself brings. -/
structure OfGrammar (good : List Char → Prop) : Prop where
  tokens : ∀ token : Token, good token.chars
  decimals : ∀ word, Decimal.isDecimal word = true → good word
  keywords : ∀ value, good (Json.boolText value)

namespace Scope

variable {scope : Scope} {good : List Char → Prop}

/-- The words of a row's condition. -/
theorem goodWords_rowFilter? (grammar : OfGrammar good)
    (names : ∀ name ∈ scope.context.names, good name.toList) {rule : Rule} {leaf : Operation}
    (h : scope.rowFilter? rule = some leaf) : leaf.GoodWords good := by
  obtain ⟨field, target, operator, -, ht, -, hc⟩ := rowFilter?_eq_some h
  refine ⟨fun symbol hs => ?_, fun atom ha => ?_⟩
  · rw [(leaves_condition? hc).2] at hs
    obtain rfl := Option.some.inj hs
    exact Symbol.eachWord_toSExpr grammar.tokens
      (names _ (Context.name_mem_names (admits_symbol ht)))
  · exact Atom.eachWord_toSExpr grammar.decimals grammar.keywords (isFinite_condition? hc atom ha)

/-- The words of a tree's filter. -/
theorem eachWord_filter (grammar : OfGrammar good)
    (names : ∀ name ∈ scope.context.names, good name.toList) {node : Node}
    {operation : Operation} (h : scope.filter node = .ok (some operation)) :
    operation.toSExpr.EachWord good := by
  refine Operation.eachWord_toSExpr grammar.tokens operation fun leaf hm => ?_
  obtain ⟨rule, -, hr⟩ := mem_leaves_filter h hm
  exact goodWords_rowFilter? grammar names hr

end Scope

end RowFilter
