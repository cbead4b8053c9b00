import RowFilter.Proofs.Grammar.Nesting
import RowFilter.Proofs.Grammar.RoundTrip
import RowFilter.Proofs.Rows
import RowFilter.Proofs.Words

/-!
# The depth bound limits the nesting of a filter

The server that reads a filter reads it with a recursion of its own, and is spared deep
trees by the depth bound. A group may take two pairs of parentheses, for its negation and
for its conjunction, and a row two, for its condition and for a place in the document:

> `invariant_height`: what hangs at some depth is no higher than the levels left below it
> allow;
> `enclosed_filter`: so a filter's text never has more than twice the bound and two
> parentheses open, and is one pair around all the rest.

A group at the bound itself takes none, because nothing can hang on it.
-/

namespace RowFilter

/-! ## The height of an operation -/

theorem Symbol.height_toSExpr_le (symbol : Symbol) : symbol.toSExpr.height ≤ 1 := by
  cases symbol with
  | column name => exact Nat.zero_le 1
  | pointer document path => exact Nat.le_refl 1

theorem Atom.height_toSExpr (atom : Atom) : atom.toSExpr.height = 0 := by
  cases atom <;> rfl

namespace Operation

/-- How many pairs of parentheses of an operation's text lie in one another. -/
def height (operation : Operation) : Nat := operation.toSExpr.height

theorem heightOf_toSExprs_le {bound : Nat} : ∀ {operands : List Operation},
    (∀ operand ∈ operands, operand.height ≤ bound) → SExpr.heightOf (toSExprs operands) ≤ bound
  | [], _ => Nat.zero_le bound
  | operand :: rest, h => by
    have hrest := heightOf_toSExprs_le fun other ho => h other (List.mem_cons_of_mem _ ho)
    exact Nat.max_le.mpr ⟨h operand (List.mem_cons_self ..), hrest⟩

theorem height_logic_le (op : LogicOperator) {first : Operation} {rest : List Operation}
    {bound : Nat} (h : ∀ operand ∈ first :: rest, operand.height ≤ bound) :
    (logic op first rest).height ≤ bound + 1 := by
  have hoperands : SExpr.heightOf (toSExprs (first :: rest)) ≤ bound := heightOf_toSExprs_le h
  have hheight : (logic op first rest).height
      = max 0 (SExpr.heightOf (toSExprs (first :: rest))) + 1 := rfl
  omega

theorem height_negation (inner : Operation) : (negation inner).height = inner.height + 1 := by
  have hheight : (negation inner).height = max 0 (max inner.height 0) + 1 := rfl
  omega

end Operation

namespace Scope

variable {scope : Scope}

/-- A row's condition takes one pair of parentheses, and its symbol another one at most. -/
theorem height_condition?_le {operator : RuleOperator} {target : Symbol} {value : Option Json}
    {operation : Operation} (h : condition? operator target value = some operation) :
    operation.height ≤ 2 := by
  have htarget := target.height_toSExpr_le
  have binary : ∀ atom : Atom,
      max 0 (max target.toSExpr.height (max atom.toSExpr.height 0)) + 1 ≤ 2 := by
    intro atom
    rw [atom.height_toSExpr]
    omega
  rcases condition?_cases h with ⟨_, atom, rfl, -⟩ | ⟨_, atom, rfl, -⟩ | ⟨text, rfl⟩ | ⟨_, rfl⟩
  · exact binary atom
  · exact binary atom
  · exact binary (.string text)
  · show max 0 (max target.toSExpr.height 0) + 1 ≤ 2
    omega

theorem height_rowFilter?_le {rule : Rule} {operation : Operation}
    (h : scope.rowFilter? rule = some operation) : operation.height ≤ 2 := by
  obtain ⟨_, _, _, -, -, -, hc⟩ := rowFilter?_eq_some h
  exact height_condition?_le hc

/-- A filter of a tree at a depth takes two pairs of parentheses for each level that is left
below it, and two more. -/
theorem invariant_height (scope : Scope) :
    scope.Invariant
      (fun depth _ built =>
        ∀ operation ∈ built.filter, operation.height + 2 * depth ≤ 2 * scope.maxDepth + 2)
      (fun depth _ operations _ =>
        ∀ operation ∈ operations, operation.height + 2 * depth ≤ 2 * scope.maxDepth + 2) := by
  refine .of_operations (fun hd h => ?_) fun {depth op first rest} hd hparts => ?_
  · have := height_rowFilter?_le h
    omega
  · -- a group has a child, so there is a level left for it below the group
    have hfirst := hparts first (List.mem_cons_self ..)
    have hbound : ∀ part ∈ first :: rest,
        part.height ≤ 2 * scope.maxDepth + 2 - 2 * (depth + 1) := by
      intro part hpart
      have := hparts part hpart
      omega
    have hlogic := Operation.height_logic_le op hbound
    rw [Operation.height_negation]
    omega

theorem height_filter {node : Node} {operation : Operation}
    (h : scope.filter node = .ok (some operation)) :
    operation.height ≤ 2 * scope.maxDepth + 2 := by
  obtain ⟨built, hbuilt, hfilter⟩ := filter_eq_ok_iff.mp h
  exact (invariant_height scope).buildAt node hbuilt operation hfilter

/-! ## The text of a filter -/

theorem ofGrammar_unmarked : OfGrammar SExpr.Unmarked := by
  have unmarked : ∀ {word : List Char}, SExpr.PlainWord word → SExpr.Unmarked word := by
    intro word hword
    have bare : ∀ {c : Char}, SExpr.isDelimiter c = true → c ∉ word := by
      intro c hc hmem
      exact absurd (hc.symm.trans (hword.2 c hmem)) (by simp)
    exact ⟨bare rfl, bare rfl, bare rfl⟩
  refine ⟨fun token => unmarked (Token.plainWord_chars token), fun word hword =>
    unmarked (Decimal.plainWord_of_isDecimal hword), fun value => ?_⟩
  cases value <;> exact unmarked (by decide)

/-- A filter is a list: neither a literal nor a symbol on its own is a condition. -/
theorem exists_list_of_filter {node : Node} {operation : Operation}
    (h : scope.filter node = .ok (some operation)) :
    ∃ head rest, operation.toSExpr = .list head rest := by
  have hleaf : ∀ leaf ∈ operation.leaves, leaf.IsCondition := by
    intro leaf hm
    obtain ⟨rule, -, hrule⟩ := mem_leaves_filter h hm
    exact isCondition_rowFilter? hrule
  cases operation with
  | atom value => exact (hleaf _ (List.mem_singleton.mpr rfl)).elim
  | symbol target => exact (hleaf _ (List.mem_singleton.mpr rfl)).elim
  | _ => exact ⟨_, _, rfl⟩

/-- **The depth bound limits the nesting of a filter.** If no name of the context holds a
parenthesis or a double quote, a filter's text starts with a parenthesis that is closed by
its last character and not before, closes all its literals, and never has more parentheses
open than twice the depth bound and two. -/
theorem enclosed_filter
    (hnames : ∀ name ∈ scope.context.names,
      '(' ∉ name.toList ∧ ')' ∉ name.toList ∧ '"' ∉ name.toList)
    {node : Node} {operation : Operation} (h : scope.filter node = .ok (some operation)) :
    Text.Enclosed (2 * scope.maxDepth + 2) operation.text.toList := by
  have hwords := eachWord_filter ofGrammar_unmarked hnames h
  have hheight : operation.toSExpr.height ≤ 2 * scope.maxDepth + 2 := height_filter h
  obtain ⟨head, rest, hlist⟩ := exists_list_of_filter h
  rw [hlist] at hwords hheight
  rw [Operation.text, String.toList_ofList, ← Operation.render_toSExpr, hlist]
  exact (SExpr.enclosed_render hwords).mono hheight

end Scope

namespace Bracketed

/-- A source whose trees have one level below the root. -/
def scope : Scope where
  context :=
    { documentField := "config"
      whitelist := [("title", .string), ("config", .json)]
      distinct := ⟨by decide⟩ }
  registry := ⟨[⟨"name", "Name", .string, "title"⟩]⟩
  maxDepth := 1

/-- A negated group of a place in the document and a column, with parentheses, quotes and a
backslash in the texts of a user. -/
def tree : Node :=
  .group (some "OR") true
    [.rule ⟨some "/a)\"(", some "equal", [.string ")(\\\""]⟩,
      .rule ⟨some "name", some "like", [.string "(("]⟩]

/-- The filter of that tree. -/
def filter : Operation :=
  .negation (.logic .or (.equality .equal (.pointer "config" "/a)\"(") (.string ")(\\\""))
    [.contains (.column "title") (.string "((")])

/-- With one level below the root up to four parentheses are open, and here four are. -/
theorem filter_enclosed :
    (∀ name ∈ scope.context.names,
      '(' ∉ name.toList ∧ ')' ∉ name.toList ∧ '"' ∉ name.toList) ∧
    scope.filter tree = .ok (some filter) ∧
    Text.Enclosed 4 filter.text.toList ∧
    "(NOT (OR (= (".toList <+: filter.text.toList ∧
    (Text.count "(NOT (OR (= (".toList).level = 4 := by
  have hnames : ∀ name ∈ scope.context.names,
      '(' ∉ name.toList ∧ ')' ∉ name.toList ∧ '"' ∉ name.toList := by decide
  have hfilter : scope.filter tree = .ok (some filter) := by rfl
  exact ⟨hnames, hfilter, Scope.enclosed_filter hnames hfilter, by decide +kernel, by decide⟩

end Bracketed

end RowFilter
