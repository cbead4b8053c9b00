import RowFilter.Proofs.Grammar.RoundTrip
import RowFilter.Proofs.Keyed
import RowFilter.Proofs.Whitelist

/-!
# What a filter means

Let every condition be true or false. Then a tree is true or false as well, or has no
meaning because none of its rows makes a condition (`meaning?`), and so is an expression
that is read from a text (`eval?`).

> `combined_filter_means`: the text that is sent for a tree and a search means that the
> tree is true, if it has a meaning, and that the target contains every word; and nothing
> is sent if there is neither.

The tree's meaning is defined on its rows and groups and not through the filter that is
built for it. A group left empty has no meaning, negated or not, so it neither holds nor
fails in the group around it.

Names are written as they are. So what a text says to a reader is asked only where the names
in it are words: with others, one text can stand for two filters of different meaning
(`Ambiguous.same_text_other_meaning`).
-/

namespace RowFilter

/-! ## The meaning of a text -/

/-- What AND and OR make of truth values. -/
def LogicOperator.join : LogicOperator → List Bool → Bool
  | .and, values => values.all id
  | .or, values => values.any id

namespace Expression

mutual

/-- Whether an expression holds; a literal or a symbol on its own cannot. -/
def eval? (holds : Condition → Bool) : Expression → Option Bool
  | .literal _ => none
  | .symbol _ => none
  | .condition asked => some (holds asked)
  | .logic op first rest =>
    match eval? holds first, evalAll? holds rest with
    | some value, some values => some (op.join (value :: values))
    | _, _ => none
  | .negation inner => (eval? holds inner).map not

/-- Whether several expressions hold. -/
def evalAll? (holds : Condition → Bool) : List Expression → Option (List Bool)
  | [] => some []
  | expression :: rest =>
    match eval? holds expression, evalAll? holds rest with
    | some value, some values => some (value :: values)
    | _, _ => none

end

end Expression

namespace Operation

variable {holds : Condition → Bool}

/-- Whether a filter holds, by what a reader of its text takes it for. -/
def truth? (holds : Condition → Bool) (operation : Operation) : Option Bool :=
  operation.expression.eval? holds

theorem evalAll?_expressions : ∀ {operations : List Operation} {values : List Bool},
    operations.map (truth? holds) = values.map some →
    Expression.evalAll? holds (expressions operations) = some values
  | [], [], _ => rfl
  | [], _ :: _, h => absurd h (by simp)
  | _ :: _, [], h => absurd h (by simp)
  | operation :: rest, value :: values, h => by
    obtain ⟨hfirst, hrest⟩ := List.cons.inj h
    have hfirst : operation.expression.eval? holds = some value := hfirst
    rw [expressions, Expression.evalAll?, hfirst, evalAll?_expressions hrest]

/-- Conditions joined hold if all of them do, or any of them. -/
theorem truth?_logic (op : LogicOperator) {first : Operation} {rest : List Operation}
    {value : Bool} {values : List Bool}
    (h : (first :: rest).map (truth? holds) = (value :: values).map some) :
    (logic op first rest).truth? holds = some (op.join (value :: values)) := by
  obtain ⟨hfirst, hrest⟩ := List.cons.inj h
  have hfirst : first.expression.eval? holds = some value := hfirst
  rw [truth?, expression, Expression.eval?, hfirst, evalAll?_expressions hrest]

theorem truth?_negation {inner : Operation} {value : Bool} (h : inner.truth? holds = some value) :
    (negation inner).truth? holds = some !value := by
  have h : inner.expression.eval? holds = some value := h
  rw [truth?, expression, Expression.eval?, h]
  rfl

end Operation

/-! ## The meaning of a tree -/

/-- The operators of rows by their names. -/
def RuleOperator.spellings : List (String × RuleOperator) :=
  [("less", .comparison .less), ("less_or_equal", .comparison .lessOrEqual),
    ("greater", .comparison .greater), ("greater_or_equal", .comparison .greaterOrEqual),
    ("equal", .equality .equal), ("select_equals", .equality .equal),
    ("not_equal", .equality .unequal), ("select_not_equals", .equality .unequal),
    ("like", .contains), ("is_null", .nullCheck .isNull), ("is_not_null", .nullCheck .isNotNull),
    ("is_empty", .emptiness .equal), ("is_not_empty", .emptiness .unequal)]

/-- A name that spells nothing stands for nothing. -/
theorem RuleOperator.ofName?_eq_none {name : String} (h : name ∉ spellings.map Prod.fst) :
    ofName? name = none := by
  simp only [spellings, List.map_cons, List.map_nil, List.mem_cons, List.not_mem_nil, or_false,
    not_or] at h
  obtain ⟨h₁, h₂, h₃, h₄, h₅, h₆, h₇, h₈, h₉, h₁₀, h₁₁, h₁₂, h₁₃⟩ := h
  have hcomparison : ComparisonOperator.ofName? name = none := by
    rw [ComparisonOperator.ofName?, if_neg h₁, if_neg h₂, if_neg h₃, if_neg h₄]
  have hequality : EqualityOperator.ofName? name = none := by
    rw [EqualityOperator.ofName?, if_neg (not_or.mpr ⟨h₅, h₆⟩), if_neg (not_or.mpr ⟨h₇, h₈⟩)]
  have hnullCheck : NullCheckOperator.ofName? name = none := by
    rw [NullCheckOperator.ofName?, if_neg h₁₀, if_neg h₁₁]
  rw [ofName?, hcomparison, hequality, hnullCheck]
  simp only [if_neg h₉, if_neg h₁₂, if_neg h₁₃]

/-- A name stands for the operator that it spells. -/
theorem RuleOperator.ofName?_eq_get? (name : String) :
    ofName? name = Keyed.get? name spellings := by
  by_cases h : name ∈ spellings.map Prod.fst
  · have all : ∀ name ∈ spellings.map Prod.fst, ofName? name = Keyed.get? name spellings := by
      decide
    exact all name h
  · rw [ofName?_eq_none h, Keyed.get?_eq_none h]

/-- A value as a literal that a text can tell. -/
def Literal.ofJson? (value : Json) : Option Literal := (Atom.ofJson? value).map Atom.literal

/-- What an operator asks of a symbol and a value, if it needs one. -/
def Condition.ofOperator? (operator : RuleOperator) (target : Symbol) (value : Option Json) :
    Option Condition :=
  match operator with
  | .comparison op => (value.bind Literal.ofJson?).map (.comparison op target)
  | .equality op => (value.bind Literal.ofJson?).map (.equality op target)
  | .contains => (value.bind searchText?).map fun text => .contains target (.string text)
  | .nullCheck op => some (.nullCheck op target)
  | .emptiness op => some (.equality op target (.string ""))

namespace Scope

/-- What a row asks for. A row that is not finished asks for nothing. -/
def asks? (scope : Scope) (rule : Rule) : Option Condition :=
  match rule.field, rule.operator with
  | some field, some name =>
    match scope.symbol field, Keyed.get? name RuleOperator.spellings with
    | .ok target, some operator => Condition.ofOperator? operator target rule.firstValue?
    | _, _ => none
  | _, _ => none

mutual

/-- Whether a tree holds, if it has a meaning. -/
def meaning? (scope : Scope) (holds : Condition → Bool) : Node → Option Bool
  | .unknown => none
  | .rule row => (scope.asks? row).map holds
  | .group conjunction negated children =>
    match meanings scope holds children with
    | [] => none
    | first :: rest =>
      let joined := if conjunction = some "OR" then (first :: rest).any id
        else (first :: rest).all id
      some (if negated then !joined else joined)

/-- Which of several trees hold, of those that have a meaning. -/
def meanings (scope : Scope) (holds : Condition → Bool) : List Node → List Bool
  | [] => []
  | node :: rest => (meaning? scope holds node).toList ++ meanings scope holds rest

end

/-! ## A filter means what its tree means -/

variable {scope : Scope} {holds : Condition → Bool}

/-- A row's condition is what the row asks for. -/
theorem expression_condition? (operator : RuleOperator) (target : Symbol) (value : Option Json) :
    (condition? operator target value).map Operation.expression
      = (Condition.ofOperator? operator target value).map Expression.condition := by
  have literal : (value.bind Atom.ofJson?).map Atom.literal = value.bind Literal.ofJson? := by
    cases value <;> rfl
  cases operator with
  | comparison op =>
    rw [condition?, Condition.ofOperator?, ← literal, Option.map_map, Option.map_map,
      Option.map_map]
    rfl
  | equality op =>
    rw [condition?, Condition.ofOperator?, ← literal, Option.map_map, Option.map_map,
      Option.map_map]
    rfl
  | contains =>
    rw [condition?, Condition.ofOperator?, Option.map_map, Option.map_map]
    rfl
  | nullCheck op => rfl
  | emptiness op => rfl

theorem expression_rowFilter? (scope : Scope) (rule : Rule) :
    (scope.rowFilter? rule).map Operation.expression
      = (scope.asks? rule).map Expression.condition := by
  unfold rowFilter? asks?
  cases rule.field with
  | none => rfl
  | some field =>
    cases rule.operator with
    | none =>
      show Option.map _ ((scope.symbol field).toOption.bind fun _ => none) = none
      cases scope.symbol field with
      | error error => rfl
      | ok target => rfl
    | some name =>
      dsimp only [Option.bind_some]
      rw [RuleOperator.ofName?_eq_get?]
      cases scope.symbol field with
      | error error => rfl
      | ok target =>
        cases Keyed.get? name RuleOperator.spellings with
        | none => rfl
        | some operator => exact expression_condition? operator target rule.firstValue?

/-- What is built for a group holds if the group does. -/
theorem truth?_join {conjunction : Option String} {op : LogicOperator} (negated : Bool)
    (ho : LogicOperator.ofConjunction conjunction = .ok op) {operations : List Operation}
    {children : List Node}
    (h : operations.map (Operation.truth? holds) = (scope.meanings holds children).map some) :
    (join op negated operations).map (Operation.truth? holds)
      = (scope.meaning? holds (.group conjunction negated children)).map some := by
  rw [meaning?]
  -- there are as many conditions as meanings, so a group without one has no other either
  cases operations with
  | nil =>
    cases hm : scope.meanings holds children with
    | nil => rfl
    | cons value values => exact absurd (h.trans (congrArg _ hm)) (by simp)
  | cons first rest =>
    cases hm : scope.meanings holds children with
    | nil => exact absurd (h.trans (congrArg _ hm)) (by simp)
    | cons value values =>
      have hlogic := Operation.truth?_logic op (h.trans (congrArg _ hm))
      have hjoined : (Operation.logic op first rest).truth? holds
          = some (if conjunction = some "OR" then (value :: values).any id
            else (value :: values).all id) := by
        rw [hlogic]
        rcases LogicOperator.ofConjunction_eq_ok_iff.mp ho with ⟨rfl, rfl | rfl⟩ | ⟨rfl, rfl⟩
        · rfl
        · rfl
        · rfl
      cases negated with
      | false => exact congrArg some hjoined
      | true => exact congrArg some (Operation.truth?_negation hjoined)

/-- What a node comes to holds if the node does, and is absent if it has no meaning. -/
theorem invariant_truth? (scope : Scope) (holds : Condition → Bool) :
    scope.Invariant
      (fun _ node built =>
        built.filter.map (Operation.truth? holds) = (scope.meaning? holds node).map some)
      (fun _ nodes operations _ =>
        operations.map (Operation.truth? holds) = (scope.meanings holds nodes).map some) where
  unknown _ := rfl
  rule {_ row _} _ h := by
    have hr := expression_rowFilter? scope row
    rw [buildRule_filter h, meaning?, Option.map_map]
    calc (scope.rowFilter? row).map (Operation.truth? holds)
        = ((scope.rowFilter? row).map Operation.expression).map (Expression.eval? holds) :=
          (Option.map_map _ _ _).symm
      _ = ((scope.asks? row).map Expression.condition).map (Expression.eval? holds) := by rw [hr]
      _ = (scope.asks? row).map (some ∘ holds) := by rw [Option.map_map]; rfl
  group {_ _ _ negated _ _ _} _ ho h := truth?_join negated ho h
  nil := rfl
  cons hfirst hmore := by
    rw [List.map_append, hmore, ← Option.toList_map, hfirst, meanings, List.map_append,
      Option.toList_map]

end Scope

/-! ## With a search -/

/-- True of a filter that holds if all of some values are true, and that is absent only if
there are no values. -/
def Means (holds : Condition → Bool) (filter : Option Operation) (values : List Bool) : Prop :=
  match filter with
  | none => values = []
  | some operation => values ≠ [] ∧ operation.truth? holds = some (values.all id)

section

variable {scope : Scope} {holds : Condition → Bool}

theorem means_filter (holds : Condition → Bool) {node : Node} {filter : Option Operation}
    (h : scope.filter node = .ok filter) :
    Means holds filter (scope.meaning? holds node).toList := by
  obtain ⟨built, hb, rfl⟩ := Scope.filter_eq_ok_iff.mp h
  have heval := (scope.invariant_truth? holds).buildAt node hb
  cases hf : built.filter with
  | none =>
    rw [hf] at heval
    rw [Option.map_eq_none_iff.mp heval.symm]
    rfl
  | some operation =>
    rw [hf] at heval
    obtain ⟨value, hv, he⟩ := Option.map_eq_some_iff.mp heval.symm
    rw [hv]
    have he : some value = operation.truth? holds := he
    refine ⟨by simp, ?_⟩
    rw [← he]
    simp

/-- A search holds if the target contains every word. -/
theorem means_searchFilter (text : String) (target : Symbol) :
    Means holds (searchFilter text target)
      ((Text.words text.toList).map fun word =>
        holds (.contains target (.string (String.ofList word)))) := by
  unfold searchFilter
  cases Text.words text.toList with
  | nil => rfl
  | cons word words =>
    refine ⟨by simp, ?_⟩
    refine Operation.truth?_logic .and ?_
    simp only [List.map_cons, List.map_map]
    rfl

/-- Two filters joined hold if both do. -/
theorem means_combine {left right : Option Operation} {as bs : List Bool}
    (hl : Means holds left as) (hr : Means holds right bs) :
    Means holds (combine left right) (as ++ bs) := by
  cases left with
  | none =>
    obtain rfl : as = [] := hl
    exact hr
  | some l =>
    cases right with
    | none =>
      obtain rfl : bs = [] := hr
      rw [List.append_nil]
      exact hl
    | some r =>
      obtain ⟨hne, hl⟩ := hl
      obtain ⟨-, hr⟩ := hr
      refine ⟨by simp [hne], ?_⟩
      have hboth : (Operation.logic .and l [r]).truth? holds
          = some (LogicOperator.and.join [as.all id, bs.all id]) :=
        Operation.truth?_logic .and (by simp [hl, hr])
      show (Operation.logic .and l [r]).truth? holds = _
      rw [hboth, List.all_append]
      simp [LogicOperator.join]

/-- The conditions that are sent for a tree and a search can be read, if their names are
words. -/
theorem isReadable_of_mem_combined {node : Node} {filter : Option Operation} {text : String}
    {target : Symbol} {operation : Operation} (h : scope.filter node = .ok filter)
    (ho : combine filter (searchFilter text target) = some operation)
    (hplain : ∀ symbol ∈ operation.symbols, symbol.IsPlain) :
    ∀ leaf ∈ operation.leaves, leaf.IsReadable := by
  intro leaf hm
  have hname : ∀ symbol, leaf.target? = some symbol → symbol.IsPlain :=
    fun symbol hs => hplain symbol (List.mem_filterMap.mpr ⟨leaf, hm, hs⟩)
  rcases mem_leaves_combine_search ho hm with ⟨part, hp, hm⟩ | ⟨word, rfl⟩
  · rw [hp] at h
    obtain ⟨rule, -, hr⟩ := Scope.mem_leaves_filter h hm
    obtain ⟨_, target, operator, -, -, -, hc⟩ := Scope.rowFilter?_eq_some hr
    refine ⟨hname, Scope.isFinite_condition? hc, ?_⟩
    -- a bare symbol is no condition, and a row makes nothing else
    rintro symbol rfl
    rcases Scope.condition?_cases hc with ⟨_, _, he, -⟩ | ⟨_, _, he, -⟩ | ⟨_, he⟩ | ⟨_, he⟩
    · exact absurd he (by simp)
    · exact absurd he (by simp)
    · exact absurd he (by simp)
    · exact absurd he (by simp)
  · refine ⟨hname, ?_, fun _ he => absurd he (by simp)⟩
    intro atom ha
    obtain rfl := Option.some.inj ha
    trivial

/-- Whether the tree holds, if it has a meaning, and the target contains every word. -/
def Scope.sought (scope : Scope) (holds : Condition → Bool) (node : Node) (text : String)
    (target : Symbol) : Bool :=
  (scope.meaning? holds node).getD true &&
    (Text.words text.toList).all fun word =>
      holds (.contains target (.string (String.ofList word)))

/-- **What is sent means what the tree and the search mean.** Nothing is sent only if the
tree has no meaning and the search no word. What is sent otherwise holds if the tree does
and the target contains every word, and that is what its text says to a reader of the
grammar, provided that the names in it are words. -/
theorem combined_filter_means {node : Node} {filter : Option Operation}
    (h : scope.filter node = .ok filter) (holds : Condition → Bool) (text : String)
    (target : Symbol) :
    (combine filter (searchFilter text target) = none ↔
      scope.meaning? holds node = none ∧ Text.words text.toList = []) ∧
    ∀ operation, combine filter (searchFilter text target) = some operation →
      operation.truth? holds = some (scope.sought holds node text target) ∧
      ((∀ symbol ∈ operation.symbols, symbol.IsPlain) →
        (Expression.read operation.text).bind (Expression.eval? holds)
          = some (scope.sought holds node text target)) := by
  -- what is sent means the values of the tree, of which there is at most one, and the words
  have hmeans := means_combine (means_filter holds h)
    (means_searchFilter text target)
  refine ⟨?_, ?_⟩
  · cases hc : combine filter (searchFilter text target) with
    | none =>
      rw [hc] at hmeans
      obtain ⟨hnode, hwords⟩ := List.append_eq_nil_iff.mp hmeans
      simp only [Option.toList_eq_nil_iff] at hnode
      exact ⟨fun _ => ⟨hnode, List.map_eq_nil_iff.mp hwords⟩, fun _ => rfl⟩
    | some operation =>
      rw [hc] at hmeans
      refine ⟨fun hn => absurd hn (by simp), ?_⟩
      rintro ⟨hnode, hwords⟩
      refine absurd ?_ hmeans.1
      rw [hnode, hwords]
      rfl
  · intro operation ho
    rw [ho] at hmeans
    have hvalue : operation.truth? holds = some (scope.sought holds node text target) := by
      rw [hmeans.2, List.all_append, Scope.sought, List.all_map]
      cases scope.meaning? holds node with
      | none => rfl
      | some value => simp
    refine ⟨hvalue, fun hplain => ?_⟩
    rw [Operation.read_text (isReadable_of_mem_combined h ho hplain)]
    exact hvalue

end

namespace Builtin

/-- A negated OR of a row, a negated group of a row without a value, and a group without
rows. -/
def sparseTree : Node :=
  .group (some "OR") true
    [.rule ⟨some "/title", some "is_null", []⟩,
      .group none true [.rule ⟨some "name", some "like", [.null]⟩],
      .group (some "AND") false [.unknown]]

/-- The filter of that tree. -/
def sparseFilter : Operation :=
  .negation (.logic .or (.nullCheck .isNull (.pointer "grapherConfig" "/title")) [])

/-- What is sent for that tree and a search for two words. -/
def sparseSent : Operation :=
  .logic .and sparseFilter
    [.logic .and (.contains (.column "variables.name") (.string "share"))
      [.contains (.column "variables.name") (.string "\"of)")]]

/-- The two groups without a condition neither hold nor fail: where all conditions hold,
the tree does not. -/
theorem sparseTree_means :
    annotationsScope.filter sparseTree = .ok (some sparseFilter) ∧
    combine (some sparseFilter) (searchFilter " share \"of)" (.column "variables.name"))
      = some sparseSent ∧
    (∀ symbol ∈ sparseSent.symbols, symbol.IsPlain) ∧
    annotationsScope.meaning? (fun _ => true) sparseTree = some false ∧
    (Expression.read sparseSent.text).bind (Expression.eval? fun _ => true) = some false := by
  have hfilter : annotationsScope.filter sparseTree = .ok (some sparseFilter) := by rfl
  have hwords : Text.words " share \"of)".toList
      = [['s', 'h', 'a', 'r', 'e'], ['"', 'o', 'f', ')']] := by
    simp [Text.words, Text.isBlank]
  have hsent : combine (some sparseFilter)
      (searchFilter " share \"of)" (.column "variables.name")) = some sparseSent := by
    rw [searchFilter, hwords]
    rfl
  have hplain : ∀ symbol ∈ sparseSent.symbols, symbol.IsPlain := by decide
  have hmeaning : annotationsScope.meaning? (fun _ => true) sparseTree = some false := by rfl
  obtain ⟨-, hmeans⟩ := combined_filter_means hfilter (fun _ => true) " share \"of)"
    (.column "variables.name")
  obtain ⟨-, hread⟩ := hmeans sparseSent hsent
  refine ⟨hfilter, hsent, hplain, hmeaning, ?_⟩
  rw [hread hplain, Scope.sought, hmeaning]
  rfl

end Builtin

namespace Ambiguous

/-- A source with a column whose name reads like the end of one condition and the start of
another. -/
def scope : Scope where
  context :=
    { documentField := "config"
      whitelist := [("a", .string), ("b", .string), ("a) (IS_NULL b", .string), ("config", .json)]
      distinct := ⟨by decide⟩ }
  registry := ⟨[⟨"first", "First", .string, "a"⟩, ⟨"second", "Second", .string, "b"⟩,
    ⟨"third", "Third", .string, "a) (IS_NULL b"⟩]⟩
  maxDepth := 1

/-- A group of a row on that column. -/
def oneRow : Node := .group none false [.rule ⟨some "third", some "is_null", []⟩]

/-- A group of a row on each of the others. -/
def twoRows : Node :=
  .group none false [.rule ⟨some "first", some "is_null", []⟩,
    .rule ⟨some "second", some "is_null", []⟩]

/-- The filter of the one row. -/
def oneFilter : Operation :=
  .logic .and (.nullCheck .isNull (.column "a) (IS_NULL b")) []

/-- The filter of the two rows. -/
def twoFilter : Operation :=
  .logic .and (.nullCheck .isNull (.column "a")) [.nullCheck .isNull (.column "b")]

/-- True of the condition on that column only. -/
def holds (asked : Condition) : Bool := asked = .nullCheck .isNull (.column "a) (IS_NULL b")

/-- Without the condition on names the text does not tell what is meant: here it is the same
for a tree that holds and for one that does not, so no reader of texts is right about both,
and the reader of the grammar is wrong about the first. -/
theorem same_text_other_meaning :
    scope.filter oneRow = .ok (some oneFilter) ∧ scope.filter twoRows = .ok (some twoFilter) ∧
    oneFilter.text = "(AND (IS_NULL a) (IS_NULL b))" ∧ twoFilter.text = oneFilter.text ∧
    scope.sought holds oneRow "" (.column "a") = true ∧
    scope.sought holds twoRows "" (.column "a") = false ∧
    (Expression.read oneFilter.text).bind (Expression.eval? holds) = some false ∧
    ¬∃ read : String → Option Expression, ∀ (scope : Scope) (node : Node)
        (filter : Option Operation) (holds : Condition → Bool) (text : String) (target : Symbol)
        (operation : Operation), scope.filter node = .ok filter →
      combine filter (searchFilter text target) = some operation →
      (read operation.text).bind (Expression.eval? holds)
        = some (scope.sought holds node text target) := by
  have hone : scope.filter oneRow = .ok (some oneFilter) := by rfl
  have htwo : scope.filter twoRows = .ok (some twoFilter) := by rfl
  have htext : oneFilter.text = "(AND (IS_NULL a) (IS_NULL b))" := by decide
  have hsame : twoFilter.text = oneFilter.text := by decide
  have hwords : Text.words "".toList = [] := by simp [Text.words]
  have hsearch : searchFilter "" (.column "a") = none := by
    rw [searchFilter, hwords]
    rfl
  have holdsOne : scope.sought holds oneRow "" (.column "a") = true := by
    rw [Scope.sought, hwords]
    rfl
  have failsTwo : scope.sought holds twoRows "" (.column "a") = false := by
    rw [Scope.sought, hwords]
    rfl
  have hsent : ∀ operation, combine (some operation) (searchFilter "" (.column "a"))
      = some operation := by
    intro operation
    rw [hsearch]
    rfl
  have hplain : ∀ symbol ∈ twoFilter.symbols, symbol.IsPlain := by decide
  refine ⟨hone, htwo, htext, hsame, holdsOne, failsTwo, ?_, ?_⟩
  · rw [← hsame, Operation.read_text (isReadable_of_mem_combined htwo (hsent _) hplain)]
    rfl
  · rintro ⟨read, hread⟩
    have hreadOne := hread scope oneRow _ holds "" _ oneFilter hone (hsent _)
    have hreadTwo := hread scope twoRows _ holds "" _ twoFilter htwo (hsent _)
    rw [hsame, hreadOne, holdsOne, failsTwo] at hreadTwo
    exact absurd hreadTwo (by decide)

end Ambiguous

end RowFilter
