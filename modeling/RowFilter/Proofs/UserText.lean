import RowFilter.Proofs.Grammar.Skeleton
import RowFilter.Proofs.TextErasure
import RowFilter.Proofs.Words

/-!
# User text does not change the structure of a filter

Two trees that differ only in the first values of rows, where both are texts, and in what
stands behind the slash of paths are the same without those texts (`Json.withoutTexts`).

> `same_structure_without_texts`: such trees come to the same error, or to nothing both,
> or to filters with the same skeleton, and no filter holds a control character that no
> column name holds.

Each tree is compared with the tree without texts, node by node: what a node comes to has
the same outline in both (`outline_buildAt`), which takes nothing for granted of the
registry or of how deep the tree is.
-/

namespace RowFilter

/-! ## Outlines -/

/-- The text of a symbol with a placeholder for its path. -/
def Symbol.outline (symbol : Symbol) : List Char := symbol.toSExpr.outline

/-- The text of an atom, or a placeholder for a text. -/
def Atom.outline (atom : Atom) : List Char := atom.toSExpr.outline

namespace Operation

/-- The text of an operation with a placeholder for each literal. -/
def outline (operation : Operation) : List Char := operation.toSExpr.outline

theorem outline_comparison (op : ComparisonOperator) (target : Symbol) (value : Atom) :
    (comparison op target value).outline
      = '(' :: op.token.chars ++ (' ' :: target.outline ++ (' ' :: value.outline ++ [])) ++ [')'] :=
  rfl

theorem outline_equality (op : EqualityOperator) (target : Symbol) (value : Atom) :
    (equality op target value).outline
      = '(' :: op.token.chars ++ (' ' :: target.outline ++ (' ' :: value.outline ++ [])) ++ [')'] :=
  rfl

theorem outline_contains (target : Symbol) (value : Atom) :
    (contains target value).outline
      = '(' :: Token.contains.chars ++ (' ' :: target.outline ++ (' ' :: value.outline ++ []))
        ++ [')'] :=
  rfl

theorem outline_nullCheck (op : NullCheckOperator) (target : Symbol) :
    (nullCheck op target).outline
      = '(' :: op.token.chars ++ (' ' :: target.outline ++ []) ++ [')'] :=
  rfl

theorem outline_negation (inner : Operation) :
    (negation inner).outline = '(' :: Token.not.chars ++ (' ' :: inner.outline ++ []) ++ [')'] :=
  rfl

theorem outlineMore_toSExprs (operands : List Operation) :
    SExpr.outlineMore (toSExprs operands) = (operands.map outline).flatMap (' ' :: ·) := by
  induction operands with
  | nil => rfl
  | cons operand rest ih =>
    rw [toSExprs, SExpr.outlineMore, ih]
    rfl

/-- Of its operands, the outline of a group knows their outlines only. -/
theorem outline_logic (op : LogicOperator) (first : Operation) (rest : List Operation) :
    (logic op first rest).outline
      = '(' :: op.token.chars ++ ((first :: rest).map outline).flatMap (' ' :: ·) ++ [')'] := by
  rw [← outlineMore_toSExprs]
  rfl

end Operation

namespace Scope

/-- Groups of operations of the same outlines have the same outline. -/
theorem outline_join (op : LogicOperator) (negated : Bool) {as bs : List Operation}
    (h : as.map Operation.outline = bs.map Operation.outline) :
    (join op negated as).map Operation.outline = (join op negated bs).map Operation.outline := by
  cases as with
  | nil =>
    cases bs with
    | nil => rfl
    | cons b bs => exact absurd h (by simp)
  | cons a as =>
    cases bs with
    | nil => exact absurd h (by simp)
    | cons b bs =>
      have hlogic : (Operation.logic op a as).outline = (Operation.logic op b bs).outline := by
        rw [Operation.outline_logic, Operation.outline_logic, h]
      cases negated with
      | false => exact congrArg some hlogic
      | true =>
        refine congrArg some ?_
        show (Operation.negation _).outline = (Operation.negation _).outline
        rw [Operation.outline_negation, Operation.outline_negation, hlogic]

/-- A condition on a symbol and a literal, of which only the outlines matter. -/
theorem outline_literal {make : Symbol → Atom → Operation} {a b : Symbol}
    (hmake : ∀ v w : Atom, v.outline = w.outline → (make a v).outline = (make b w).outline)
    (value : Option Json) :
    (((value.map Json.withoutText).bind Atom.ofJson?).map (make a)).map Operation.outline
      = ((value.bind Atom.ofJson?).map (make b)).map Operation.outline := by
  cases value with
  | none => rfl
  | some value =>
    cases value with
    | string text => exact congrArg some (hmake _ _ rfl)
    | bool value => exact congrArg some (hmake _ _ rfl)
    | number n =>
      show ((Atom.ofNumber? n).map _).map _ = ((Atom.ofNumber? n).map _).map _
      cases Atom.ofNumber? n with
      | none => rfl
      | some atom => exact congrArg some (hmake _ _ rfl)
    | _ => rfl

/-- A row makes a condition whatever its text is, and its outline stays. -/
theorem outline_condition? {operator : RuleOperator} {a b : Symbol} (h : a.outline = b.outline)
    (value : Option Json) :
    (condition? operator a (value.map Json.withoutText)).map Operation.outline
      = (condition? operator b value).map Operation.outline := by
  cases operator with
  | comparison op =>
    refine outline_literal (fun v w hv => ?_) value
    rw [Operation.outline_comparison, Operation.outline_comparison, h, hv]
  | equality op =>
    refine outline_literal (fun v w hv => ?_) value
    rw [Operation.outline_equality, Operation.outline_equality, h, hv]
  | contains =>
    have hmake : ∀ v w : String, (Operation.contains a (.string v)).outline
        = (Operation.contains b (.string w)).outline := by
      intro v w
      rw [Operation.outline_contains, Operation.outline_contains, h]
      rfl
    cases value with
    | none => rfl
    | some value =>
      cases value with
      | string text => exact congrArg some (hmake _ _)
      | bool value => exact congrArg some (hmake _ _)
      | number n => exact congrArg some (hmake _ _)
      | _ => rfl
  | nullCheck op =>
    refine congrArg some ?_
    rw [Operation.outline_nullCheck, Operation.outline_nullCheck, h]
  | emptiness op =>
    refine congrArg some ?_
    rw [Operation.outline_equality, Operation.outline_equality, h]

variable {scope : Scope}

/-- What stands behind the slash of a path does not decide whether it is refused. -/
theorem outline_symbol (scope : Scope) (field : String) :
    (scope.symbol (bareField field)).map Symbol.outline
      = (scope.symbol field).map Symbol.outline := by
  unfold bareField
  by_cases hp : isPath field = true
  · -- both are places in the document, which are refused for the document's sake only
    have hbare : isPath "/" = true := by decide
    rw [if_pos hp, symbol_of_isPath hbare, symbol_of_isPath hp, Context.pointer, Context.pointer]
    split
    next => rfl
    next => rfl
  · rw [if_neg hp]

/-! ## One run against the run without texts -/

/-- The outline of what a node comes to. -/
def outline? (built : Built) : Option (List Char) := built.filter.map Operation.outline

/-- The outlines of what several nodes come to. -/
def outlines (all : List Operation × List Omission) : List (List Char) :=
  all.1.map Operation.outline

theorem map_outline? (outcome : Except FilterError Built) :
    outcome.map outline? = (outcome.map Built.filter).map (Option.map Operation.outline) :=
  (map_map outcome _ _).symm

/-- Where the same operator meets values that look the same, so do the conditions. -/
theorem outline_completed {rule : Rule} {field field' : String} {a b : Symbol}
    (h : a.outline = b.outline) :
    outline? (completed rule.withoutTexts field a) = outline? (completed rule field' b) := by
  rw [outline?, outline?, filter_completed, filter_completed, rule.firstValue?_withoutTexts]
  show ((rule.operator.bind RuleOperator.ofName?).bind _).map _ = Option.map _ (Option.bind _ _)
  cases rule.operator.bind RuleOperator.ofName? with
  | none => rfl
  | some operator => exact outline_condition? h rule.firstValue?

theorem outline_buildRule (scope : Scope) (rule : Rule) :
    (scope.buildRule rule.withoutTexts).map outline? = (scope.buildRule rule).map outline? := by
  rw [buildRule_eq, buildRule_eq]
  show Except.map _ ((rule.field.map bareField).elim _ _) = _
  cases rule.field with
  | none => rfl
  | some field =>
    rw [Option.map_some, Option.elim_some, Option.elim_some, map_map, map_map]
    exact map_eq_map_of_map (outline_symbol scope field) fun _ _ h => outline_completed h

mutual

theorem outline_buildAt (scope : Scope) : ∀ (node : Node) (depth : Nat),
    (scope.buildAt depth node.withoutTexts).map outline? = (scope.buildAt depth node).map outline?
  | .unknown, depth => rfl
  | .rule row, depth => by
    rcases Nat.lt_or_ge scope.maxDepth depth with hd | hd
    · rw [buildAt_of_lt hd, buildAt_of_lt hd]
    · rw [Node.withoutTexts, buildAt_rule hd, buildAt_rule hd]
      exact outline_buildRule scope row
  | .group conjunction negated children, depth => by
    -- the bound and the conjunction are the same in both runs: both fail by them or none
    rcases Nat.lt_or_ge scope.maxDepth depth with hd | hd
    · rw [buildAt_of_lt hd, buildAt_of_lt hd]
    · rw [Node.withoutTexts, buildAt_group hd, buildAt_group hd, map_bind, map_bind]
      refine congrArg (Except.bind _) (funext fun op => ?_)
      rw [map_map, map_map]
      exact map_eq_map_of_map (outline_buildAll scope children (depth + 1))
        fun _ _ h => outline_join op negated h

theorem outline_buildAll (scope : Scope) : ∀ (nodes : List Node) (depth : Nat),
    (scope.buildAll depth (Node.allWithoutTexts nodes)).map outlines
      = (scope.buildAll depth nodes).map outlines
  | [], depth => rfl
  | node :: rest, depth => by
    rw [Node.allWithoutTexts, buildAll_cons, buildAll_cons, map_bind, map_bind]
    refine bind_eq_bind_of_map (outline_buildAt scope node depth) fun bare full hfirst => ?_
    rw [map_map, map_map]
    refine map_eq_map_of_map (outline_buildAll scope rest depth) fun more more' hmore => ?_
    show (bare.filter.toList ++ more.1).map Operation.outline
      = (full.filter.toList ++ more'.1).map Operation.outline
    have hfirst : bare.filter.toList.map Operation.outline
        = full.filter.toList.map Operation.outline := by
      rw [← Option.toList_map, ← Option.toList_map]
      exact congrArg Option.toList hfirst
    rw [List.map_append, List.map_append, hfirst]
    exact congrArg _ hmore

end

/-- The outline of a tree's filter is that of the tree without texts. -/
theorem outline_filterOfJson (scope : Scope) (value : Json) :
    (scope.filterOfJson value.withoutTexts).map (Option.map Operation.outline)
      = (scope.filterOfJson value).map (Option.map Operation.outline) := by
  have h := outline_buildAt scope (Node.ofJson value) 0
  rw [map_outline?, map_outline?] at h
  rw [filterOfJson, filterOfJson, Node.ofJson_withoutTexts]
  exact h

/-! ## The words of a filter -/

/-- True of the characters of which operators, decimals and truth values are made, and
of most others. -/
def IsFrame (c : Char) : Prop := c ≠ '"' ∧ 0x20 ≤ c.toNat

instance : DecidablePred IsFrame := fun _ => inferInstanceAs (Decidable (_ ∧ _))

theorem isFrame_of_mem_token (token : Token) : ∀ c ∈ token.chars, IsFrame c := by
  have all : (token.chars.all fun c => IsFrame c) = true := by cases token <;> decide
  simpa using all

theorem isFrame_of_mem_boolText (value : Bool) : ∀ c ∈ Json.boolText value, IsFrame c := by
  have all : ((Json.boolText value).all fun c => IsFrame c) = true := by cases value <;> decide
  simpa using all

theorem isFrame_of_mem_decimal {word : List Char} (h : Decimal.isDecimal word = true) :
    ∀ c ∈ word, IsFrame c := by
  intro c hc
  rcases (Decimal.mem_of_isDecimal h).2 c hc with hdigit | rfl | rfl
  · have hrange : 48 ≤ c.toNat := by
      simp only [Char.isDigit, Bool.and_eq_true, decide_eq_true_eq] at hdigit
      exact hdigit.1
    refine ⟨?_, by omega⟩
    rintro rfl
    exact absurd hdigit (by decide)
  · exact ⟨by decide, by decide⟩
  · exact ⟨by decide, by decide⟩

/-- What holds of all those characters holds of those of the grammar. -/
theorem ofGrammar_of_frame {good : Char → Prop} (frame : ∀ c, IsFrame c → good c) :
    OfGrammar fun word => ∀ c ∈ word, good c where
  tokens token c hc := frame c (isFrame_of_mem_token token c hc)
  decimals _ hw c hc := frame c (isFrame_of_mem_decimal hw c hc)
  keywords value c hc := frame c (isFrame_of_mem_boolText value c hc)

/-- The skeleton of a filter is its outline, if no name holds a double quote. -/
theorem skeleton?_text (hnames : ∀ name ∈ scope.context.names, '"' ∉ name.toList) {node : Node}
    {operation : Operation} (h : scope.filter node = .ok (some operation)) :
    Text.skeleton? operation.text = some operation.outline := by
  have hwords : operation.toSExpr.EachWord SExpr.NoQuote := by
    refine eachWord_filter (ofGrammar_of_frame fun c hc => hc.1) ?_ h
    rintro name hn c hc rfl
    exact hnames name hn hc
  rw [Operation.text, ← Operation.render_toSExpr]
  exact SExpr.skeleton?_render hwords

/-- A control character in a filter's text is one of a name. -/
theorem mem_names_of_control {node : Node} {operation : Operation}
    (h : scope.filter node = .ok (some operation)) {c : Char} (hc : c ∈ operation.text.toList)
    (hlow : c.toNat < 0x20) : ∃ name ∈ scope.context.names, c ∈ name.toList := by
  -- what can be said of every character of the text
  let good (c : Char) : Prop := 0x20 ≤ c.toNat ∨ ∃ name ∈ scope.context.names, c ∈ name.toList
  have hwords : operation.toSExpr.EachWord fun word => ∀ c ∈ word, good c :=
    eachWord_filter (ofGrammar_of_frame fun c hc => Or.inl hc.2)
      (fun name hn c hc => Or.inr ⟨name, hn, hc⟩) h
  have hframe : good '(' ∧ good ')' ∧ good ' ' :=
    ⟨Or.inl (by decide), Or.inl (by decide), Or.inl (by decide)⟩
  have hliterals : ∀ text, ∀ c ∈ Text.Quoted.encode text, good c :=
    fun _ _ hc => Or.inl (Text.Quoted.printable_of_mem_encode hc)
  rw [Operation.text, String.toList_ofList, ← Operation.render_toSExpr] at hc
  rcases SExpr.forall_mem_render hframe hliterals _ hwords c hc with hhigh | hname
  · omega
  · exact hname

/-! ## Two runs -/

/-- What it means for two trees to come to filters of one structure: the same error, or
nothing both, or texts with the same skeleton. -/
def SameStructure : Except FilterError (Option Operation) →
    Except FilterError (Option Operation) → Prop
  | .error a, .error b => a = b
  | .ok none, .ok none => True
  | .ok (some a), .ok (some b) =>
    ∃ skeleton, Text.skeleton? a.text = some skeleton ∧ Text.skeleton? b.text = some skeleton
  | _, _ => False

/-- Outcomes with the same outlines have one structure, if outlines are skeletons. -/
theorem sameStructure_of_outline {x y : Except FilterError (Option Operation)}
    (hx : ∀ a, x = .ok (some a) → Text.skeleton? a.text = some a.outline)
    (hy : ∀ b, y = .ok (some b) → Text.skeleton? b.text = some b.outline)
    (h : x.map (Option.map Operation.outline) = y.map (Option.map Operation.outline)) :
    SameStructure x y := by
  rcases outcome_cases h with ⟨error, rfl, rfl⟩ | ⟨a, b, rfl, rfl, ho⟩
  · rfl
  · cases a with
    | none =>
      cases b with
      | none => trivial
      | some b => exact absurd ho (by simp)
    | some a =>
      cases b with
      | none => exact absurd ho (by simp)
      | some b =>
        have ho : a.outline = b.outline := Option.some.inj ho
        exact ⟨a.outline, hx a rfl, by rw [ho]; exact hy b rfl⟩

/-- **User text cannot change the structure of a filter.** If no name of the context
holds a double quote, two trees that differ in user text only come to the same error, to
nothing both, or to filters whose texts have the same skeleton. And whatever the tree, a
control character in its filter's text is one of a name of the context. -/
theorem same_structure_without_texts (scope : Scope) :
    ((∀ name ∈ scope.context.names, '"' ∉ name.toList) →
      ∀ a b : Json, a.withoutTexts = b.withoutTexts →
        SameStructure (scope.filterOfJson a) (scope.filterOfJson b)) ∧
    ∀ (value : Json) (operation : Operation), scope.filterOfJson value = .ok (some operation) →
      ∀ c ∈ operation.text.toList, c.toNat < 0x20 →
        ∃ name ∈ scope.context.names, c ∈ name.toList := by
  refine ⟨?_, fun value operation h c hc hlow => mem_names_of_control h hc hlow⟩
  intro hnames a b hab
  refine sameStructure_of_outline (fun _ h => skeleton?_text hnames h)
    (fun _ h => skeleton?_text hnames h) ?_
  calc (scope.filterOfJson a).map (Option.map Operation.outline)
      = (scope.filterOfJson a.withoutTexts).map (Option.map Operation.outline) :=
        (outline_filterOfJson scope a).symm
    _ = (scope.filterOfJson b.withoutTexts).map (Option.map Operation.outline) := by rw [hab]
    _ = (scope.filterOfJson b).map (Option.map Operation.outline) := outline_filterOfJson scope b

end Scope

namespace Tabbed

/-- A source with a tab in the name of a column. -/
def scope : Scope where
  context :=
    { documentField := "config"
      whitelist := [("short\tname", .string), ("config", .json)]
      distinct := ⟨by decide⟩ }
  registry := ⟨[⟨"name", "Name", .string, "short\tname"⟩]⟩
  maxDepth := 1

/-- A row on that column and one on a place in the document, with texts of a user. -/
def query (text path : String) : Json :=
  .object [("type", .string "group"), ("properties", .object [("conjunction", .string "OR")]),
    ("children1", .array [Builtin.rowOf "name" "like" (.string text),
      Builtin.rowOf ("/" ++ path) "is_null" .null])]

/-- Texts that look like the end of a literal and the start of a filter. -/
def hostileQuery : Json := query "\") (NOT \n\\" "a\\\") (OR"

/-- The filter of those texts. -/
def hostileFilter : Operation :=
  .logic .or (.contains (.column "short\tname") (.string "\") (NOT \n\\"))
    [.nullCheck .isNull (.pointer "config" "/a\\\") (OR")]

/-- Such texts against harmless ones, and the tab that comes from the column's name. -/
theorem hostileQuery_same_structure :
    (∀ name ∈ scope.context.names, '"' ∉ name.toList) ∧
    (query "gdp" "title").withoutTexts = hostileQuery.withoutTexts ∧
    Scope.SameStructure (scope.filterOfJson (query "gdp" "title"))
      (scope.filterOfJson hostileQuery) ∧
    scope.filterOfJson hostileQuery = .ok (some hostileFilter) ∧
    '\t' ∈ hostileFilter.text.toList ∧ ∃ name ∈ scope.context.names, '\t' ∈ name.toList := by
  have hnames : ∀ name ∈ scope.context.names, '"' ∉ name.toList := by decide
  have htexts : (query "gdp" "title").withoutTexts = hostileQuery.withoutTexts := by cbv
  have hfilter : scope.filterOfJson hostileQuery = .ok (some hostileFilter) := by cbv
  have htab : '\t' ∈ hostileFilter.text.toList := by decide +kernel
  obtain ⟨structures, controls⟩ := Scope.same_structure_without_texts scope
  exact ⟨hnames, htexts, structures hnames _ _ htexts, hfilter, htab,
    controls _ _ hfilter _ htab (by decide)⟩

end Tabbed

end RowFilter
