import RowFilter.Proofs.FinishedRows
import RowFilter.Proofs.Vanishing

/-!
# Other spellings of the same condition

Text widgets and select widgets name the same operator differently, a test for emptiness is
a match with the empty text, and a test for a value has no use for the values of its row.
Two trees that differ in such spellings only (`Json.Respelled`), in any rows at any depth,
come to the same:

> `conditionOn?_of_respelled`: a row makes the same condition of every symbol;
> `same_filter_of_respelled`: so do whole trees, or they fail with the same error.

What a row compares with may be missing or malformed: its condition is then missing in
either spelling. Which error a tree has is not the business of spellings either, because
rows fail by their fields and groups by their conjunctions and depths.
-/

namespace RowFilter

namespace Json

/-- `Respells name values name' values'`: an operator with the values of its row, if there
are any, asks for the same under another name, or with other values. -/
inductive Respells : String → Option Json → String → Option Json → Prop
  | equal (values : Option Json) : Respells "select_equals" values "equal" values
  | selectEquals (values : Option Json) : Respells "equal" values "select_equals" values
  | notEqual (values : Option Json) : Respells "select_not_equals" values "not_equal" values
  | selectNotEquals (values : Option Json) :
    Respells "not_equal" values "select_not_equals" values
  | isEmpty (values : Option Json) :
    Respells "is_empty" values "equal" (some (.array [.string ""]))
  | isNotEmpty (values : Option Json) :
    Respells "is_not_empty" values "not_equal" (some (.array [.string ""]))
  | isNull (values others : Option Json) : Respells "is_null" values "is_null" others
  | isNotNull (values others : Option Json) :
    Respells "is_not_null" values "is_not_null" others

/-- True of two rows that are the same but for the spelling of what they ask. -/
structure RespelledRow (a b : Json) : Prop where
  isRow : Node.type? a = some "rule"
  /-- All that is not said in the properties is the same. -/
  members : ∀ key, key ≠ "properties" → a.get? key = b.get? key
  properties : ∀ key, key ≠ "operator" → key ≠ "value" →
    Node.property? key a = Node.property? key b
  spelling : ∃ name name', Node.property? "operator" a = some (.string name) ∧
    Node.property? "operator" b = some (.string name') ∧
    Respells name (Node.property? "value" a) name' (Node.property? "value" b)

/-- True of two trees that are the same but for the spelling of some of their rows. -/
inductive Respelled : Json → Json → Prop where
  | same (value : Json) : Respelled value value
  | row {a b : Json} (h : RespelledRow a b) : Respelled a b
  | group {a b : Json} (isGroup : Node.type? a = some "group")
    (members : ∀ key, key ≠ "children1" → a.get? key = b.get? key)
    (children : List.Forall₂ Respelled (Node.children a) (Node.children b)) : Respelled a b

end Json

namespace Scope

variable {scope : Scope} {a b : Json} {depth : Nat}

/-! ## Rows -/

/-- The condition that a row makes of a symbol, by its operator's name and its values. -/
def conditionBy? (name : String) (values : Option Json) (target : Symbol) : Option Operation :=
  (RuleOperator.ofName? name).bind fun operator =>
    condition? operator target
      (Rule.firstValue? ⟨none, none, (values.bind Json.items?).getD []⟩)

theorem conditionOn?_eq_conditionBy? {name : String}
    (h : Node.property? "operator" a = some (.string name)) (target : Symbol) :
    conditionOn? a target = conditionBy? name (Node.property? "value" a) target := by
  rw [conditionOn?, h]
  rfl

/-- Names and values that ask for the same make the same condition. -/
theorem conditionBy?_of_respells {name name' : String} {values values' : Option Json}
    (h : Json.Respells name values name' values') (target : Symbol) :
    conditionBy? name values target = conditionBy? name' values' target := by
  cases h with
  | equal values => rfl
  | selectEquals values => rfl
  | notEqual values => rfl
  | selectNotEquals values => rfl
  | isEmpty values => rfl
  | isNotEmpty values => rfl
  | isNull values others => rfl
  | isNotNull values others => rfl

theorem conditionOn?_of_respelled (h : a.RespelledRow b) (target : Symbol) :
    conditionOn? a target = conditionOn? b target := by
  obtain ⟨name, name', ha, hb, hrespells⟩ := h.spelling
  rw [conditionOn?_eq_conditionBy? ha, conditionOn?_eq_conditionBy? hb,
    conditionBy?_of_respells hrespells]

/-- Of a row its place knows the filter only. -/
theorem filterAt_rule_congr {row other : Rule}
    (h : (scope.buildRule row).map Built.filter = (scope.buildRule other).map Built.filter) :
    scope.filterAt depth (.rule row) = scope.filterAt depth (.rule other) := by
  refine filterAt_congr_of_le fun hd => ?_
  rw [filterAt, filterAt, buildAt_rule hd, buildAt_rule hd, h]

theorem filterAt_of_respelledRow (h : a.RespelledRow b) :
    scope.filterAt depth (Node.ofJson a) = scope.filterAt depth (Node.ofJson b) := by
  have htype : Node.type? b = some "rule" := by
    rw [← h.isRow, Node.type?, Node.type?, h.members "type" (by decide)]
  have hfield := h.properties "field" (by decide) (by decide)
  rw [Node.ofJson_rule h.isRow, Node.ofJson_rule htype]
  refine filterAt_rule_congr ?_
  rw [map_filter_buildRule_ruleOf, map_filter_buildRule_ruleOf, hfield,
    funext (conditionOn?_of_respelled h)]

/-! ## Trees -/

theorem filtersAt_of_respelled {as bs : List Json} (h : List.Forall₂ Json.Respelled as bs)
    (hsame : ∀ a ∈ as, ∀ b, a.Respelled b →
      scope.filterAt depth (Node.ofJson a) = scope.filterAt depth (Node.ofJson b)) :
    scope.filtersAt depth (as.map Node.ofJson) = scope.filtersAt depth (bs.map Node.ofJson) := by
  induction h with
  | nil => rfl
  | cons hfirst _ ih =>
    have hrest := ih fun a ha => hsame a (List.mem_cons_of_mem _ ha)
    rw [List.map_cons, List.map_cons, filtersAt_cons, filtersAt_cons, hrest,
      hsame _ (List.mem_cons_self ..) _ hfirst]

/-- Trees in other spellings come to the same wherever they hang. -/
theorem filterAt_of_respelled (h : a.Respelled b) (depth : Nat) :
    scope.filterAt depth (Node.ofJson a) = scope.filterAt depth (Node.ofJson b) := by
  induction a using Node.ofJson_induction generalizing b depth with
  | group a ha ih =>
    cases h with
    | same => rfl
    | row h => exact filterAt_of_respelledRow h
    | group _ members children =>
      have htype : Node.type? b = some "group" := by
        rw [← ha, Node.type?, Node.type?, members "type" (by decide)]
      have hproperty : ∀ key, Node.property? key a = Node.property? key b := fun key => by
        rw [Node.property?, Node.property?, members "properties" (by decide)]
      rw [Node.ofJson_group ha, Node.ofJson_group htype, hproperty, hproperty]
      refine filterAt_group_congr (filtersAt_of_respelled children ?_)
      exact fun child hc other hother => ih child hc hother (depth + 1)
  | rule a ha =>
    cases h with
    | same => rfl
    | row h => exact filterAt_of_respelledRow h
    | group hgroup _ _ => exact absurd (ha.symm.trans hgroup) (by decide)
  | unknown a hg hr =>
    cases h with
    | same => rfl
    | row h => exact absurd h.isRow hr
    | group hgroup _ _ => exact absurd hgroup hg

/-- **Spellings do not matter.** Trees that differ in the spelling of any of their rows come
to the same result, for every source and every depth bound: the same filter, none both, or
the same error. -/
theorem same_filter_of_respelled (scope : Scope) (h : a.Respelled b) :
    scope.filterOfJson a = scope.filterOfJson b :=
  filterAt_of_respelled h 0

end Scope

namespace Builtin

/-- A row on notes, of which the values may be missing. -/
def noteRow (operator : String) (values : List (String × Json)) : Json :=
  .object [("type", .string "rule"), ("properties", .object
    ([("field", .string "/note"), ("operator", .string operator)] ++ values))]

/-- A group of a row, a group of a row under a key, and a row without a value. -/
def treeOf (first inner last : Json) : Json :=
  .object [("type", .string "group"), ("children1", .array
    [first, .object [("type", .string "group"), ("children1", .object [("7a", inner)])], last])]

/-- The tree in the words of select widgets, with a test for emptiness that has no values. -/
def selectTree : Json :=
  treeOf (rowOf "name" "select_equals" (.string "gdp")) (noteRow "is_empty" [])
    (rowOf "name" "select_not_equals" .null)

/-- The tree in the words of text widgets, with a match with the empty text. -/
def textTree : Json :=
  treeOf (rowOf "name" "equal" (.string "gdp"))
    (noteRow "equal" [("value", .array [.string ""])]) (rowOf "name" "not_equal" .null)

/-- Rows by `rowOf` that differ in their operators only. -/
theorem respelledRow_rowOf {name name' : String} {first : Json} (field : String)
    (h : Json.Respells name (some (.array [first])) name' (some (.array [first]))) :
    (rowOf field name first).RespelledRow (rowOf field name' first) where
  isRow := rfl
  members key hkey := by simp [rowOf, Json.get?, Keyed.get?, Ne.symm hkey]
  properties key hoperator _ := by
    simp [rowOf, Node.property?, Json.get?, Keyed.get?, Ne.symm hoperator]
  spelling := ⟨name, name', rfl, rfl, h⟩

theorem selectTree_respelled : selectTree.Respelled textTree := by
  have hnote : (noteRow "is_empty" []).RespelledRow
      (noteRow "equal" [("value", .array [.string ""])]) := by
    refine ⟨rfl, fun key hkey => ?_, fun key hoperator hvalue => ?_, ?_⟩
    · simp [noteRow, Json.get?, Keyed.get?, Ne.symm hkey]
    · simp [noteRow, Node.property?, Json.get?, Keyed.get?, Ne.symm hoperator, Ne.symm hvalue]
    · exact ⟨"is_empty", "equal", rfl, rfl, .isEmpty none⟩
  refine .group rfl (fun key hkey => ?_) (.cons ?_ (.cons ?_ (.cons ?_ .nil)))
  · simp [selectTree, textTree, treeOf, Json.get?, Keyed.get?, Ne.symm hkey]
  · exact .row (respelledRow_rowOf "name" (.equal _))
  · refine .group rfl (fun key hkey => ?_) (.cons (.row hnote) .nil)
    simp [Json.get?, Keyed.get?, Ne.symm hkey]
  · exact .row (respelledRow_rowOf "name" (.notEqual _))

/-- The filter of both trees. -/
def spelledFilter : Operation :=
  .logic .and (.equality .equal (.column "variables.name") (.string "gdp"))
    [.logic .and (.equality .equal (.pointer "grapherConfig" "/note") (.string "")) []]

/-- Three rows are spelled in another way, one of them below another group and one that is
left out, and the filter stays the same. -/
theorem selectTree_same_filter :
    selectTree.Respelled textTree ∧
    annotationsScope.filterOfJson selectTree = annotationsScope.filterOfJson textTree ∧
    annotationsScope.filterOfJson textTree = .ok (some spelledFilter) := by
  have hfilter : annotationsScope.filterOfJson selectTree = .ok (some spelledFilter) := by cbv
  have hsame := annotationsScope.same_filter_of_respelled selectTree_respelled
  exact ⟨selectTree_respelled, hsame, hsame ▸ hfilter⟩

end Builtin

end RowFilter
