import Mathlib.Data.List.Forall2
import RowFilter.Proofs.Node
import RowFilter.Proofs.Whitelist

/-!
# Trees that say the same

Much of what the query builder hands over says nothing: the ids of rows, the sources of
values, values behind the first one, and whether children come in an array or under keys.
Two trees are alike (`Json.Alike`) if the parts that do say something agree at the root and
in the children, one by one.

> `same_filter_of_alike`: like trees come to the same result.

Likeness is said of JSON values, without the nodes that are read from them. Nodes of like
trees are equal once every row is left with its first value (`Node.trimmed`), and no
filter depends on other values (`build_trimmed`).
-/

namespace RowFilter

namespace Json

/-- True of a member that is not there or `null`. -/
def Absent (member : Option Json) : Prop := member = none ∨ member = some .null

/-- The first item of a row's values; none if they are no array or an empty one. -/
def firstItem? (value : Json) : Option Json :=
  ((Node.property? "value" value).bind items?).bind List.head?

/-- True of two groups that say the same about how their children are joined. -/
structure SameGroup (a b : Json) : Prop where
  isGroup : Node.type? a = some "group" ∧ Node.type? b = some "group"
  conjunction : Node.property? "conjunction" a = Node.property? "conjunction" b ∨
    Absent (Node.property? "conjunction" a) ∧ Absent (Node.property? "conjunction" b)
  /-- Anything but true does not negate a group. -/
  negation : Node.property? "not" a = some (.bool true) ↔
    Node.property? "not" b = some (.bool true)

/-- True of two rows of the same field, the same operator and the same first value. -/
structure SameRow (a b : Json) : Prop where
  isRow : Node.type? a = some "rule" ∧ Node.type? b = some "rule"
  field : (Node.property? "field" a).bind string? = (Node.property? "field" b).bind string?
  operator : (Node.property? "operator" a).bind string?
    = (Node.property? "operator" b).bind string?
  firstItem : firstItem? a = firstItem? b

/-- True of a value that is neither a group nor a row. -/
def IsOther (value : Json) : Prop :=
  Node.type? value ≠ some "group" ∧ Node.type? value ≠ some "rule"

/-- True of two trees that agree in all parts that say something. -/
inductive Alike : Json → Json → Prop where
  | group {a b : Json} (same : SameGroup a b)
      (children : List.Forall₂ Alike (Node.children a) (Node.children b)) : Alike a b
  | row {a b : Json} (same : SameRow a b) : Alike a b
  | other {a b : Json} (ha : IsOther a) (hb : IsOther b) : Alike a b

end Json

/-! ## Rows with their first values only -/

/-- A row without the values behind the first one. -/
def Rule.trimmed (rule : Rule) : Rule where
  field := rule.field
  operator := rule.operator
  value := rule.value.take 1

theorem Rule.firstValue?_trimmed (rule : Rule) : rule.trimmed.firstValue? = rule.firstValue? := by
  unfold firstValue? trimmed
  cases rule.value with
  | nil => rfl
  | cons first rest => rfl

namespace Node

mutual

/-- A tree whose rows are left with their first values. -/
def trimmed : Node → Node
  | .group conjunction negated children => .group conjunction negated (allTrimmed children)
  | .rule row => .rule row.trimmed
  | .unknown => .unknown

/-- Trees whose rows are left with their first values. -/
def allTrimmed : List Node → List Node
  | [] => []
  | node :: rest => trimmed node :: allTrimmed rest

end

end Node

namespace Scope

variable {scope : Scope}

theorem buildRule_trimmed (scope : Scope) (rule : Rule) :
    scope.buildRule rule.trimmed = scope.buildRule rule := by
  unfold buildRule
  rw [Rule.firstValue?_trimmed]
  rfl

mutual

/-- No tree comes to anything else without the values behind the first ones. -/
theorem buildAt_trimmed (scope : Scope) : ∀ (node : Node) (depth : Nat),
    scope.buildAt depth node.trimmed = scope.buildAt depth node
  | .group conjunction negated children, depth => by
    rw [Node.trimmed, buildAt, buildAt, buildAll_trimmed scope children (depth + 1)]
  | .rule row, depth => by
    rw [Node.trimmed, buildAt, buildAt, buildRule_trimmed]
  | .unknown, depth => by rw [Node.trimmed]

theorem buildAll_trimmed (scope : Scope) : ∀ (nodes : List Node) (depth : Nat),
    scope.buildAll depth (Node.allTrimmed nodes) = scope.buildAll depth nodes
  | [], depth => by rw [Node.allTrimmed]
  | node :: rest, depth => by
    rw [Node.allTrimmed, buildAll, buildAll, buildAt_trimmed scope node depth,
      buildAll_trimmed scope rest depth]

end

end Scope

/-! ## Like trees have the same trimmed nodes -/

namespace Json

variable {a b : Json}

/-- An absent conjunction is none, whether it is not there or `null`. -/
theorem conjunctionText?_of_absent {member : Option Json} (h : Absent member) :
    member.bind Node.conjunctionText? = none := by
  rcases h with rfl | rfl
  · rfl
  · rfl

theorem SameGroup.conjunctionText? (h : SameGroup a b) :
    (Node.property? "conjunction" a).bind Node.conjunctionText?
      = (Node.property? "conjunction" b).bind Node.conjunctionText? := by
  rcases h.conjunction with hsame | ⟨ha, hb⟩
  · rw [hsame]
  · rw [conjunctionText?_of_absent ha, conjunctionText?_of_absent hb]

/-- A member negates a group if and only if it is true. -/
theorem getD_bool?_eq_true_iff {member : Option Json} :
    (member.bind bool?).getD false = true ↔ member = some (.bool true) := by
  cases member with
  | none => simp
  | some value => cases value <;> simp [bool?]

theorem SameGroup.negated (h : SameGroup a b) :
    ((Node.property? "not" a).bind bool?).getD false
      = ((Node.property? "not" b).bind bool?).getD false := by
  rw [Bool.eq_iff_iff, getD_bool?_eq_true_iff, getD_bool?_eq_true_iff]
  exact h.negation

theorem take_one_ruleOf (value : Json) :
    (Node.ruleOf value).value.take 1 = (firstItem? value).toList := by
  unfold Node.ruleOf firstItem?
  cases (Node.property? "value" value).bind items? with
  | none => rfl
  | some items =>
    cases items with
    | nil => rfl
    | cons first rest => rfl

theorem SameRow.trimmed_ruleOf (h : SameRow a b) :
    (Node.ruleOf a).trimmed = (Node.ruleOf b).trimmed := by
  have hfield : (Node.ruleOf a).field = (Node.ruleOf b).field := h.field
  have hoperator : (Node.ruleOf a).operator = (Node.ruleOf b).operator := h.operator
  have hvalue : (Node.ruleOf a).value.take 1 = (Node.ruleOf b).value.take 1 := by
    rw [take_one_ruleOf, take_one_ruleOf, h.firstItem]
  unfold Rule.trimmed
  rw [hfield, hoperator, hvalue]

theorem allTrimmed_of_alike {as bs : List Json} (h : List.Forall₂ Alike as bs)
    (htrimmed : ∀ a ∈ as, ∀ b, Alike a b → (Node.ofJson a).trimmed = (Node.ofJson b).trimmed) :
    Node.allTrimmed (as.map Node.ofJson) = Node.allTrimmed (bs.map Node.ofJson) := by
  induction h with
  | nil => rfl
  | cons halike _ ih =>
    have hrest := ih fun a ha => htrimmed a (List.mem_cons_of_mem _ ha)
    rw [List.map_cons, List.map_cons, Node.allTrimmed, Node.allTrimmed, hrest,
      htrimmed _ (List.mem_cons_self ..) _ halike]

/-- The nodes of like trees differ only in values behind the first one of a row. -/
theorem trimmed_ofJson_of_alike (h : Alike a b) :
    (Node.ofJson a).trimmed = (Node.ofJson b).trimmed := by
  induction a using Node.ofJson_induction generalizing b with
  | group a ha ih =>
    cases h with
    | group same children =>
      -- the values of the children may lie deeper in one group than in the other, so the
      -- induction is on the first tree alone and speaks of all trees that are like it
      have hchildren := allTrimmed_of_alike children fun child hc other hother => ih child hc hother
      rw [Node.ofJson_group ha, Node.ofJson_group same.isGroup.2, Node.trimmed, Node.trimmed,
        same.conjunctionText?, same.negated, hchildren]
    | row same => exact absurd (ha.symm.trans same.isRow.1) (by decide)
    | other hother _ => exact absurd ha hother.1
  | rule a ha =>
    cases h with
    | group same _ => exact absurd (ha.symm.trans same.isGroup.1) (by decide)
    | row same =>
      rw [Node.ofJson_rule ha, Node.ofJson_rule same.isRow.2, Node.trimmed, Node.trimmed,
        same.trimmed_ruleOf]
    | other hother _ => exact absurd ha hother.2
  | unknown a hg hr =>
    cases h with
    | group same _ => exact absurd same.isGroup.1 hg
    | row same => exact absurd same.isRow.1 hr
    | other _ hother => rw [Node.ofJson_unknown hg hr, Node.ofJson_unknown hother.1 hother.2]

/-! ## What does not make trees unlike -/

theorem SameGroup.refl (h : Node.type? a = some "group") : SameGroup a a :=
  ⟨⟨h, h⟩, Or.inl rfl, Iff.rfl⟩

theorem Alike.refl (value : Json) : Alike value value := by
  induction value using Node.ofJson_induction with
  | group value h ih => exact .group (.refl h) (List.forall₂_same.mpr ih)
  | rule value h => exact .row ⟨⟨h, h⟩, rfl, rfl, rfl⟩
  | unknown value hg hr => exact .other ⟨hg, hr⟩ ⟨hg, hr⟩

/-- Of a value only the type, the properties and the children say something: which other
members there are, the order of the members, and how the children are held do not. -/
theorem Alike.of_get? (htype : a.get? "type" = b.get? "type")
    (hproperties : a.get? "properties" = b.get? "properties")
    (hchildren : List.Forall₂ Alike (Node.children a) (Node.children b)) : Alike a b := by
  have ht : Node.type? a = Node.type? b := by rw [Node.type?, Node.type?, htype]
  have hp : ∀ key, Node.property? key a = Node.property? key b := fun key => by
    rw [Node.property?, Node.property?, hproperties]
  by_cases hg : Node.type? a = some "group"
  · have same : SameGroup a b := ⟨⟨hg, ht ▸ hg⟩, Or.inl (hp _), by rw [hp]⟩
    exact .group same hchildren
  · by_cases hr : Node.type? a = some "rule"
    · have hfirst : firstItem? a = firstItem? b := by rw [firstItem?, firstItem?, hp]
      exact .row ⟨⟨hr, ht ▸ hr⟩, by rw [hp], by rw [hp], hfirst⟩
    · exact .other ⟨hg, hr⟩ ⟨ht ▸ hg, ht ▸ hr⟩

end Json

/-- **Like trees come to the same result,** for every source and every depth bound: the
same filter, none both, or the same error. -/
theorem Scope.same_filter_of_alike (scope : Scope) {a b : Json} (h : a.Alike b) :
    scope.filterOfJson a = scope.filterOfJson b := by
  have hbuild : scope.build (Node.ofJson a) = scope.build (Node.ofJson b) := by
    calc scope.buildAt 0 (Node.ofJson a)
        = scope.buildAt 0 (Node.ofJson a).trimmed := (scope.buildAt_trimmed _ 0).symm
      _ = scope.buildAt 0 (Node.ofJson b).trimmed := by rw [Json.trimmed_ofJson_of_alike h]
      _ = scope.buildAt 0 (Node.ofJson b) := scope.buildAt_trimmed _ 0
  rw [filterOfJson, filterOfJson, filter, filter, hbuild]

namespace Builtin

/-- A row that tests for a title. -/
def titleRow : Json :=
  .object [("type", .string "rule"), ("properties", .object
    [("field", .string "/title"), ("operator", .string "is_null")])]

/-- A negated group of a row and of a group without properties. -/
def arrayTree : Json :=
  .object [("type", .string "group"), ("properties", .object
      [("conjunction", .string "OR"), ("not", .bool true)]),
    ("children1", .array [rowOf "name" "like" (.string "gdp"),
      .object [("type", .string "group"), ("children1", .object [("7a", titleRow)])]])]

/-- The same with its children under keys and their children in an array, with ids, with
members in another order, with a source and a second value in the row, and with a `null`
conjunction and a negation by a text in the inner group. -/
def keyedTree : Json :=
  .object [("id", .string "00"),
    ("children1", .object
      [("9f", .object [("id", .string "9f"), ("properties", .object
          [("valueSrc", .array [.string "value"]),
            ("value", .array [.string "gdp", .string "share"]),
            ("operator", .string "like"), ("field", .string "name")]),
          ("type", .string "rule")]),
        ("2c", .object [("type", .string "group"), ("properties", .object
          [("conjunction", .null), ("not", .string "true")]),
          ("children1", .array [titleRow])])]),
    ("properties", .object [("conjunction", .string "OR"), ("not", .bool true)]),
    ("type", .string "group")]

theorem arrayTree_alike_keyedTree : arrayTree.Alike keyedTree := by
  refine .of_get? rfl rfl (.cons ?_ (.cons ?_ .nil))
  · exact .row ⟨⟨rfl, rfl⟩, rfl, rfl, rfl⟩
  · refine .group ⟨⟨rfl, rfl⟩, Or.inr ⟨Or.inl rfl, Or.inr rfl⟩, ?_⟩ (.cons (.refl titleRow) .nil)
    constructor
    · intro h
      exact absurd (show none = some (Json.bool true) from h) (by simp)
    · intro h
      exact absurd (show some (Json.string "true") = some (Json.bool true) from h) (by simp)

/-- The filter of both trees. -/
def commonFilter : Operation :=
  .negation (.logic .or (.contains (.column "variables.name") (.string "gdp"))
    [.logic .and (.nullCheck .isNull (.pointer "grapherConfig" "/title")) []])

/-- Like trees with everything that may differ, and the filter that they come to. -/
theorem keyedTree_same_filter :
    arrayTree.Alike keyedTree ∧
    annotationsScope.filterOfJson arrayTree = annotationsScope.filterOfJson keyedTree ∧
    annotationsScope.filterOfJson keyedTree = .ok (some commonFilter) := by
  have hfilter : annotationsScope.filterOfJson arrayTree = .ok (some commonFilter) := by cbv
  have hsame := annotationsScope.same_filter_of_alike arrayTree_alike_keyedTree
  exact ⟨arrayTree_alike_keyedTree, hsame, hsame ▸ hfilter⟩

end Builtin

end RowFilter
