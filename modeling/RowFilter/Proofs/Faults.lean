import RowFilter.Proofs.Json.Text
import RowFilter.Proofs.Samples
import RowFilter.Proofs.Tree

/-!
# Which trees fail

Building a filter stops at the first error. Here the nodes of a tree stand in one list
instead, each with its depth and in front of its children, and each node is looked at on
its own: it lies too deep, or its conjunction is not known, or its field refers to
nothing.

> `failure?_buildAt`: building fails with what is wrong with the first such node;
> `fails_at_first_fault`: so it is for the JSON values that the nodes are read from.

What a row compares with and how does not occur in `Scope.fault?`, and neither does
whether anything of a group would be left: a fault counts in a branch that makes no
condition as well.
-/

namespace RowFilter

/-! ## The nodes of a tree in the order of the document -/

namespace Node

mutual

/-- The nodes of a tree that hangs at a depth, each with its depth and in front of its
children. -/
def preorder (depth : Nat) : Node → List (Nat × Node)
  | .group conjunction negated children =>
    (depth, .group conjunction negated children) :: preorderOf (depth + 1) children
  | .rule row => [(depth, .rule row)]
  | .unknown => [(depth, .unknown)]

/-- The nodes of several trees that hang at a depth. -/
def preorderOf (depth : Nat) : List Node → List (Nat × Node)
  | [] => []
  | node :: rest => preorder depth node ++ preorderOf depth rest

end

theorem preorderOf_eq_flatMap (depth : Nat) : ∀ nodes : List Node,
    preorderOf depth nodes = nodes.flatMap (preorder depth)
  | [] => rfl
  | node :: rest => by
    rw [preorderOf, List.flatMap_cons, preorderOf_eq_flatMap depth rest]

mutual

/-- The JSON values that a tree at a depth is read from, one for each node, in the order
of the nodes. -/
def places (depth : Nat) (value : Json) : List (Nat × Json) :=
  if _isGroup : type? value = some "group" then
    (depth, value) :: placesOf (depth + 1) (childValues (value.get? "children1"))
  else [(depth, value)]
  termination_by sizeOf value
  decreasing_by exact sizeOf_childValues "children1" _isGroup

/-- The JSON values that several trees at a depth are read from. -/
def placesOf (depth : Nat) (values : List Json) : List (Nat × Json) :=
  match values with
  | [] => []
  | value :: rest => places depth value ++ placesOf depth rest
  termination_by sizeOf values

end

/-- The node that is read from the value at a place. -/
def atPlace : Nat × Json → Nat × Node
  | (depth, value) => (depth, ofJson value)

theorem places_group {depth : Nat} {value : Json} (h : type? value = some "group") :
    places depth value = (depth, value) :: placesOf (depth + 1) (children value) := by
  rw [places, dif_pos h, children]

theorem places_of_ne_group {depth : Nat} {value : Json} (h : type? value ≠ some "group") :
    places depth value = [(depth, value)] := by
  rw [places, dif_neg h]

theorem preorderOf_ofJson {depth : Nat} : ∀ {values : List Json},
    (∀ value ∈ values, preorder depth (ofJson value) = (places depth value).map atPlace) →
    preorderOf depth (values.map ofJson) = (placesOf depth values).map atPlace
  | [], _ => by rw [placesOf]; rfl
  | value :: rest, h => by
    have hrest := preorderOf_ofJson fun other ho => h other (List.mem_cons_of_mem _ ho)
    rw [List.map_cons, preorderOf, placesOf, List.map_append, hrest,
      h value (List.mem_cons_self ..)]

/-- The nodes of a JSON tree are read from the values at its places, one by one. -/
theorem preorder_ofJson (depth : Nat) (value : Json) :
    preorder depth (ofJson value) = (places depth value).map atPlace := by
  induction value using ofJson_induction generalizing depth with
  | group value h ih =>
    have hchildren := preorderOf_ofJson fun child hc => ih child hc (depth + 1)
    rw [places_group h, List.map_cons, ← hchildren, atPlace, ofJson_group h]
    rfl
  | rule value h =>
    have hg := ne_group_of_rule h
    rw [places_of_ne_group hg, List.map_singleton, atPlace, ofJson_rule h]
    rfl
  | unknown value hg hr =>
    rw [places_of_ne_group hg, List.map_singleton, atPlace, ofJson_unknown hg hr]
    rfl

end Node

/-! ## What is wrong with one node -/

namespace Scope

/-- What is wrong with a node at a depth, whatever hangs on it. -/
def fault? (scope : Scope) : Nat × Node → Option FilterError
  | (depth, node) =>
    if scope.maxDepth < depth then some (.tooDeep scope.maxDepth)
    else
      match node with
      | .group conjunction _ _ => failure? (LogicOperator.ofConjunction conjunction)
      | .rule row => row.field.bind fun field => failure? (scope.symbol field)
      | .unknown => none

variable {scope : Scope}

theorem fault?_of_lt {depth : Nat} {node : Node} (h : scope.maxDepth < depth) :
    scope.fault? (depth, node) = some (.tooDeep scope.maxDepth) := by
  unfold fault?
  exact if_pos h

theorem failure?_buildAt_of_lt {depth : Nat} {node : Node} (h : scope.maxDepth < depth) :
    failure? (scope.buildAt depth node) = some (.tooDeep scope.maxDepth) := by
  rw [buildAt_of_lt h]
  rfl

/-- A row fails by its field only. -/
theorem failure?_buildRule (scope : Scope) (row : Rule) :
    failure? (scope.buildRule row) = row.field.bind fun field => failure? (scope.symbol field) := by
  rw [← failure?_map Built.filter, map_filter_buildRule]
  cases row.field with
  | none => rfl
  | some field => exact failure?_map _ _

/-- A group fails by its conjunction, or else by its children. -/
theorem failure?_buildAt_group {depth : Nat} (hd : ¬ scope.maxDepth < depth)
    (conjunction : Option String) (negated : Bool) (children : List Node) :
    failure? (scope.buildAt depth (.group conjunction negated children))
      = (failure? (LogicOperator.ofConjunction conjunction)).or
          (failure? (scope.buildAll (depth + 1) children)) := by
  rw [buildAt_group (Nat.le_of_not_lt hd), failure?_bind fun _ => failure?_map _ _]

/-- Several nodes fail by the first of them, or else by the others. -/
theorem failure?_buildAll_cons (depth : Nat) (node : Node) (rest : List Node) :
    failure? (scope.buildAll depth (node :: rest))
      = (failure? (scope.buildAt depth node)).or (failure? (scope.buildAll depth rest)) := by
  rw [buildAll_cons, failure?_bind fun _ => failure?_map _ _]

mutual

/-- Building a tree fails with what is wrong with the first node that is at fault. -/
theorem failure?_buildAt (scope : Scope) : ∀ (node : Node) (depth : Nat),
    failure? (scope.buildAt depth node) = (node.preorder depth).findSome? scope.fault?
  | .group conjunction negated children, depth => by
    rw [Node.preorder, List.findSome?_cons]
    by_cases hd : scope.maxDepth < depth
    · rw [failure?_buildAt_of_lt hd, fault?_of_lt hd]
    · rw [failure?_buildAt_group hd, failure?_buildAll scope children (depth + 1), fault?,
        if_neg hd]
      cases failure? (LogicOperator.ofConjunction conjunction) with
      | none => rfl
      | some error => rfl
  | .rule row, depth => by
    rw [Node.preorder, List.findSome?_cons]
    by_cases hd : scope.maxDepth < depth
    · rw [failure?_buildAt_of_lt hd, fault?_of_lt hd]
    · rw [buildAt_rule (Nat.le_of_not_lt hd), failure?_buildRule, fault?, if_neg hd]
      cases row.field.bind fun field => failure? (scope.symbol field) with
      | none => rfl
      | some error => rfl
  | .unknown, depth => by
    rw [Node.preorder, List.findSome?_cons]
    by_cases hd : scope.maxDepth < depth
    · rw [failure?_buildAt_of_lt hd, fault?_of_lt hd]
    · rw [buildAt_unknown (Nat.le_of_not_lt hd), fault?, if_neg hd]
      rfl

theorem failure?_buildAll (scope : Scope) : ∀ (nodes : List Node) (depth : Nat),
    failure? (scope.buildAll depth nodes)
      = (Node.preorderOf depth nodes).findSome? scope.fault?
  | [], depth => by rw [buildAll_nil]; rfl
  | node :: rest, depth => by
    rw [failure?_buildAll_cons, failure?_buildAt scope node depth,
      failure?_buildAll scope rest depth, Node.preorderOf, List.findSome?_append]

end

/-- What a tree fails with is wrong with one of its nodes. -/
theorem exists_fault_of_buildAt {depth : Nat} {node : Node} {error : FilterError}
    (h : scope.buildAt depth node = .error error) :
    ∃ place ∈ node.preorder depth, scope.fault? place = some error := by
  have hfails := scope.failure?_buildAt node depth
  rw [failure?_eq_some_iff.mpr h] at hfails
  exact List.exists_of_findSome?_eq_some hfails.symm

theorem failure?_ofConjunction (name : String) :
    failure? (LogicOperator.ofConjunction (some name))
      = if name = "AND" ∨ name = "OR" then none else some (.unknownConjunction name) := by
  split
  next h =>
    rw [failure?_eq_none_iff]
    rcases h with rfl | rfl
    · exact ⟨.and, rfl⟩
    · exact ⟨.or, rfl⟩
  next h =>
    rw [failure?_eq_some_iff, LogicOperator.ofConjunction_eq_error_iff]
    exact ⟨name, rfl, not_or.mp h, rfl⟩

/-- What can be wrong with a node that is not too deep: its conjunction, or its field. -/
theorem fault?_cases_of_le {depth : Nat} {node : Node} {error : FilterError}
    (hd : depth ≤ scope.maxDepth) (h : scope.fault? (depth, node) = some error) :
    (∃ text, error = .unknownConjunction text) ∨ ∃ field, scope.symbol field = .error error := by
  have hd : ¬ scope.maxDepth < depth := Nat.not_lt.mpr hd
  cases node with
  | group conjunction negated children =>
    rw [fault?, if_neg hd, failure?_eq_some_iff] at h
    obtain ⟨name, -, -, rfl⟩ := LogicOperator.ofConjunction_eq_error_iff.mp h
    exact Or.inl ⟨name, rfl⟩
  | rule row =>
    rw [fault?, if_neg hd] at h
    obtain ⟨field, -, hfield⟩ := Option.bind_eq_some_iff.mp h
    exact Or.inr ⟨field, failure?_eq_some_iff.mp hfield⟩
  | unknown =>
    rw [fault?, if_neg hd] at h
    exact absurd h (by simp)

/-- What can be wrong with a node: its depth, its conjunction, or its field. -/
theorem fault?_cases {place : Nat × Node} {error : FilterError}
    (h : scope.fault? place = some error) :
    error = .tooDeep scope.maxDepth ∨ (∃ text, error = .unknownConjunction text) ∨
      ∃ field, scope.symbol field = .error error := by
  obtain ⟨depth, node⟩ := place
  rcases Nat.lt_or_ge scope.maxDepth depth with hd | hd
  · rw [fault?_of_lt hd] at h
    exact Or.inl (Option.some.inj h).symm
  · exact Or.inr (fault?_cases_of_le hd h)

/-- A tree fails with what is wrong with the first of its nodes that is at fault. -/
theorem failure?_filter (scope : Scope) (node : Node) :
    failure? (scope.filter node) = (node.preorder 0).findSome? scope.fault? := by
  rw [← scope.failure?_buildAt node 0]
  exact failure?_map Built.filter _

theorem exists_fault_of_filter {node : Node} {error : FilterError}
    (h : scope.filter node = .error error) :
    ∃ place ∈ node.preorder 0, scope.fault? place = some error := by
  have hfails := scope.failure?_filter node
  rw [failure?_eq_some_iff.mpr h] at hfails
  exact List.exists_of_findSome?_eq_some hfails.symm

/-- What a tree that cannot be built fails by. -/
theorem filter_error_cases {node : Node} {error : FilterError}
    (h : scope.filter node = .error error) :
    error = .tooDeep scope.maxDepth ∨ (∃ text, error = .unknownConjunction text) ∨
      ∃ field, scope.symbol field = .error error := by
  obtain ⟨place, -, hplace⟩ := exists_fault_of_filter h
  exact fault?_cases hplace

/-! ## What is wrong with one JSON value -/

/-- What is wrong with the conjunction of a group. None and `null` mean AND; what is not
a string is no conjunction, however it is written. -/
def conjunctionFault? : Option Json → Option FilterError
  | none => none
  | some .null => none
  | some (.string name) =>
    if name = "AND" ∨ name = "OR" then none else some (.unknownConjunction name)
  | some other => some (.unknownConjunction other.text)

/-- What is wrong with a JSON value at a depth, whatever is below it: only its type, and
the conjunction of a group or the field of a row, are looked at. -/
def faultAt? (scope : Scope) : Nat × Json → Option FilterError
  | (depth, value) =>
    if scope.maxDepth < depth then some (.tooDeep scope.maxDepth)
    else if Node.type? value = some "group" then
      conjunctionFault? (Node.property? "conjunction" value)
    else if Node.type? value = some "rule" then
      ((Node.property? "field" value).bind Json.string?).bind fun field =>
        failure? (scope.symbol field)
    else none

/-- A conjunction that is no string is refused, because no JSON text reads AND or OR. -/
theorem failure?_ofConjunction_text (value : Json) :
    failure? (LogicOperator.ofConjunction (some value.text))
      = some (.unknownConjunction value.text) := by
  have hand : value.text ≠ "AND" := value.text_ne_of_isUpper (c := 'A') (by decide) (by decide)
  have hor : value.text ≠ "OR" := value.text_ne_of_isUpper (c := 'O') (by decide) (by decide)
  rw [failure?_ofConjunction, if_neg (not_or.mpr ⟨hand, hor⟩)]

theorem failure?_conjunctionText? (conjunction : Option Json) :
    failure? (LogicOperator.ofConjunction (conjunction.bind Node.conjunctionText?))
      = conjunctionFault? conjunction := by
  cases conjunction with
  | none => rfl
  | some value =>
    cases value with
    | null => rfl
    | string name => exact failure?_ofConjunction name
    | bool b => exact failure?_ofConjunction_text (.bool b)
    | number n => exact failure?_ofConjunction_text (.number n)
    | array items => exact failure?_ofConjunction_text (.array items)
    | object members => exact failure?_ofConjunction_text (.object members)

/-- What is wrong with a JSON value is what is wrong with its node. -/
theorem fault?_atPlace (scope : Scope) (place : Nat × Json) :
    scope.fault? (Node.atPlace place) = scope.faultAt? place := by
  obtain ⟨depth, value⟩ := place
  rw [Node.atPlace, faultAt?]
  by_cases hd : scope.maxDepth < depth
  · rw [fault?_of_lt hd, if_pos hd]
  · rw [if_neg hd]
    by_cases hg : Node.type? value = some "group"
    · rw [Node.ofJson_group hg, fault?, if_neg hd, if_pos hg, failure?_conjunctionText?]
    · rw [if_neg hg]
      by_cases hr : Node.type? value = some "rule"
      · rw [Node.ofJson_rule hr, fault?, if_neg hd, if_pos hr]
        rfl
      · rw [Node.ofJson_unknown hg hr, fault?, if_neg hd, if_neg hr]

/-- A JSON tree fails with what is wrong with the first of its values that is at fault. -/
theorem failure?_filterOfJson (scope : Scope) (value : Json) :
    failure? (scope.filterOfJson value) = (Node.places 0 value).findSome? scope.faultAt? := by
  have hfault : scope.fault? ∘ Node.atPlace = scope.faultAt? :=
    funext fun place => scope.fault?_atPlace place
  calc failure? (scope.filterOfJson value)
      = ((Node.ofJson value).preorder 0).findSome? scope.fault? := scope.failure?_filter _
    _ = (Node.places 0 value).findSome? (scope.fault? ∘ Node.atPlace) := by
      rw [Node.preorder_ofJson, List.findSome?_map]
    _ = (Node.places 0 value).findSome? scope.faultAt? := by rw [hfault]

/-- **Exactly the trees with a fault fail, and with their first one.** The places of a
JSON tree are those of its nodes, in the order of the document. A tree has a result if
and only if no place is at fault; else its error is that of the first place at fault. -/
theorem fails_at_first_fault (scope : Scope) (value : Json) :
    (Node.ofJson value).preorder 0
      = (Node.places 0 value).map (fun place => (place.1, Node.ofJson place.2)) ∧
    ((∃ result, scope.filterOfJson value = .ok result) ↔
      ∀ place ∈ Node.places 0 value, scope.faultAt? place = none) ∧
    ∀ error, scope.filterOfJson value = .error error ↔
      ∃ before place after, Node.places 0 value = before ++ place :: after ∧
        (∀ earlier ∈ before, scope.faultAt? earlier = none) ∧
        scope.faultAt? place = some error := by
  have hfails := scope.failure?_filterOfJson value
  refine ⟨Node.preorder_ofJson 0 value, ?_, ?_⟩
  · rw [← failure?_eq_none_iff, hfails, List.findSome?_eq_none_iff]
  · intro error
    rw [← failure?_eq_some_iff, hfails, List.findSome?_eq_some_iff]
    constructor
    · rintro ⟨before, place, after, hsplit, hplace, hbefore⟩
      exact ⟨before, place, after, hsplit, hbefore, hplace⟩
    · rintro ⟨before, place, after, hsplit, hbefore, hplace⟩
      exact ⟨before, place, after, hsplit, hplace, hbefore⟩

/-- A conjunction that is an empty array, in a group that nothing would be left of. -/
example :
    documentOnly.filterOfJson
      (.object [("type", .string "group"), ("children1", .array
        [.object [("type", .string "rule")],
          .object [("type", .string "group"),
            ("properties", .object [("conjunction", .array [])])]])])
      = .error (.unknownConjunction "[]") := by cbv

end Scope

end RowFilter
