import RowFilter.Proofs.Samples
import RowFilter.Proofs.Tree

/-!
# Nodes that come to nothing are invisible

The query builder hands over rows that the user has not finished, and groups in which there
is nothing yet. A node comes to nothing at its depth (`Scope.Vanishes`) if the bound lets it
be and it is unknown, an unfinished row, or a group of such nodes (`vanishes_iff_blank`).

> `filterAt_of_pruned`: deleting such nodes, anywhere and any number at once, changes nothing;
> `vanishing_nodes_invisible`: and neither does putting one in.

Deleting may leave a group empty that was not. The group then comes to nothing as it did
before, because its children did, and what is around it does not see that either.
-/

namespace RowFilter.Scope

variable {scope : Scope} {depth : Nat}

/-! ## The filter of a node at a depth -/

/-- The filter of a node at a depth; nothing if no condition is left. -/
def filterAt (scope : Scope) (depth : Nat) (node : Node) : Except FilterError (Option Operation) :=
  (scope.buildAt depth node).map Built.filter

/-- The filters of nodes at a depth, of those that have one. -/
def filtersAt (scope : Scope) (depth : Nat) (nodes : List Node) :
    Except FilterError (List Operation) :=
  (scope.buildAll depth nodes).map Prod.fst

theorem filtersAt_nil (scope : Scope) (depth : Nat) : scope.filtersAt depth [] = .ok [] := by
  rw [filtersAt, buildAll_nil, map_ok]

theorem filtersAt_cons (scope : Scope) (depth : Nat) (node : Node) (rest : List Node) :
    scope.filtersAt depth (node :: rest)
      = (scope.filterAt depth node).bind fun filter =>
          (scope.filtersAt depth rest).map (filter.toList ++ ·) := by
  rw [filtersAt, filterAt, filtersAt, buildAll_cons, map_bind, bind_map]
  simp only [map_map, Function.comp_def]

theorem filterAt_group (hd : depth ≤ scope.maxDepth) (conjunction : Option String)
    (negated : Bool) (children : List Node) :
    scope.filterAt depth (.group conjunction negated children)
      = (LogicOperator.ofConjunction conjunction).bind fun op =>
          (scope.filtersAt (depth + 1) children).map (join op negated) := by
  rw [filterAt, filtersAt, buildAt_group hd, map_bind]
  simp only [map_map, Function.comp_def]

/-- Below the bound all nodes are refused alike, so nodes differ within it or not at all. -/
theorem filterAt_congr_of_le {a b : Node}
    (h : depth ≤ scope.maxDepth → scope.filterAt depth a = scope.filterAt depth b) :
    scope.filterAt depth a = scope.filterAt depth b := by
  rcases Nat.lt_or_ge scope.maxDepth depth with hdeep | hd
  · rw [filterAt, filterAt, buildAt_of_lt hdeep, buildAt_of_lt hdeep]
  · exact h hd

/-- Of its children a group knows their filters only. -/
theorem filterAt_group_congr {conjunction : Option String} {negated : Bool}
    {as bs : List Node} (h : scope.filtersAt (depth + 1) as = scope.filtersAt (depth + 1) bs) :
    scope.filterAt depth (.group conjunction negated as)
      = scope.filterAt depth (.group conjunction negated bs) := by
  refine filterAt_congr_of_le fun hd => ?_
  rw [filterAt_group hd, filterAt_group hd, h]

/-! ## Nodes that come to nothing -/

/-- True of a node that comes to nothing at a depth, without an error. -/
def Vanishes (scope : Scope) (depth : Nat) (node : Node) : Prop :=
  scope.filterAt depth node = .ok none

/-- A node that comes to nothing adds nothing to those behind it. -/
theorem Vanishes.filtersAt_cons {node : Node} (h : scope.Vanishes depth node)
    (rest : List Node) : scope.filtersAt depth (node :: rest) = scope.filtersAt depth rest := by
  rw [Scope.filtersAt_cons, h, bind_ok]
  cases scope.filtersAt depth rest <;> rfl

/-- Nodes have no filter, and none an error, if and only if all of them come to nothing. -/
theorem filtersAt_eq_nil_iff : ∀ (nodes : List Node),
    scope.filtersAt depth nodes = .ok [] ↔ ∀ node ∈ nodes, scope.Vanishes depth node
  | [] => by
    rw [filtersAt_nil]
    simp
  | node :: rest => by
    rw [List.forall_mem_cons, ← filtersAt_eq_nil_iff rest]
    constructor
    · intro h
      rw [filtersAt_cons] at h
      obtain ⟨filter, hnode, h⟩ := bind_eq_ok_iff.mp h
      obtain ⟨filters, hrest, h⟩ := map_eq_ok_iff.mp h
      obtain ⟨hfilter, rfl⟩ := List.append_eq_nil_iff.mp h
      obtain rfl := Option.toList_eq_nil_iff.mp hfilter
      exact ⟨hnode, hrest⟩
    · rintro ⟨hnode, hrest⟩
      rw [hnode.filtersAt_cons, hrest]

theorem Vanishes.depth_le {node : Node} (h : scope.Vanishes depth node) :
    depth ≤ scope.maxDepth := by
  obtain ⟨built, hbuilt, -⟩ := map_eq_ok_iff.mp h
  exact depth_le_of_buildAt hbuilt

theorem vanishes_unknown (hd : depth ≤ scope.maxDepth) : scope.Vanishes depth .unknown := by
  rw [Vanishes, filterAt, buildAt_unknown hd]
  rfl

/-- A row comes to nothing without a field, and else if its field refers to something and its
operator or its value is missing. -/
theorem vanishes_rule_iff {row : Rule} : scope.Vanishes depth (.rule row) ↔
    depth ≤ scope.maxDepth ∧ (row.field = none ∨
      ∃ field target, row.field = some field ∧ scope.symbol field = .ok target ∧
        ((row.operator.bind RuleOperator.ofName?).bind fun operator =>
          condition? operator target row.firstValue?) = none) := by
  constructor
  · intro h
    have hd := h.depth_le
    refine ⟨hd, ?_⟩
    rw [Vanishes, filterAt, buildAt_rule hd, map_filter_buildRule] at h
    cases hfield : row.field with
    | none => exact Or.inl rfl
    | some field =>
      rw [hfield, Option.elim_some] at h
      obtain ⟨target, htarget, hnone⟩ := map_eq_ok_iff.mp h
      exact Or.inr ⟨field, target, rfl, htarget, hnone⟩
  · rintro ⟨hd, h⟩
    rw [Vanishes, filterAt, buildAt_rule hd, map_filter_buildRule]
    rcases h with hfield | ⟨field, target, hfield, htarget, hnone⟩
    · rw [hfield]
      rfl
    · rw [hfield, Option.elim_some, htarget]
      exact congrArg Except.ok hnone

/-- A group comes to nothing if all its children do. -/
theorem vanishes_group_iff {conjunction : Option String} {negated : Bool} {children : List Node} :
    scope.Vanishes depth (.group conjunction negated children) ↔
      depth ≤ scope.maxDepth ∧ (∃ op, LogicOperator.ofConjunction conjunction = .ok op) ∧
        ∀ child ∈ children, scope.Vanishes (depth + 1) child := by
  rw [← filtersAt_eq_nil_iff]
  constructor
  · intro h
    have hd := h.depth_le
    rw [Vanishes, filterAt_group hd] at h
    obtain ⟨op, ho, h⟩ := bind_eq_ok_iff.mp h
    obtain ⟨filters, hchildren, hjoin⟩ := map_eq_ok_iff.mp h
    -- joining gives an operation for every list but the empty one
    obtain rfl := join_eq_none_iff.mp hjoin
    exact ⟨hd, ⟨op, ho⟩, hchildren⟩
  · rintro ⟨hd, ⟨op, ho⟩, hchildren⟩
    rw [Vanishes, filterAt_group hd, ho, hchildren, bind_ok, map_ok, join_nil]

/-- What can be missing: the type of a node, the field, operator or usable value of a row,
and in a group everything, at any depth. -/
inductive Blank (scope : Scope) : Nat → Node → Prop
  | unknown {depth : Nat} (hd : depth ≤ scope.maxDepth) : Blank scope depth .unknown
  | noField {depth : Nat} {row : Rule} (hd : depth ≤ scope.maxDepth) (hfield : row.field = none) :
    Blank scope depth (.rule row)
  | noOperator {depth : Nat} {row : Rule} {field : String} {target : Symbol}
    (hd : depth ≤ scope.maxDepth) (hfield : row.field = some field)
    (htarget : scope.symbol field = .ok target)
    (hoperator : row.operator.bind RuleOperator.ofName? = none) : Blank scope depth (.rule row)
  | noValue {depth : Nat} {row : Rule} {field : String} {target : Symbol} {operator : RuleOperator}
    (hd : depth ≤ scope.maxDepth) (hfield : row.field = some field)
    (htarget : scope.symbol field = .ok target)
    (hoperator : row.operator.bind RuleOperator.ofName? = some operator)
    (hvalue : condition? operator target row.firstValue? = none) : Blank scope depth (.rule row)
  | group {depth : Nat} {conjunction : Option String} {op : LogicOperator} {negated : Bool}
    {children : List Node} (hd : depth ≤ scope.maxDepth)
    (ho : LogicOperator.ofConjunction conjunction = .ok op)
    (hchildren : ∀ child ∈ children, Blank scope (depth + 1) child) :
    Blank scope depth (.group conjunction negated children)

theorem vanishes_of_blank {node : Node} (h : scope.Blank depth node) :
    scope.Vanishes depth node := by
  induction h with
  | unknown hd => exact vanishes_unknown hd
  | noField hd hfield => exact vanishes_rule_iff.mpr ⟨hd, Or.inl hfield⟩
  | noOperator hd hfield htarget hoperator =>
    refine vanishes_rule_iff.mpr ⟨hd, Or.inr ⟨_, _, hfield, htarget, ?_⟩⟩
    rw [hoperator]
    rfl
  | noValue hd hfield htarget hoperator hvalue =>
    refine vanishes_rule_iff.mpr ⟨hd, Or.inr ⟨_, _, hfield, htarget, ?_⟩⟩
    rw [hoperator]
    exact hvalue
  | group hd ho _ ih => exact vanishes_group_iff.mpr ⟨hd, ⟨_, ho⟩, ih⟩

mutual

theorem blank_of_vanishes : ∀ (node : Node) {depth : Nat}, scope.Vanishes depth node →
    scope.Blank depth node
  | .unknown, depth, h => .unknown h.depth_le
  | .rule row, depth, h => by
    obtain ⟨hd, hfield | ⟨field, target, hfield, htarget, hnone⟩⟩ := vanishes_rule_iff.mp h
    · exact .noField hd hfield
    · cases hoperator : row.operator.bind RuleOperator.ofName? with
      | none => exact .noOperator hd hfield htarget hoperator
      | some operator =>
        rw [hoperator] at hnone
        exact .noValue hd hfield htarget hoperator hnone
  | .group conjunction negated children, depth, h => by
    obtain ⟨hd, ⟨op, ho⟩, hchildren⟩ := vanishes_group_iff.mp h
    exact .group hd ho (blank_of_forall_vanishes children hchildren)

theorem blank_of_forall_vanishes : ∀ (nodes : List Node) {depth : Nat},
    (∀ node ∈ nodes, scope.Vanishes depth node) → ∀ node ∈ nodes, scope.Blank depth node
  | [], _, _ => by
    intro node hm
    exact absurd hm List.not_mem_nil
  | first :: rest, depth, h => by
    have hfirst := blank_of_vanishes first (h first (List.mem_cons_self ..))
    have hrest := blank_of_forall_vanishes rest fun node hm => h node (List.mem_cons_of_mem _ hm)
    intro node hm
    rcases List.mem_cons.mp hm with rfl | hm
    · exact hfirst
    · exact hrest node hm

end

/-- Exactly the blank nodes come to nothing. -/
theorem vanishes_iff_blank {node : Node} : scope.Vanishes depth node ↔ scope.Blank depth node :=
  ⟨blank_of_vanishes node, vanishes_of_blank⟩

/-! ## Trees with and without them -/

mutual

/-- `Pruned scope depth tree kept`: a tree at a depth is left as `kept` when nodes below its
root are deleted, each of which comes to nothing where it is. -/
inductive Pruned (scope : Scope) : Nat → Node → Node → Prop
  | same {depth : Nat} {node : Node} : Pruned scope depth node node
  | group {depth : Nat} {conjunction : Option String} {negated : Bool} {children kept : List Node}
    (h : PrunedAll scope (depth + 1) children kept) :
    Pruned scope depth (.group conjunction negated children) (.group conjunction negated kept)

/-- Trees at a depth, of which some are deleted and the others pruned. -/
inductive PrunedAll (scope : Scope) : Nat → List Node → List Node → Prop
  | nil {depth : Nat} : PrunedAll scope depth [] []
  | keep {depth : Nat} {node kept : Node} {nodes rest : List Node}
    (hnode : Pruned scope depth node kept) (hrest : PrunedAll scope depth nodes rest) :
    PrunedAll scope depth (node :: nodes) (kept :: rest)
  | delete {depth : Nat} {node : Node} {nodes rest : List Node}
    (hnode : scope.Vanishes depth node) (hrest : PrunedAll scope depth nodes rest) :
    PrunedAll scope depth (node :: nodes) rest

end

/-- `Grown scope depth tree grown`: a tree at a depth becomes `grown` when a node that comes
to nothing there is put somewhere among the children of one of its groups. The bound leaves
room for it below that group, or it would not come to nothing. -/
inductive Grown (scope : Scope) : Nat → Node → Node → Prop
  | here {depth : Nat} {conjunction : Option String} {negated : Bool} {new : Node}
    (front back : List Node) (h : scope.Vanishes (depth + 1) new) :
    Grown scope depth (.group conjunction negated (front ++ back))
      (.group conjunction negated (front ++ new :: back))
  | deeper {depth : Nat} {conjunction : Option String} {negated : Bool} {child grown : Node}
    (front back : List Node) (h : Grown scope (depth + 1) child grown) :
    Grown scope depth (.group conjunction negated (front ++ child :: back))
      (.group conjunction negated (front ++ grown :: back))

mutual

/-- A pruned tree has the filter that it had, or the error. -/
theorem filterAt_of_pruned : ∀ {depth : Nat} {node kept : Node}, scope.Pruned depth node kept →
    scope.filterAt depth kept = scope.filterAt depth node
  | _, _, _, .same => rfl
  | _, _, _, .group h => filterAt_group_congr (filtersAt_of_pruned h)

theorem filtersAt_of_pruned : ∀ {depth : Nat} {nodes kept : List Node},
    scope.PrunedAll depth nodes kept → scope.filtersAt depth kept = scope.filtersAt depth nodes
  | _, _, _, .nil => rfl
  | _, _, _, .keep hnode hrest => by
    rw [filtersAt_cons, filtersAt_cons, filterAt_of_pruned hnode, filtersAt_of_pruned hrest]
  | _, _, _, .delete hnode hrest => by
    -- `kept` has no counterpart of this node, and the filters have none either
    rw [hnode.filtersAt_cons, filtersAt_of_pruned hrest]

end

theorem prunedAll_append : ∀ (front : List Node) {nodes kept : List Node},
    scope.PrunedAll depth nodes kept → scope.PrunedAll depth (front ++ nodes) (front ++ kept)
  | [], _, _, h => h
  | _ :: front, _, _, h => .keep .same (prunedAll_append front h)

theorem prunedAll_refl (scope : Scope) (depth : Nat) : ∀ nodes : List Node,
    scope.PrunedAll depth nodes nodes
  | [] => .nil
  | _ :: rest => .keep .same (prunedAll_refl scope depth rest)

/-- What was put in can be deleted again. -/
theorem pruned_of_grown {tree grown : Node} (h : scope.Grown depth tree grown) :
    scope.Pruned depth grown tree := by
  induction h with
  | here front back h =>
    exact .group (prunedAll_append front (.delete h (prunedAll_refl scope _ back)))
  | deeper front back _ ih =>
    exact .group (prunedAll_append front (.keep ih (prunedAll_refl scope _ back)))

/-- **Nodes that come to nothing are invisible.** Deleting any number of them anywhere below
the root leaves a tree its filter, its lack of one or its error, and so does putting one
anywhere among the children of a group. They are the unknown nodes, the rows without a
field, operator or usable value, and the groups of such nodes, within the depth bound. -/
theorem vanishing_nodes_invisible (scope : Scope) (tree : Node) :
    (∀ kept, scope.Pruned 0 tree kept → scope.filter kept = scope.filter tree) ∧
    (∀ grown, scope.Grown 0 tree grown → scope.filter grown = scope.filter tree) ∧
    ∀ depth node, scope.Vanishes depth node ↔ scope.Blank depth node := by
  refine ⟨fun kept h => filterAt_of_pruned h, fun grown h => ?_, fun _ _ => vanishes_iff_blank⟩
  exact (filterAt_of_pruned (pruned_of_grown h)).symm

end RowFilter.Scope

namespace RowFilter.Unfinished

/-- A source with a document and no columns, and a bound of three. -/
def scope : Scope := { Scope.documentOnly with maxDepth := 3 }

/-- A row without an operator that is known. -/
def namelessRow : Node := .rule ⟨some "/title", some "between", []⟩

/-- A row that no value has been entered into. -/
def valuelessRow : Node := .rule ⟨some "/note", some "equal", [.null]⟩

/-- A negated group of a finished row, a negated group in which nothing is finished, and a
row without a value. -/
def tree : Node :=
  .group (some "OR") true
    [.rule ⟨some "/title", some "is_null", []⟩,
      .group none true [.rule ⟨none, none, []⟩, .group none false [.unknown, namelessRow]],
      valuelessRow]

/-- The tree without all of that but the group, which is empty now. -/
def kept : Node :=
  .group (some "OR") true [.rule ⟨some "/title", some "is_null", []⟩, .group none true []]

/-- The tree with one more row at the depth bound. -/
def grown : Node :=
  .group (some "OR") true
    [.rule ⟨some "/title", some "is_null", []⟩,
      .group none true
        [.rule ⟨none, none, []⟩, .group none false [.unknown, valuelessRow, namelessRow]],
      valuelessRow]

/-- The filter of all three. -/
def filter : Operation :=
  .negation (.logic .or (.nullCheck .isNull (.pointer "config" "/title")) [])

/-- Deleting a group and two rows, or putting in a row as deep as the bound allows. -/
theorem tree_kept_grown :
    scope.Pruned 0 tree kept ∧ scope.Grown 0 tree grown ∧
    scope.filter kept = .ok (some filter) ∧ scope.filter grown = .ok (some filter) ∧
    scope.Vanishes 1 (.group none true []) ∧ scope.Blank 1 (.group none true []) := by
  have hfilter : scope.filter tree = .ok (some filter) := by rfl
  have hfieldless : scope.Vanishes 2 (.rule ⟨none, none, []⟩) := by rfl
  have hgroup : scope.Vanishes 2 (.group none false [.unknown, namelessRow]) := by rfl
  have hvalueless : scope.Vanishes 1 valuelessRow := by rfl
  have hnew : scope.Vanishes 3 valuelessRow := by rfl
  have hempty : scope.Vanishes 1 (.group none true []) := by rfl
  have hkept : scope.Pruned 0 tree kept :=
    .group (.keep .same (.keep (.group (.delete hfieldless (.delete hgroup .nil)))
      (.delete hvalueless .nil)))
  have hgrown : scope.Grown 0 tree grown :=
    .deeper [_] [_] (.deeper [_] [] (.here [.unknown] [_] hnew))
  obtain ⟨pruned, putIn, blank⟩ := Scope.vanishing_nodes_invisible scope tree
  exact ⟨hkept, hgrown, (pruned kept hkept).trans hfilter, (putIn grown hgrown).trans hfilter,
    hempty, (blank 1 _).mp hempty⟩

end RowFilter.Unfinished
