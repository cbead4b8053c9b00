import RowFilter.Proofs.Grammar.Leaves
import RowFilter.Proofs.Outcome
import RowFilter.Tree.Build

/-!
# What a tree comes to

Building a filter succeeds in one way for each kind of node, and says so here once:

> `buildAt_group_iff`: a group within the bound, whose conjunction is known and whose
> children all succeed, comes to its children's conditions joined.

What is to be shown of every tree that succeeds is then an `Invariant`, with one field for each
of these ways, and holds by `Invariant.buildAt`. The first one is that joining adds no condition
and takes none away, so the recursion over the tree and a flat pass over its rows find the same
conditions:

> `leaves_filter`: the leaves of a tree's filter are the conditions of its rows, in
> document order, without the rows that make none.
-/

namespace RowFilter

namespace Node

mutual

/-- The rows of a tree in document order. -/
def rules : Node → List Rule
  | .group _ _ children => rulesOf children
  | .rule row => [row]
  | .unknown => []

/-- The rows of several trees in document order. -/
def rulesOf : List Node → List Rule
  | [] => []
  | node :: rest => rules node ++ rulesOf rest

end

@[simp] theorem rules_unknown : rules .unknown = [] := rfl

@[simp] theorem rules_rule (row : Rule) : rules (.rule row) = [row] := rfl

@[simp] theorem rules_group (conjunction : Option String) (negated : Bool)
    (children : List Node) : rules (.group conjunction negated children) = rulesOf children := rfl

@[simp] theorem rulesOf_nil : rulesOf [] = [] := rfl

@[simp] theorem rulesOf_cons (node : Node) (rest : List Node) :
    rulesOf (node :: rest) = node.rules ++ rulesOf rest := rfl

end Node

namespace Scope

variable {scope : Scope}

/-- The condition of a row whose field is known, if it makes one. -/
def rowFilter? (scope : Scope) (rule : Rule) : Option Operation :=
  rule.field.bind fun field =>
    (scope.symbol field).toOption.bind fun target =>
      (rule.operator.bind RuleOperator.ofName?).bind fun operator =>
        condition? operator target rule.firstValue?

/-! ## One node -/

/-- What a row comes to whose field refers to something. -/
def completed (rule : Rule) (field : String) (target : Symbol) : Built :=
  match rule.operator.bind RuleOperator.ofName? with
  | none => ⟨none, [.unusableOperator field rule.operator]⟩
  | some operator =>
    match condition? operator target rule.firstValue? with
    | none => ⟨none, [.noValue field]⟩
    | some operation => ⟨some operation, []⟩

/-- A row fails only by its field. -/
theorem buildRule_eq (scope : Scope) (rule : Rule) :
    scope.buildRule rule
      = rule.field.elim (.ok ⟨none, [.noField]⟩) fun field =>
          (scope.symbol field).map (completed rule field) := by
  unfold buildRule completed
  cases rule.field with
  | none => rfl
  | some field =>
    rw [Option.elim_some]
    dsimp only
    cases scope.symbol field with
    | error error => rfl
    | ok target =>
      rw [map_ok]
      dsimp only
      cases rule.operator.bind RuleOperator.ofName? with
      | none => rfl
      | some operator =>
        dsimp only
        cases condition? operator target rule.firstValue? <;> rfl

@[simp] theorem filter_completed (rule : Rule) (field : String) (target : Symbol) :
    (completed rule field target).filter
      = (rule.operator.bind RuleOperator.ofName?).bind fun operator =>
          condition? operator target rule.firstValue? := by
  unfold completed
  cases rule.operator.bind RuleOperator.ofName? with
  | none => rfl
  | some operator =>
    rw [Option.bind_some]
    dsimp only
    cases condition? operator target rule.firstValue? <;> rfl

/-- A row that is not at fault comes to its condition, if it makes one. -/
theorem map_filter_buildRule (scope : Scope) (rule : Rule) :
    (scope.buildRule rule).map Built.filter
      = rule.field.elim (.ok none) fun field =>
          (scope.symbol field).map fun target =>
            (rule.operator.bind RuleOperator.ofName?).bind fun operator =>
              condition? operator target rule.firstValue? := by
  rw [buildRule_eq]
  cases rule.field with
  | none => rfl
  | some field => simp only [Option.elim_some, map_map, Function.comp_def, filter_completed]

/-- A row that is not at fault comes to its condition. -/
theorem buildRule_filter {rule : Rule} {built : Built} (h : scope.buildRule rule = .ok built) :
    built.filter = scope.rowFilter? rule := by
  have hmap := map_filter_buildRule scope rule
  rw [h] at hmap
  unfold rowFilter?
  cases hf : rule.field with
  | none =>
    rw [hf] at hmap
    exact Except.ok.inj hmap
  | some field =>
    rw [hf, Option.elim_some] at hmap
    obtain ⟨target, hs, hcondition⟩ := map_eq_ok_iff.mp hmap.symm
    show built.filter = (scope.symbol field).toOption.bind _
    rw [hs]
    exact hcondition.symm

/-- What a row's condition is made of. -/
theorem rowFilter?_eq_some {rule : Rule} {operation : Operation}
    (h : scope.rowFilter? rule = some operation) :
    ∃ field target operator, rule.field = some field ∧ scope.symbol field = .ok target ∧
      rule.operator.bind RuleOperator.ofName? = some operator ∧
      condition? operator target rule.firstValue? = some operation := by
  unfold rowFilter? at h
  obtain ⟨field, hf, h⟩ := Option.bind_eq_some_iff.mp h
  obtain ⟨target, ht, h⟩ := Option.bind_eq_some_iff.mp h
  obtain ⟨operator, ho, h⟩ := Option.bind_eq_some_iff.mp h
  exact ⟨field, target, operator, hf, toOption_eq_some_iff.mp ht, ho, h⟩

/-- A node that is not at fault lies within the bound. -/
theorem depth_le_of_buildAt {node : Node} {depth : Nat} {built : Built}
    (h : scope.buildAt depth node = .ok built) : depth ≤ scope.maxDepth := by
  unfold buildAt at h
  split at h
  next => exact absurd h (by simp)
  next hd => exact Nat.le_of_not_lt hd

/-- The bound is looked at first, so below it nothing else about a node matters. -/
theorem buildAt_of_lt {depth : Nat} (hd : scope.maxDepth < depth) (node : Node) :
    scope.buildAt depth node = .error (.tooDeep scope.maxDepth) := by
  unfold buildAt
  rw [if_pos hd]

theorem buildAt_unknown {depth : Nat} (hd : depth ≤ scope.maxDepth) :
    scope.buildAt depth .unknown = .ok ⟨none, []⟩ := by
  rw [buildAt, if_neg (Nat.not_lt.mpr hd)]

theorem buildAt_rule {depth : Nat} {rule : Rule} (hd : depth ≤ scope.maxDepth) :
    scope.buildAt depth (.rule rule) = scope.buildRule rule := by
  rw [buildAt, if_neg (Nat.not_lt.mpr hd)]

/-- A group within the bound looks at its conjunction, and then at its children. -/
theorem buildAt_group {depth : Nat} (hd : depth ≤ scope.maxDepth)
    (conjunction : Option String) (negated : Bool) (children : List Node) :
    scope.buildAt depth (.group conjunction negated children)
      = (LogicOperator.ofConjunction conjunction).bind fun op =>
          (scope.buildAll (depth + 1) children).map fun all =>
            ⟨join op negated all.1, all.2⟩ := by
  rw [buildAt, if_neg (Nat.not_lt.mpr hd)]
  cases LogicOperator.ofConjunction conjunction with
  | error error => rfl
  | ok op =>
    dsimp only
    cases scope.buildAll (depth + 1) children with
    | error error => rfl
    | ok all => rfl

@[simp] theorem buildAll_nil (scope : Scope) (depth : Nat) :
    scope.buildAll depth [] = .ok ([], []) := by
  rw [buildAll]

/-- Several nodes are the first of them and the others. -/
theorem buildAll_cons (scope : Scope) (depth : Nat) (node : Node) (rest : List Node) :
    scope.buildAll depth (node :: rest)
      = (scope.buildAt depth node).bind fun built =>
          (scope.buildAll depth rest).map fun more =>
            (built.filter.toList ++ more.1, built.omitted ++ more.2) := by
  rw [buildAll]
  cases scope.buildAt depth node with
  | error error => rfl
  | ok built =>
    dsimp only
    cases scope.buildAll depth rest with
    | error error => rfl
    | ok more => rfl

@[simp] theorem buildAt_unknown_iff {depth : Nat} {built : Built} :
    scope.buildAt depth .unknown = .ok built ↔ depth ≤ scope.maxDepth ∧ built = ⟨none, []⟩ := by
  constructor
  · intro h
    have hd := depth_le_of_buildAt h
    rw [buildAt_unknown hd] at h
    exact ⟨hd, (Except.ok.inj h).symm⟩
  · rintro ⟨hd, rfl⟩
    exact buildAt_unknown hd

@[simp] theorem buildAt_rule_iff {depth : Nat} {rule : Rule} {built : Built} :
    scope.buildAt depth (.rule rule) = .ok built ↔
      depth ≤ scope.maxDepth ∧ scope.buildRule rule = .ok built := by
  constructor
  · intro h
    have hd := depth_le_of_buildAt h
    exact ⟨hd, buildAt_rule hd ▸ h⟩
  · rintro ⟨hd, h⟩
    rw [buildAt_rule hd, h]

/-- How a group succeeds. -/
@[simp] theorem buildAt_group_iff {depth : Nat} {conjunction : Option String} {negated : Bool}
    {children : List Node} {built : Built} :
    scope.buildAt depth (.group conjunction negated children) = .ok built ↔
      depth ≤ scope.maxDepth ∧ ∃ op operations omitted,
        LogicOperator.ofConjunction conjunction = .ok op ∧
        scope.buildAll (depth + 1) children = .ok (operations, omitted) ∧
        built = ⟨join op negated operations, omitted⟩ := by
  constructor
  · intro h
    have hd := depth_le_of_buildAt h
    rw [buildAt_group hd] at h
    obtain ⟨op, ho, h⟩ := bind_eq_ok_iff.mp h
    obtain ⟨⟨operations, omitted⟩, ha, rfl⟩ := map_eq_ok_iff.mp h
    exact ⟨hd, op, operations, omitted, ho, ha, rfl⟩
  · rintro ⟨hd, op, operations, omitted, ho, ha, rfl⟩
    rw [buildAt_group hd, ho, ha]
    rfl

/-- How a list of nodes succeeds. -/
@[simp] theorem buildAll_cons_iff {depth : Nat} {node : Node} {rest : List Node}
    {operations : List Operation} {omitted : List Omission} :
    scope.buildAll depth (node :: rest) = .ok (operations, omitted) ↔
      ∃ built more omittedMore, scope.buildAt depth node = .ok built ∧
        scope.buildAll depth rest = .ok (more, omittedMore) ∧
        operations = built.filter.toList ++ more ∧ omitted = built.omitted ++ omittedMore := by
  constructor
  · intro h
    rw [buildAll_cons] at h
    obtain ⟨built, hb, h⟩ := bind_eq_ok_iff.mp h
    obtain ⟨⟨more, omittedMore⟩, hm, h⟩ := map_eq_ok_iff.mp h
    obtain ⟨h₁, h₂⟩ := Prod.mk.inj h
    exact ⟨built, more, omittedMore, hb, hm, h₁.symm, h₂.symm⟩
  · rintro ⟨built, more, omittedMore, hb, hm, rfl, rfl⟩
    rw [buildAll_cons, hb, hm]
    rfl

/-! ## Joining -/

@[simp] theorem join_nil (op : LogicOperator) (negated : Bool) : join op negated [] = none := rfl

@[simp] theorem join_cons (op : LogicOperator) (negated : Bool) (first : Operation)
    (rest : List Operation) :
    join op negated (first :: rest)
      = some (if negated then .negation (.logic op first rest) else .logic op first rest) := rfl

/-- Joining gives nothing only if there is nothing to join. -/
@[simp] theorem join_eq_none_iff {op : LogicOperator} {negated : Bool}
    {operations : List Operation} : join op negated operations = none ↔ operations = [] := by
  cases operations <;> simp

/-! ## Every node of a tree -/

/-- What nodes have to do with what they come to at a depth, and lists of nodes with what they
come to together, if each way to succeed keeps it. -/
structure Invariant (scope : Scope) (At : Nat → Node → Built → Prop)
    (All : Nat → List Node → List Operation → List Omission → Prop) : Prop where
  unknown : ∀ {depth}, depth ≤ scope.maxDepth → At depth .unknown ⟨none, []⟩
  rule : ∀ {depth row built}, depth ≤ scope.maxDepth → scope.buildRule row = .ok built →
    At depth (.rule row) built
  group : ∀ {depth conjunction op negated children operations omitted},
    depth ≤ scope.maxDepth → LogicOperator.ofConjunction conjunction = .ok op →
    All (depth + 1) children operations omitted →
    At depth (.group conjunction negated children) ⟨join op negated operations, omitted⟩
  nil : ∀ {depth}, All depth [] [] []
  cons : ∀ {depth node rest built more omittedMore}, At depth node built →
    All depth rest more omittedMore →
    All depth (node :: rest) (built.filter.toList ++ more) (built.omitted ++ omittedMore)

section

variable {At : Nat → Node → Built → Prop}
  {All : Nat → List Node → List Operation → List Omission → Prop}

mutual

/-- An invariant holds of every node and what it comes to. -/
theorem Invariant.buildAt (invariant : scope.Invariant At All) : ∀ (node : Node) {depth : Nat}
    {built : Built}, scope.buildAt depth node = .ok built → At depth node built
  | .unknown, _, _, h => by
    obtain ⟨hd, rfl⟩ := buildAt_unknown_iff.mp h
    exact invariant.unknown hd
  | .rule _, _, _, h => by
    obtain ⟨hd, hrule⟩ := buildAt_rule_iff.mp h
    exact invariant.rule hd hrule
  | .group _ _ children, _, _, h => by
    obtain ⟨hd, op, operations, omitted, ho, hchildren, rfl⟩ := buildAt_group_iff.mp h
    exact invariant.group hd ho (invariant.buildAll children hchildren)

/-- An invariant holds of all nodes and what they come to together. -/
theorem Invariant.buildAll (invariant : scope.Invariant At All) : ∀ (nodes : List Node)
    {depth : Nat} {operations : List Operation} {omitted : List Omission},
    scope.buildAll depth nodes = .ok (operations, omitted) → All depth nodes operations omitted
  | [], _, _, _, h => by
    rw [buildAll_nil] at h
    obtain ⟨rfl, rfl⟩ := Prod.mk.inj (Except.ok.inj h)
    exact invariant.nil
  | node :: rest, _, _, _, h => by
    obtain ⟨built, more, omittedMore, hnode, hrest, rfl, rfl⟩ := buildAll_cons_iff.mp h
    exact invariant.cons (invariant.buildAt node hnode) (invariant.buildAll rest hrest)

end

/-- What holds of the conditions of rows, and of joined operations if it holds of these one
level deeper, holds of all that nodes come to. -/
theorem Invariant.of_operations {good : Nat → Operation → Prop}
    (rule : ∀ {depth row operation}, depth ≤ scope.maxDepth →
      scope.rowFilter? row = some operation → good depth operation)
    (join : ∀ {depth op first rest}, depth ≤ scope.maxDepth →
      (∀ part ∈ first :: rest, good (depth + 1) part) →
      good depth (.logic op first rest) ∧ good depth (.negation (.logic op first rest))) :
    scope.Invariant (fun depth _ built => ∀ operation ∈ built.filter, good depth operation)
      (fun depth _ operations _ => ∀ operation ∈ operations, good depth operation) where
  unknown _ := by simp
  rule hd h operation hoperation := rule hd (buildRule_filter h ▸ hoperation)
  group {_ _ op negated _ operations _} hd _ hparts := by
    cases operations with
    | nil => simp
    | cons first rest =>
      obtain ⟨hjoined, hnegated⟩ := join hd hparts
      cases negated with
      | false => simpa using hjoined
      | true => simpa using hnegated
  nil := by simp
  cons hfirst hmore operation hoperation := by
    rcases List.mem_append.mp hoperation with h | h
    · exact hfirst operation (Option.mem_toList.mp h)
    · exact hmore operation h

end

/-! ## The condition of a row -/

/-- A JSON value is a finite literal if it is one at all. -/
theorem isFinite_ofJson? {value : Json} {atom : Atom} (h : Atom.ofJson? value = some atom) :
    atom.IsFinite := by
  cases value with
  | string text => obtain rfl := Option.some.inj h; trivial
  | bool value => obtain rfl := Option.some.inj h; trivial
  | number number =>
    have h : Atom.ofNumber? number = some atom := h
    rcases Atom.ofNumber?_cases number with ⟨i, hi⟩ | ⟨u, -, hu⟩ | ⟨x, hfinite, -, hx⟩
    · obtain rfl := Option.some.inj (hi.symm.trans h)
      trivial
    · obtain rfl := Option.some.inj (hu.symm.trans h)
      trivial
    · obtain rfl := Option.some.inj (hx.symm.trans h)
      exact hfinite
  | _ => exact absurd h (by simp [Atom.ofJson?])

/-- What a row's condition can be: a comparison with a finite literal, a search for a
text, or a test for a value, each on the symbol of the row. -/
theorem condition?_cases {operator : RuleOperator} {target : Symbol} {value : Option Json}
    {operation : Operation} (h : condition? operator target value = some operation) :
    (∃ op atom, operation = .comparison op target atom ∧ atom.IsFinite) ∨
    (∃ op atom, operation = .equality op target atom ∧ atom.IsFinite) ∨
    (∃ text, operation = .contains target (.string text)) ∨
    ∃ op, operation = .nullCheck op target := by
  cases operator with
  | comparison op =>
    obtain ⟨atom, ha, rfl⟩ := Option.map_eq_some_iff.mp h
    obtain ⟨_, -, ha⟩ := Option.bind_eq_some_iff.mp ha
    exact Or.inl ⟨op, atom, rfl, isFinite_ofJson? ha⟩
  | equality op =>
    obtain ⟨atom, ha, rfl⟩ := Option.map_eq_some_iff.mp h
    obtain ⟨_, -, ha⟩ := Option.bind_eq_some_iff.mp ha
    exact Or.inr (Or.inl ⟨op, atom, rfl, isFinite_ofJson? ha⟩)
  | contains =>
    obtain ⟨text, -, rfl⟩ := Option.map_eq_some_iff.mp h
    exact Or.inr (Or.inr (Or.inl ⟨text, rfl⟩))
  | nullCheck op =>
    obtain rfl := Option.some.inj h
    exact Or.inr (Or.inr (Or.inr ⟨op, rfl⟩))
  | emptiness op =>
    obtain rfl := Option.some.inj h
    exact Or.inr (Or.inl ⟨op, .string "", rfl, trivial⟩)

/-- The condition of a row is a single one, on the symbol of the row. -/
theorem leaves_condition? {operator : RuleOperator} {target : Symbol} {value : Option Json}
    {operation : Operation} (h : condition? operator target value = some operation) :
    operation.leaves = [operation] ∧ operation.target? = some target := by
  rcases condition?_cases h with ⟨_, _, rfl, -⟩ | ⟨_, _, rfl, -⟩ | ⟨_, rfl⟩ | ⟨_, rfl⟩
  · exact ⟨rfl, rfl⟩
  · exact ⟨rfl, rfl⟩
  · exact ⟨rfl, rfl⟩
  · exact ⟨rfl, rfl⟩

/-- The literal of a row's condition is finite. -/
theorem isFinite_condition? {operator : RuleOperator} {target : Symbol} {value : Option Json}
    {operation : Operation} (h : condition? operator target value = some operation) :
    ∀ atom, operation.value? = some atom → atom.IsFinite := by
  intro atom ha
  rcases condition?_cases h with ⟨_, _, rfl, hf⟩ | ⟨_, _, rfl, hf⟩ | ⟨_, rfl⟩ | ⟨_, rfl⟩
  · obtain rfl := Option.some.inj ha
    exact hf
  · obtain rfl := Option.some.inj ha
    exact hf
  · obtain rfl := Option.some.inj ha
    trivial
  · exact absurd ha (by simp [Operation.value?])

/-! ## A whole tree -/

theorem leaves_rowFilter? (scope : Scope) (rule : Rule) :
    (scope.rowFilter? rule).toList.flatMap Operation.leaves = (scope.rowFilter? rule).toList := by
  cases h : scope.rowFilter? rule with
  | none => rfl
  | some operation =>
    obtain ⟨_, _, _, -, -, -, hc⟩ := rowFilter?_eq_some h
    show operation.leaves ++ [] = [operation]
    rw [(leaves_condition? hc).1]
    rfl

/-- Joined and perhaps negated conditions are the same conditions. -/
theorem leaves_join (op : LogicOperator) (negated : Bool) (operations : List Operation) :
    (join op negated operations).toList.flatMap Operation.leaves
      = operations.flatMap Operation.leaves := by
  rw [← Operation.leaves_logic? op operations]
  unfold join
  cases Operation.logic? op operations with
  | none => rfl
  | some operation =>
    cases negated with
    | false => rfl
    | true => rfl

/-- The conditions of a node are those of its rows. -/
theorem invariant_leaves (scope : Scope) :
    scope.Invariant
      (fun _ node built =>
        built.filter.toList.flatMap Operation.leaves = node.rules.filterMap scope.rowFilter?)
      (fun _ nodes operations _ =>
        operations.flatMap Operation.leaves
          = (Node.rulesOf nodes).filterMap scope.rowFilter?) where
  unknown _ := rfl
  rule {_ row _} _ h := by
    rw [buildRule_filter h, leaves_rowFilter?, Node.rules_rule]
    cases hr : scope.rowFilter? row with
    | none => rw [List.filterMap_cons_none hr]; rfl
    | some operation => rw [List.filterMap_cons_some hr]; rfl
  group {_ _ op negated _ operations _} _ _ h := (leaves_join op negated operations).trans h
  nil := rfl
  cons hfirst hmore := by
    rw [List.flatMap_append, hfirst, hmore, Node.rulesOf_cons, List.filterMap_append]

/-- A tree has a filter, or none, if it can be built. -/
theorem filter_eq_ok_iff {node : Node} {result : Option Operation} :
    scope.filter node = .ok result ↔
      ∃ built, scope.buildAt 0 node = .ok built ∧ built.filter = result := map_eq_ok_iff

/-- The conditions of a tree's filter are those of its rows. -/
theorem leaves_filter {node : Node} {result : Option Operation}
    (h : scope.filter node = .ok result) :
    result.toList.flatMap Operation.leaves = node.rules.filterMap scope.rowFilter? := by
  obtain ⟨built, hb, rfl⟩ := filter_eq_ok_iff.mp h
  exact (invariant_leaves scope).buildAt node hb

/-- Each condition of a tree's filter is the condition of some row. -/
theorem mem_leaves_filter {node : Node} {operation leaf : Operation}
    (h : scope.filter node = .ok (some operation)) (hm : leaf ∈ operation.leaves) :
    ∃ rule ∈ node.rules, scope.rowFilter? rule = some leaf := by
  have hl := leaves_filter h
  rw [show (some operation).toList.flatMap Operation.leaves = operation.leaves ++ [] from rfl,
    List.append_nil] at hl
  rw [hl] at hm
  exact List.mem_filterMap.mp hm

end Scope

end RowFilter
