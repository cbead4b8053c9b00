import RowFilter.Proofs.NumberAtoms
import RowFilter.Proofs.SearchedText
import RowFilter.Proofs.Whitelist

/-!
# The shape of a filter

The grammar has more expressions than a filter may be: a literal on its own, a NOT in front of
a condition or of another NOT. What is built for a tree and a search is a condition, an AND or
OR of at least one such filter, or a NOT in front of an AND or OR, at every level
(`Operation.IsShaped`), and the literals in its conditions are in their only form
(`Atom.IsCanonical`):

> `isShaped_join`: a group of shaped filters is one, negated or not;
> `invariant_isShaped`: so what a node comes to is one, whatever the tree;
> `filters_are_shaped`: of a tree's filter, alone and joined with a search.
-/

namespace RowFilter

namespace Operation

/-- True of a single condition that compares with a canonical literal, or searches for a text,
or asks whether there is a value. -/
def IsProper : Operation → Prop
  | .comparison _ _ value => value.IsCanonical
  | .equality _ _ value => value.IsCanonical
  | .contains _ value => ∃ text, value = .string text
  | .nullCheck _ _ => True
  | _ => False

/-- A filter as it is sent. -/
inductive IsShaped : Operation → Prop where
  | condition {leaf : Operation} (proper : leaf.IsProper) : IsShaped leaf
  | joined {op : LogicOperator} {first : Operation} {rest : List Operation}
      (parts : ∀ part ∈ first :: rest, IsShaped part) : IsShaped (.logic op first rest)
  | negated {op : LogicOperator} {first : Operation} {rest : List Operation}
      (parts : ∀ part ∈ first :: rest, IsShaped part) :
      IsShaped (.negation (.logic op first rest))

/-- Shaped filters joined are one. -/
theorem isShaped_logic? (op : LogicOperator) {operations : List Operation}
    (h : ∀ part ∈ operations, part.IsShaped) :
    ∀ operation ∈ logic? op operations, operation.IsShaped := by
  intro operation hlogic
  cases operations with
  | nil => exact absurd hlogic (by simp)
  | cons first rest =>
    obtain rfl := Option.some.inj hlogic
    exact .joined h

end Operation

/-! ## Rows -/

/-- Every literal that is made of a JSON value is canonical. -/
theorem Atom.isCanonical_ofJson? {value : Json} {atom : Atom} (h : ofJson? value = some atom) :
    atom.IsCanonical := by
  cases value with
  | string text =>
    obtain rfl := Option.some.inj h
    trivial
  | bool value =>
    obtain rfl := Option.some.inj h
    trivial
  | number number => exact isCanonical_ofNumber? h
  | _ => exact absurd h (by simp [ofJson?])

namespace Scope

variable {scope : Scope}

/-- The condition of a row is a proper one. -/
theorem isProper_condition? {operator : RuleOperator} {target : Symbol} {value : Option Json}
    {operation : Operation} (h : condition? operator target value = some operation) :
    operation.IsProper := by
  cases operator with
  | comparison op =>
    obtain ⟨atom, hatom, rfl⟩ := Option.map_eq_some_iff.mp h
    obtain ⟨first, -, hatom⟩ := Option.bind_eq_some_iff.mp hatom
    exact Atom.isCanonical_ofJson? hatom
  | equality op =>
    obtain ⟨atom, hatom, rfl⟩ := Option.map_eq_some_iff.mp h
    obtain ⟨first, -, hatom⟩ := Option.bind_eq_some_iff.mp hatom
    exact Atom.isCanonical_ofJson? hatom
  | contains =>
    obtain ⟨text, -, rfl⟩ := Option.map_eq_some_iff.mp h
    exact ⟨text, rfl⟩
  | nullCheck op =>
    obtain rfl := Option.some.inj h
    trivial
  | emptiness op =>
    obtain rfl := Option.some.inj h
    trivial

theorem isShaped_rowFilter? {row : Rule} {operation : Operation}
    (h : scope.rowFilter? row = some operation) : operation.IsShaped := by
  obtain ⟨_, _, _, -, -, -, hcondition⟩ := rowFilter?_eq_some h
  exact .condition (isProper_condition? hcondition)

/-! ## Trees -/

/-- What a node comes to is shaped: a NOT is only put in front of a group. -/
theorem invariant_isShaped (scope : Scope) :
    scope.Invariant (fun _ _ built => ∀ operation ∈ built.filter, operation.IsShaped)
      (fun _ _ operations _ => ∀ operation ∈ operations, operation.IsShaped) :=
  .of_operations (fun _ h => isShaped_rowFilter? h) fun _ h => ⟨.joined h, .negated h⟩

theorem isShaped_filter {node : Node} {filter : Option Operation}
    (h : scope.filter node = .ok filter) : ∀ operation ∈ filter, operation.IsShaped := by
  obtain ⟨built, hbuilt, rfl⟩ := filter_eq_ok_iff.mp h
  exact (invariant_isShaped scope).buildAt node hbuilt

end Scope

/-! ## With a search -/

/-- A search is a conjunction of searches for one word each. -/
theorem isShaped_searchFilter (text : String) (target : Symbol) :
    ∀ operation ∈ searchFilter text target, operation.IsShaped := by
  refine Operation.isShaped_logic? .and ?_
  intro part hpart
  obtain ⟨word, -, rfl⟩ := List.mem_map.mp hpart
  exact .condition ⟨String.ofList word, rfl⟩

/-- Two shaped filters joined are one, and so is the one that is there. -/
theorem isShaped_combine {left right : Option Operation}
    (hleft : ∀ operation ∈ left, operation.IsShaped)
    (hright : ∀ operation ∈ right, operation.IsShaped) :
    ∀ operation ∈ combine left right, operation.IsShaped := by
  cases left with
  | none => simpa using hright
  | some l =>
    cases right with
    | none => simpa using hleft
    | some r =>
      rintro _ ⟨⟩
      exact .joined (List.forall_mem_cons.mpr
        ⟨hleft l rfl, List.forall_mem_singleton.mpr (hright r rfl)⟩)

/-- **Every filter has the shape that is sent.** A tree's filter, and what it becomes with a
search, is at every level a proper condition, an AND or OR of at least one filter of this
shape, or a NOT in front of such an AND or OR. -/
theorem filters_are_shaped {scope : Scope} {value : Json} {filter : Option Operation}
    (h : scope.filterOfJson value = .ok filter) :
    (∀ operation ∈ filter, operation.IsShaped) ∧
      ∀ (text : String) (target : Symbol),
        ∀ operation ∈ combine filter (searchFilter text target), operation.IsShaped := by
  have htree := Scope.isShaped_filter h
  refine ⟨htree, ?_⟩
  intro text target
  exact isShaped_combine htree (isShaped_searchFilter text target)

namespace Builtin

/-- The number `-2^53`, spelled as a double. -/
def leastDoubtful : Json := .number (.double ⟨0xC340000000000000⟩ (by decide))

/-- A negated OR of a row with one half, a negated group of a row with `-2^53`, and a row that
searches for a truth value. -/
def layeredQuery : Json :=
  .object [("type", .string "group"),
    ("properties", .object [("conjunction", .string "OR"), ("not", .bool true)]),
    ("children1", .array
      [rowOf "id" "greater" half,
        .object [("type", .string "group"), ("properties", .object [("not", .bool true)]),
          ("children1", .array [rowOf "id" "equal" leastDoubtful])],
        rowOf "name" "like" (.bool true)])]

/-- The node of that tree. -/
def layeredNode : Node :=
  .group (some "OR") true
    [.rule ⟨some "id", some "greater", [half]⟩,
      .group none true [.rule ⟨some "id", some "equal", [leastDoubtful]⟩],
      .rule ⟨some "name", some "like", [.bool true]⟩]

/-- The filter of that tree: a NOT stands inside of another one, but not directly. -/
def layeredFilter : Operation :=
  .negation (.logic .or (.comparison .greater (.column "id") (.double ⟨0x3FE0000000000000⟩))
    [.negation (.logic .and
        (.equality .equal (.column "id") (.double ⟨0xC340000000000000⟩)) []),
      .contains (.column "variables.name") (.string "true")])

/-- That filter is shaped, and a NOT directly in front of it would not be. -/
theorem layeredFilter_isShaped :
    annotationsScope.filterOfJson layeredQuery = .ok (some layeredFilter) ∧
    layeredFilter.IsShaped ∧
    (∀ operation ∈ combine (some layeredFilter)
        (searchFilter "share" (.column "variables.name")), operation.IsShaped) ∧
    ¬(Operation.negation layeredFilter).IsShaped := by
  have hnode : Node.ofJson layeredQuery = layeredNode := by cbv
  have hfilter : annotationsScope.filterOfJson layeredQuery = .ok (some layeredFilter) := by
    rw [Scope.filterOfJson, hnode]
    rfl
  obtain ⟨htree, hsearch⟩ := filters_are_shaped hfilter
  refine ⟨hfilter, htree _ rfl, hsearch "share" _, ?_⟩
  intro hshaped
  cases hshaped with
  | condition proper => exact proper

end Builtin

end RowFilter
