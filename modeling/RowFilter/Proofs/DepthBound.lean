import RowFilter.Proofs.Agreement
import RowFilter.Proofs.Faults
import RowFilter.Proofs.Samples
import RowFilter.Proofs.Symbol

/-!
# What the depth bound decides

Two scopes that differ in their bounds only (`Scope.within`) build the same tree. The
narrower one may refuse a node that the wider one looks at, and then it says so; where it
refuses none, both do the same.

> `tooDeep_or_eq_buildAt`: a tree that hangs somewhere is refused for its depth, or comes
> to what it comes to under any bound that is no closer to it;
> `narrow_bound_refuses_only`: so a lower bound adds one error and changes nothing else.
-/

namespace RowFilter.Scope

variable {scope : Scope}

/-- The scope with another depth bound. -/
def within (scope : Scope) (bound : Nat) : Scope := { scope with maxDepth := bound }

/-- The lower of two bounds may stop a tree that hangs no further from the higher one. -/
theorem agrees_within (scope : Scope) (low high : Nat) :
    (scope.within low).Agrees (scope.within high) (· = .tooDeep low)
      fun depth depth' => low + depth' ≤ high + depth where
  fields _ := .refl _
  within h hd := by simp only [within] at hd ⊢; omega
  below _ _ := Or.inl rfl
  children h := by omega

/-- Of its place a tree knows only how far the bound is, so the places may differ as well. -/
theorem tooDeep_or_eq_buildAt (scope : Scope) {low high depth depth' : Nat} (node : Node)
    (h : low + depth' ≤ high + depth) :
    (scope.within low).buildAt depth node = .error (.tooDeep low) ∨
      (scope.within low).buildAt depth node = (scope.within high).buildAt depth' node := by
  rcases stopsOrSame_buildAt (agrees_within scope low high) node h with
    ⟨error, rfl, hdeep⟩ | hsame
  · exact Or.inl hdeep
  · exact Or.inr hsame

/-! ## Depths -/

/-- A field is never too deep, whatever else may be wrong with it. -/
theorem symbol_ne_tooDeep (scope : Scope) (field : String) (bound : Nat) :
    scope.symbol field ≠ .error (.tooDeep bound) := by
  intro h
  rcases symbol_error_cases h with he | ⟨_, -, he⟩ | he
  · exact absurd he (by simp)
  · exact absurd he (by simp)
  · exact absurd he (by simp)

/-- A node is too deep only if it lies below the bound. -/
theorem lt_of_fault?_eq_tooDeep {place : Nat × Node} {bound : Nat}
    (h : scope.fault? place = some (.tooDeep bound)) : scope.maxDepth < place.1 := by
  rcases Nat.lt_or_ge scope.maxDepth place.1 with hd | hd
  · exact hd
  · rcases fault?_cases_of_le hd h with ⟨text, herror⟩ | ⟨field, hfield⟩
    · exact absurd herror (by simp)
    · exact absurd hfield (scope.symbol_ne_tooDeep field bound)

/-- A tree is refused for its depth only if one of its nodes lies below the bound. -/
theorem exists_lt_of_filter_eq_tooDeep {node : Node} {bound : Nat}
    (h : scope.filter node = .error (.tooDeep bound)) :
    ∃ place ∈ node.preorder 0, scope.maxDepth < place.1 := by
  obtain ⟨place, hplace, hfault⟩ := exists_fault_of_filter h
  exact ⟨place, hplace, lt_of_fault?_eq_tooDeep hfault⟩

/-- No node of a tree that can be built lies below the bound. -/
theorem le_of_mem_preorder {node : Node} {result : Option Operation}
    (h : scope.filter node = .ok result) : ∀ place ∈ node.preorder 0, place.1 ≤ scope.maxDepth := by
  intro place hplace
  have hfine : (node.preorder 0).findSome? scope.fault? = none := by
    rw [← scope.failure?_filter node, failure?_eq_none_iff.mpr ⟨result, h⟩]
  refine Nat.le_of_not_lt fun hd => ?_
  have hfault := List.findSome?_eq_none_iff.mp hfine place hplace
  rw [fault?_of_lt hd] at hfault
  exact absurd hfault (by simp)

/-- **A lower bound only refuses.** Under the lower of two bounds a tree is refused for its
depth, or has the same filter, none, or the same error as under the higher one. It is not
refused for its depth if no node lies below the bound, and only then is it built. -/
theorem narrow_bound_refuses_only (scope : Scope) (node : Node) {low high : Nat}
    (h : low ≤ high) :
    ((scope.within low).filter node = .error (.tooDeep low) ∨
      (scope.within low).filter node = (scope.within high).filter node) ∧
    ((∀ place ∈ node.preorder 0, place.1 ≤ low) →
      (scope.within low).filter node ≠ .error (.tooDeep low)) ∧
    ∀ result, (scope.within low).filter node = .ok result →
      ∀ place ∈ node.preorder 0, place.1 ≤ low := by
  refine ⟨?_, ?_, fun result hresult => le_of_mem_preorder hresult⟩
  · rcases tooDeep_or_eq_buildAt scope node (Nat.add_le_add_right h 0) with hdeep | hsame
    · refine Or.inl ?_
      rw [filter, build, hdeep]
      rfl
    · exact Or.inr (congrArg (Except.map Built.filter) hsame)
  · intro hwithin hdeep
    obtain ⟨place, hplace, hlt⟩ := exists_lt_of_filter_eq_tooDeep hdeep
    exact absurd hlt (Nat.not_lt.mpr (hwithin place hplace))

/-- An empty group two levels below the root, in front of a conjunction that is not known. -/
def doubtfulTree : Node :=
  .group none true [.group none false [.group none false []], .group (some "XOR") false []]

/-- A row two levels below the root. -/
def lowRowTree : Node :=
  .group none true [.group none false [.rule ⟨some "/title", some "is_null", []⟩]]

/-- The filter of that row. -/
def lowRowFilter : Operation :=
  .negation (.logic .and (.logic .and (.nullCheck .isNull (.pointer "config" "/title")) []) [])

/-- A bound of one refuses the first tree and hides what else is wrong with it, and a bound
of two is as good as one of nine. -/
theorem doubtfulTree_narrowed :
    2 ≤ 9 ∧
    ((documentOnly.within 1).filter doubtfulTree = .error (.tooDeep 1) ∧
      (∀ place ∈ doubtfulTree.preorder 0, place.1 ≤ 2) ∧
      (documentOnly.within 2).filter doubtfulTree = (documentOnly.within 9).filter doubtfulTree ∧
      (documentOnly.within 9).filter doubtfulTree = .error (.unknownConjunction "XOR")) ∧
    (documentOnly.within 2).filter lowRowTree = .ok (some lowRowFilter) ∧
      ∀ place ∈ lowRowTree.preorder 0, place.1 ≤ 2 := by
  have hbounds : 2 ≤ 9 := by decide
  have hdepths : ∀ place ∈ doubtfulTree.preorder 0, place.1 ≤ 2 := by decide
  have hfilter : (documentOnly.within 2).filter lowRowTree = .ok (some lowRowFilter) := by rfl
  obtain ⟨hsame, hnotDeep, -⟩ := narrow_bound_refuses_only documentOnly doubtfulTree hbounds
  obtain ⟨-, -, hwithin⟩ := narrow_bound_refuses_only documentOnly lowRowTree hbounds
  exact ⟨hbounds, ⟨rfl, hdepths, hsame.resolve_left (hnotDeep hdepths), rfl⟩, hfilter,
    hwithin _ hfilter⟩

end RowFilter.Scope
