import RowFilter.Proofs.DepthBound
import RowFilter.Proofs.Vanishing

/-!
# A subtree does not know where it hangs

Taking a node out of a tree leaves the groups around it, each with the children in front of
the node and behind it (`Node.Frame`). Hung into them again the node is as deep as they are
many, and every node of a tree comes out that way (`mem_preorder_iff`).

> `buildAt_eq_build`: a node at a depth comes to what it comes to as a root under the bound
> that is left there, only that a refusal names the whole bound;
> `subtrees_know_no_place`: so nodes that come to the same as roots under that bound may be
> exchanged for each other.
-/

namespace RowFilter

namespace Node

/-- A group around one of its children, without the child. -/
structure Frame where
  conjunction : Option String
  negated : Bool
  /-- The children in front of the missing one. -/
  front : List Node
  /-- The children behind the missing one. -/
  back : List Node

/-- The group with a child in the empty place. -/
def Frame.around (frame : Frame) (child : Node) : Node :=
  .group frame.conjunction frame.negated (frame.front ++ child :: frame.back)

/-- A node in the groups around it, of which the outermost comes first. -/
def hang : List Frame → Node → Node
  | [], node => node
  | frame :: inner, node => frame.around (hang inner node)

/-! ## The places of a tree -/

theorem mem_preorder_self (depth : Nat) (node : Node) : (depth, node) ∈ node.preorder depth := by
  cases node with
  | group conjunction negated children => exact List.mem_cons_self ..
  | rule row => exact List.mem_cons_self ..
  | unknown => exact List.mem_cons_self ..

/-- A hung node is as deep as there are groups around it. -/
theorem mem_preorder_hang (node : Node) : ∀ (frames : List Frame) (depth : Nat),
    (depth + frames.length, node) ∈ (hang frames node).preorder depth
  | [], depth => mem_preorder_self depth node
  | frame :: inner, depth => by
    have hinner := mem_preorder_hang node inner (depth + 1)
    have hdepth : depth + (frame :: inner).length = depth + 1 + inner.length := by
      rw [List.length_cons]
      omega
    rw [hang, Frame.around, preorder, preorderOf_eq_flatMap, hdepth]
    refine List.mem_cons_of_mem _ (List.mem_flatMap.mpr ⟨hang inner node, ?_, hinner⟩)
    exact List.mem_append_right _ (List.mem_cons_self ..)

mutual

theorem exists_hang_of_mem_preorder : ∀ (tree : Node) {depth : Nat} {place : Nat × Node},
    place ∈ tree.preorder depth →
    ∃ frames, place.1 = depth + frames.length ∧ hang frames place.2 = tree
  | .group conjunction negated children, depth, place, h => by
    rcases List.mem_cons.mp h with rfl | h
    · exact ⟨[], rfl, rfl⟩
    · obtain ⟨front, child, back, inner, rfl, hdepth, rfl⟩ :=
        exists_hang_of_mem_preorderOf children h
      refine ⟨⟨conjunction, negated, front, back⟩ :: inner, ?_, rfl⟩
      rw [hdepth, List.length_cons]
      omega
  | .rule row, depth, place, h => by
    rw [List.mem_singleton.mp h]
    exact ⟨[], rfl, rfl⟩
  | .unknown, depth, place, h => by
    rw [List.mem_singleton.mp h]
    exact ⟨[], rfl, rfl⟩

theorem exists_hang_of_mem_preorderOf : ∀ (nodes : List Node) {depth : Nat} {place : Nat × Node},
    place ∈ preorderOf depth nodes →
    ∃ front child back frames, nodes = front ++ child :: back ∧
      place.1 = depth + frames.length ∧ hang frames place.2 = child
  | node :: rest, depth, place, h => by
    rcases List.mem_append.mp h with h | h
    · obtain ⟨frames, hdepth, hnode⟩ := exists_hang_of_mem_preorder node h
      exact ⟨[], node, rest, frames, rfl, hdepth, hnode⟩
    · obtain ⟨front, child, back, frames, rfl, hdepth, hchild⟩ :=
        exists_hang_of_mem_preorderOf rest h
      exact ⟨node :: front, child, back, frames, rfl, hdepth, hchild⟩

end

/-- The nodes of a tree at a depth are those that hang in as many groups. -/
theorem mem_preorder_iff {tree node : Node} {depth : Nat} :
    (depth, node) ∈ tree.preorder 0 ↔
      ∃ frames : List Frame, frames.length = depth ∧ hang frames node = tree := by
  constructor
  · intro h
    obtain ⟨frames, hdepth, htree⟩ := exists_hang_of_mem_preorder tree h
    exact ⟨frames, (Nat.zero_add _).symm.trans hdepth.symm, htree⟩
  · rintro ⟨frames, rfl, rfl⟩
    have hmem := mem_preorder_hang node frames 0
    rwa [Nat.zero_add] at hmem

end Node

/-- An error under one depth bound as it reads under another. -/
def FilterError.rebound (bound other : Nat) (error : FilterError) : FilterError :=
  if error = .tooDeep bound then .tooDeep other else error

namespace Scope

variable {scope : Scope} {depth : Nat}

/-! ## A node at a depth and as a root -/

/-- A refusal names the bound of the scope that refuses. -/
theorem eq_maxDepth_of_buildAt {node : Node} {bound : Nat}
    (h : scope.buildAt depth node = .error (.tooDeep bound)) : bound = scope.maxDepth := by
  obtain ⟨place, -, hfault⟩ := exists_fault_of_buildAt h
  rw [fault?_of_lt (lt_of_fault?_eq_tooDeep hfault)] at hfault
  exact (FilterError.tooDeep.inj (Option.some.inj hfault)).symm

/-- **A node at a depth is a root under the bound that is left there.** -/
theorem buildAt_eq_build (node : Node) (hd : depth ≤ scope.maxDepth) :
    scope.buildAt depth node
      = ((scope.within (scope.maxDepth - depth)).build node).mapError
          (FilterError.rebound (scope.maxDepth - depth) scope.maxDepth) := by
  -- the scope under its own bound is the scope
  have hdown : scope.buildAt depth node = .error (.tooDeep scope.maxDepth) ∨
      scope.buildAt depth node = (scope.within (scope.maxDepth - depth)).buildAt 0 node :=
    tooDeep_or_eq_buildAt scope node (by omega)
  have hup : (scope.within (scope.maxDepth - depth)).buildAt 0 node
        = .error (.tooDeep (scope.maxDepth - depth)) ∨
      (scope.within (scope.maxDepth - depth)).buildAt 0 node = scope.buildAt depth node :=
    tooDeep_or_eq_buildAt scope node (by omega)
  rw [build]
  rcases hup with hrefused | hsame
  · rw [hrefused]
    show _ = Except.error (FilterError.rebound _ _ _)
    rw [FilterError.rebound, if_pos rfl]
    rcases hdown with hdeep | hsame
    · exact hdeep
    · rw [hsame, hrefused, eq_maxDepth_of_buildAt (hsame.trans hrefused)]
  · rw [hsame]
    cases hbuilt : scope.buildAt depth node with
    | ok built => rfl
    | error error =>
      show _ = Except.error (FilterError.rebound _ _ _)
      rw [FilterError.rebound]
      by_cases hdeep : error = .tooDeep (scope.maxDepth - depth)
      · rw [if_pos hdeep]
        rw [hdeep] at hbuilt ⊢
        rw [eq_maxDepth_of_buildAt hbuilt]
      · rw [if_neg hdeep]

theorem filterAt_eq_filter (node : Node) (hd : depth ≤ scope.maxDepth) :
    scope.filterAt depth node
      = ((scope.within (scope.maxDepth - depth)).filter node).mapError
          (FilterError.rebound (scope.maxDepth - depth) scope.maxDepth) := by
  rw [filterAt, buildAt_eq_build node hd, filter]
  cases (scope.within (scope.maxDepth - depth)).build node with
  | error error => rfl
  | ok built => rfl

/-- Nodes with the same filter as roots under the bound that is left at a depth have the
same filter there. -/
theorem filterAt_congr_of_filter {old new : Node}
    (h : depth ≤ scope.maxDepth → (scope.within (scope.maxDepth - depth)).filter old
      = (scope.within (scope.maxDepth - depth)).filter new) :
    scope.filterAt depth old = scope.filterAt depth new := by
  refine filterAt_congr_of_le fun hd => ?_
  rw [filterAt_eq_filter old hd, filterAt_eq_filter new hd, h hd]

/-! ## Exchanging a subtree -/

/-- One of several nodes may be exchanged for one with the same filter. -/
theorem filtersAt_append_congr {old new : Node} (back : List Node)
    (h : scope.filterAt depth old = scope.filterAt depth new) : ∀ front : List Node,
    scope.filtersAt depth (front ++ old :: back) = scope.filtersAt depth (front ++ new :: back)
  | [] => by rw [List.nil_append, List.nil_append, filtersAt_cons, filtersAt_cons, h]
  | node :: front => by
    rw [List.cons_append, List.cons_append, filtersAt_cons, filtersAt_cons,
      filtersAt_append_congr back h front]

/-- What is around a node knows its filter only. -/
theorem filterAt_hang_congr {old new : Node} : ∀ (frames : List Node.Frame) {depth : Nat},
    scope.filterAt (depth + frames.length) old = scope.filterAt (depth + frames.length) new →
    scope.filterAt depth (Node.hang frames old) = scope.filterAt depth (Node.hang frames new)
  | [], _, h => h
  | frame :: inner, depth, h => by
    have hdepth : depth + (frame :: inner).length = depth + 1 + inner.length := by
      rw [List.length_cons]
      omega
    rw [hdepth] at h
    exact filterAt_group_congr
      (filtersAt_append_congr frame.back (filterAt_hang_congr inner h) frame.front)

/-- **A subtree does not know where it hangs.** At a depth within the bound a node comes to
what it comes to as a root under the bound less the depth; an error that names that bound
names the whole one instead. The nodes of a tree at a depth are those that hang in as many
groups, and there a node may be exchanged for any other that has the same filter, lack of
one, or error as a root under the bound that is left; below the bound for any other at all. -/
theorem subtrees_know_no_place (scope : Scope) :
    (∀ node depth, depth ≤ scope.maxDepth →
      scope.buildAt depth node
        = ((scope.within (scope.maxDepth - depth)).build node).mapError
            (FilterError.rebound (scope.maxDepth - depth) scope.maxDepth)) ∧
    (∀ tree node depth, (depth, node) ∈ tree.preorder 0 ↔
      ∃ frames : List Node.Frame, frames.length = depth ∧ Node.hang frames node = tree) ∧
    ∀ (frames : List Node.Frame) (old new : Node),
      (frames.length ≤ scope.maxDepth →
        (scope.within (scope.maxDepth - frames.length)).filter old
          = (scope.within (scope.maxDepth - frames.length)).filter new) →
      scope.filter (Node.hang frames old) = scope.filter (Node.hang frames new) := by
  refine ⟨fun node depth hd => buildAt_eq_build node hd, fun _ _ _ => Node.mem_preorder_iff, ?_⟩
  intro frames old new h
  show scope.filterAt 0 (Node.hang frames old) = scope.filterAt 0 (Node.hang frames new)
  refine filterAt_hang_congr frames ?_
  rw [Nat.zero_add]
  exact filterAt_congr_of_filter h

end Scope

namespace Unfinished

/-- A group in a negated one, each with more children than the one that is taken out. -/
def around : List Node.Frame :=
  [⟨some "OR", true, [.rule ⟨some "/title", some "is_null", []⟩], [valuelessRow]⟩,
    ⟨none, false, [namelessRow], [.unknown]⟩]

/-- A group of one finished row. -/
def finished : Node := .group none false [.rule ⟨some "/note", some "is_not_null", []⟩]

/-- The group with two unfinished rows in it. -/
def halfFinished : Node :=
  .group (some "AND") false
    [namelessRow, .rule ⟨some "/note", some "is_not_null", []⟩, valuelessRow]

/-- A group two levels below its root. -/
def deep : Node := .group none false [.group none true [.group none false []]]

/-- The filter of either group with what is around it. -/
def aroundFilter : Operation :=
  .negation (.logic .or (.nullCheck .isNull (.pointer "config" "/title"))
    [.logic .and (.logic .and (.nullCheck .isNotNull (.pointer "config" "/note")) []) []])

/-- Two levels down, a bound of three leaves one. There the two groups may be exchanged, and
a group that is refused names the bound of three. -/
theorem halfFinished_exchanged :
    2 ≤ scope.maxDepth ∧ around.length = 2 ∧ scope.maxDepth - 2 = 1 ∧
    ((scope.within 1).filter finished = (scope.within 1).filter halfFinished ∧
      scope.filter (Node.hang around finished) = scope.filter (Node.hang around halfFinished) ∧
      scope.filter (Node.hang around halfFinished) = .ok (some aroundFilter)) ∧
    ((scope.within 1).build deep = .error (.tooDeep 1) ∧
      scope.buildAt 2 deep = .error (.tooDeep 3)) ∧
    (2, deep) ∈ (Node.hang around deep).preorder 0 := by
  have hd : 2 ≤ scope.maxDepth := by decide
  have hroots : (scope.within 1).filter finished = (scope.within 1).filter halfFinished := by rfl
  have hfilter : scope.filter (Node.hang around finished) = .ok (some aroundFilter) := by rfl
  obtain ⟨atDepth, places, exchange⟩ := Scope.subtrees_know_no_place scope
  have hsame := exchange around finished halfFinished fun _ => hroots
  exact ⟨hd, rfl, rfl, ⟨hroots, hsame, hsame.symm.trans hfilter⟩,
    ⟨rfl, (atDepth deep 2 hd).trans rfl⟩, (places _ _ _).mpr ⟨around, rfl, rfl⟩⟩

end Unfinished

end RowFilter
