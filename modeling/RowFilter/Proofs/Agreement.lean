import RowFilter.Proofs.Tree

/-!
# Two scopes over one tree

One tree is built for two scopes, perhaps hanging at different depths. The scopes agree
(`Scope.Agrees`) if the second does with every field and at every depth what the first does,
except where the first stops with one of certain errors.

> `stopsOrSame_buildAt`: then the first stops on the whole tree with such an error, or both
> come to the same.

The errors are those that the difference between the scopes can make. That another error
may stand in front of one of them needs no case of its own: both scopes stop there, and with
the same error.
-/

namespace RowFilter

/-- True of two outcomes that are the same, unless the first is one of certain errors. -/
def StopsOrSame {ε α : Type} (Stops : ε → Prop) (first second : Except ε α) : Prop :=
  (∃ error, Stops error ∧ first = .error error) ∨ first = second

namespace StopsOrSame

variable {ε α β : Type} {Stops : ε → Prop} {first second : Except ε α}

theorem refl (outcome : Except ε α) : StopsOrSame Stops outcome outcome := Or.inr rfl

theorem map (h : StopsOrSame Stops first second) (f : α → β) :
    StopsOrSame Stops (first.map f) (second.map f) := by
  rcases h with ⟨error, hstops, rfl⟩ | rfl
  · exact Or.inl ⟨error, hstops, rfl⟩
  · exact refl _

/-- Where the first of two steps fails, both stop, whatever the second step is. -/
theorem bind {next next' : α → Except ε β} (h : StopsOrSame Stops first second)
    (hnext : ∀ found, StopsOrSame Stops (next found) (next' found)) :
    StopsOrSame Stops (first.bind next) (second.bind next') := by
  rcases h with ⟨error, hstops, rfl⟩ | rfl
  · exact Or.inl ⟨error, hstops, rfl⟩
  · cases first with
    | error error => exact refl _
    | ok found => exact hnext found

end StopsOrSame

namespace Scope


/-- True of two scopes of which the second does what the first does at aligned depths,
unless the first stops. -/
structure Agrees (scope other : Scope) (Stops : FilterError → Prop)
    (Aligned : Nat → Nat → Prop) : Prop where
  fields : ∀ field, StopsOrSame Stops (scope.symbol field) (other.symbol field)
  within : ∀ {depth depth' : Nat}, Aligned depth depth' → depth ≤ scope.maxDepth →
    depth' ≤ other.maxDepth
  /-- Where the first scope is too deep, so is the other, with the same bound. -/
  below : ∀ {depth depth' : Nat}, Aligned depth depth' → scope.maxDepth < depth →
    Stops (.tooDeep scope.maxDepth) ∨
      other.maxDepth < depth' ∧ scope.maxDepth = other.maxDepth
  children : ∀ {depth depth' : Nat}, Aligned depth depth' → Aligned (depth + 1) (depth' + 1)

variable {scope other : Scope} {Stops : FilterError → Prop} {Aligned : Nat → Nat → Prop}

/-- Of a scope a row knows only what its field refers to. -/
theorem stopsOrSame_buildRule (h : scope.Agrees other Stops Aligned) (row : Rule) :
    StopsOrSame Stops (scope.buildRule row) (other.buildRule row) := by
  rw [buildRule_eq, buildRule_eq]
  cases row.field with
  | none => exact .refl _
  | some field => exact (h.fields field).map _

mutual

theorem stopsOrSame_buildAt (h : scope.Agrees other Stops Aligned) :
    ∀ (node : Node) {depth depth' : Nat}, Aligned depth depth' →
    StopsOrSame Stops (scope.buildAt depth node) (other.buildAt depth' node)
  | node, depth, depth', haligned => by
    rcases Nat.lt_or_ge scope.maxDepth depth with hdeep | hd
    · rw [buildAt_of_lt hdeep]
      rcases h.below haligned hdeep with hstops | ⟨hdeep', hbound⟩
      · exact Or.inl ⟨_, hstops, rfl⟩
      · rw [buildAt_of_lt hdeep', hbound]
        exact .refl _
    · have hd' := h.within haligned hd
      match node with
      | .unknown =>
        rw [buildAt_unknown hd, buildAt_unknown hd']
        exact .refl _
      | .rule row =>
        rw [buildAt_rule hd, buildAt_rule hd']
        exact stopsOrSame_buildRule h row
      | .group conjunction negated children =>
        rw [buildAt_group hd, buildAt_group hd']
        have hchildren := stopsOrSame_buildAll h children (h.children haligned)
        exact (StopsOrSame.refl _).bind fun op => hchildren.map _

theorem stopsOrSame_buildAll (h : scope.Agrees other Stops Aligned) :
    ∀ (nodes : List Node) {depth depth' : Nat}, Aligned depth depth' →
    StopsOrSame Stops (scope.buildAll depth nodes) (other.buildAll depth' nodes)
  | [], _, _, _ => by
    rw [buildAll_nil, buildAll_nil]
    exact .refl _
  | node :: rest, depth, depth', haligned => by
    rw [buildAll_cons, buildAll_cons]
    have hrest := stopsOrSame_buildAll h rest haligned
    exact (stopsOrSame_buildAt h node haligned).bind fun built => hrest.map _

end

end Scope

end RowFilter
