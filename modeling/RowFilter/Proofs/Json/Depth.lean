import RowFilter.Json.Reader
import RowFilter.Proofs.Keyed

/-!
# The depth of a value that was read

Behind each opened array or object the reader has one level less for what is inside, and
where no level is left it refuses another one. What it has read is no deeper than that:

> `depth_readValue_le`: a value that was read with some levels left is no deeper than they
> are many, so no text gives a value deeper than `maxDepth` (`depth_readFront_le`).

A member under a key that comes again later counts in the text and not in the value, which
can only make the value less deep.
-/

namespace RowFilter.Json

variable {levels bound : Nat} {text : List Char}

/-! ## Parts of a value -/

theorem depthOfItems_le_iff : ∀ {items : List Json},
    depthOfItems items ≤ bound ↔ ∀ item ∈ items, item.depth ≤ bound
  | [] => by simp [depthOfItems]
  | item :: rest => by
    rw [depthOfItems, Nat.max_le, List.forall_mem_cons, depthOfItems_le_iff]

theorem depthOfMembers_le_iff : ∀ {members : List (String × Json)},
    depthOfMembers members ≤ bound ↔ ∀ member ∈ members, member.2.depth ≤ bound
  | [] => by simp [depthOfMembers]
  | (key, value) :: rest => by
    rw [depthOfMembers, Nat.max_le, List.forall_mem_cons, depthOfMembers_le_iff]

/-- Members that are put over one another are no deeper than all of them. -/
theorem depthOfMembers_ofPairs_le {members : List (String × Json)}
    (h : depthOfMembers members ≤ bound) : depthOfMembers (Keyed.ofPairs members) ≤ bound := by
  rw [depthOfMembers_le_iff] at h ⊢
  exact fun member hm => h member (Keyed.mem_of_mem_ofPairs hm)

/-- An array or object is deeper than what is in it. -/
theorem depth_lt_of_get? {key : String} {value member : Json} (h : value.get? key = some member) :
    member.depth < value.depth := by
  cases value with
  | object members =>
    have hmember := depthOfMembers_le_iff.mp (Nat.le_refl _) _ (Keyed.mem_of_get? h)
    rw [depth]
    exact Nat.lt_succ_of_le hmember
  | _ => exact absurd h (by simp [get?])

/-! ## What a reader has read -/

/-- A word of letters stands for the value that it is read for. -/
theorem value_readKeyword {letters rest : List Char} {value result : Json}
    {h : rest.length < text.length} {after : Shorter text}
    (hread : readKeyword letters value rest text h = .ok (result, after)) : result = value := by
  unfold readKeyword at hread
  split at hread
  next => exact absurd hread (by simp)
  next => exact (Prod.mk.inj (Except.ok.inj hread)).1.symm

/-- A value is a scalar, or an array or object that took a level from what is inside. -/
theorem readValue_cases {value : Json} {rest : Shorter text} :
    readValue levels text = .ok (value, rest) →
    value.depth = 0 ∨
    (∃ inner below items after, levels = inner + 1 ∧ below.length < text.length ∧
      readFirstItem inner below = .ok (items, after) ∧ value = .array items) ∨
    ∃ inner below members after, levels = inner + 1 ∧ below.length < text.length ∧
      readFirstMember inner below = .ok (members, after) ∧
      value = .object (Keyed.ofPairs members) := by
  fun_cases readValue levels text with
  | case2 | case3 | case4 =>
    intro h
    exact Or.inl (by rw [value_readKeyword h]; rfl)
  | case6 =>
    intro h
    obtain ⟨rfl, -⟩ := Prod.mk.inj (Except.ok.inj h)
    exact Or.inl rfl
  | case9 below hlevels items after hafter hitems _ _ hbelow =>
    intro h
    obtain ⟨rfl, -⟩ := Prod.mk.inj (Except.ok.inj h)
    exact Or.inr (Or.inl ⟨levels - 1, below, items, _, by omega, hbelow, hitems, rfl⟩)
  | case12 below hlevels members after hafter hmembers _ _ hbelow =>
    intro h
    obtain ⟨rfl, -⟩ := Prod.mk.inj (Except.ok.inj h)
    exact Or.inr (Or.inr ⟨levels - 1, below, members, _, by omega, hbelow, hmembers, rfl⟩)
  | case14 =>
    intro h
    obtain ⟨rfl, -⟩ := Prod.mk.inj (Except.ok.inj h)
    exact Or.inl rfl
  | _ =>
    -- the text ends, or something is not what it has to be, or no level is left
    intro h
    exact absurd h (by simp)

/-- Each further item of an array was read as a value somewhere behind the one in front. -/
theorem exists_readValue_of_mem_moreItems {text : List Char} {items : List Json}
    {rest : Shorter text} : readMoreItems levels text = .ok (items, rest) →
    ∀ item ∈ items, ∃ below after, below.length < text.length ∧
      readValue levels below = .ok (item, after) := by
  fun_cases readMoreItems levels text with
  | case2 =>
    intro h
    obtain ⟨rfl, -⟩ := Prod.mk.inj (Except.ok.inj h)
    exact List.forall_mem_nil _
  | case7 below _ _ _ _ _ first after hafter hfirst more _ _ hmore _ _ hbelow =>
    intro h
    obtain ⟨rfl, -⟩ := Prod.mk.inj (Except.ok.inj h)
    have hshorter : after.length < text.length := Nat.lt_trans hafter hbelow
    refine List.forall_mem_cons.mpr ⟨⟨below, _, hbelow, hfirst⟩, fun item hm => ?_⟩
    obtain ⟨deeper, afterItem, hdeeper, hitem⟩ :=
      exists_readValue_of_mem_moreItems hmore item hm
    exact ⟨deeper, afterItem, Nat.lt_trans hdeeper hshorter, hitem⟩
  | _ =>
    intro h
    exact absurd h (by simp)
  termination_by text.length

/-- Each item of an array was read as a value. -/
theorem exists_readValue_of_mem_items {items : List Json} {rest : Shorter text} :
    readFirstItem levels text = .ok (items, rest) →
    ∀ item ∈ items, ∃ below after, below.length ≤ text.length ∧
      readValue levels below = .ok (item, after) := by
  fun_cases readFirstItem levels text with
  | case2 =>
    intro h
    obtain ⟨rfl, -⟩ := Prod.mk.inj (Except.ok.inj h)
    exact List.forall_mem_nil _
  | case5 _ _ _ _ _ first after hafter hfirst more _ _ hmore =>
    intro h
    obtain ⟨rfl, -⟩ := Prod.mk.inj (Except.ok.inj h)
    refine List.forall_mem_cons.mpr ⟨⟨text, _, Nat.le_refl _, hfirst⟩, fun item hm => ?_⟩
    obtain ⟨deeper, afterItem, hdeeper, hitem⟩ :=
      exists_readValue_of_mem_moreItems hmore item hm
    exact ⟨deeper, afterItem, Nat.le_of_lt (Nat.lt_trans hdeeper hafter), hitem⟩
  | _ =>
    intro h
    exact absurd h (by simp)

/-- Each further member of an object was read behind its key. -/
theorem exists_readValue_of_mem_moreMembers {text : List Char} {members : List (String × Json)}
    {rest : Shorter text} : readMoreMembers levels text = .ok (members, rest) →
    ∀ member ∈ members, ∃ below after, below.length < text.length ∧
      readValue levels below = .ok (member.2, after) := by
  fun_cases readMoreMembers levels text with
  | case2 =>
    intro h
    obtain ⟨rfl, -⟩ := Prod.mk.inj (Except.ok.inj h)
    exact List.forall_mem_nil _
  | case8 behind c tail htail _ _ key below hkey _ first after hafter hfirst more _ _ hmore _ _
      hbehind =>
    intro h
    obtain ⟨rfl, -⟩ := Prod.mk.inj (Except.ok.inj h)
    have hbelow : below.length < text.length := by omega
    have hshorter : after.length < text.length := Nat.lt_trans hafter hbelow
    refine List.forall_mem_cons.mpr ⟨⟨below, _, hbelow, hfirst⟩, fun member hm => ?_⟩
    obtain ⟨deeper, afterItem, hdeeper, hitem⟩ :=
      exists_readValue_of_mem_moreMembers hmore member hm
    exact ⟨deeper, afterItem, Nat.lt_trans hdeeper hshorter, hitem⟩
  | _ =>
    intro h
    exact absurd h (by simp)
  termination_by text.length

/-- Each member of an object was read behind its key. -/
theorem exists_readValue_of_mem_members {members : List (String × Json)} {rest : Shorter text} :
    readFirstMember levels text = .ok (members, rest) →
    ∀ member ∈ members, ∃ below after, below.length ≤ text.length ∧
      readValue levels below = .ok (member.2, after) := by
  fun_cases readFirstMember levels text with
  | case2 =>
    intro h
    obtain ⟨rfl, -⟩ := Prod.mk.inj (Except.ok.inj h)
    exact List.forall_mem_nil _
  | case6 c tail htail _ _ key below hkey _ first after hafter hfirst more _ _ hmore =>
    intro h
    obtain ⟨rfl, -⟩ := Prod.mk.inj (Except.ok.inj h)
    have hbelow : below.length ≤ text.length := by omega
    refine List.forall_mem_cons.mpr ⟨⟨below, _, hbelow, hfirst⟩, fun member hm => ?_⟩
    obtain ⟨deeper, afterItem, hdeeper, hitem⟩ :=
      exists_readValue_of_mem_moreMembers hmore member hm
    exact ⟨deeper, afterItem, by omega, hitem⟩
  | _ =>
    intro h
    exact absurd h (by simp)

/-- **A value is no deeper than the levels it was read with.** -/
theorem depth_readValue_le {levels : Nat} {text : List Char} {value : Json} {rest : Shorter text}
    (h : readValue levels text = .ok (value, rest)) : value.depth ≤ levels := by
  rcases readValue_cases h with hscalar | ⟨inner, below, items, after, rfl, hbelow, hitems, rfl⟩ |
    ⟨inner, below, members, after, rfl, hbelow, hmembers, rfl⟩
  · omega
  · rw [depth]
    refine Nat.succ_le_succ (depthOfItems_le_iff.mpr fun item hm => ?_)
    obtain ⟨part, afterItem, hpart, hitem⟩ := exists_readValue_of_mem_items hitems item hm
    have hshorter : part.length < text.length := Nat.lt_of_le_of_lt hpart hbelow
    exact depth_readValue_le hitem
  · rw [depth]
    refine Nat.succ_le_succ (depthOfMembers_ofPairs_le (depthOfMembers_le_iff.mpr
      fun member hm => ?_))
    obtain ⟨part, afterItem, hpart, hitem⟩ := exists_readValue_of_mem_members hmembers member hm
    have hshorter : part.length < text.length := Nat.lt_of_le_of_lt hpart hbelow
    exact depth_readValue_le hitem
  termination_by text.length

/-- No value at the front of a text is deeper than the reader lets it be. -/
theorem depth_readFront_le {value : Json} {rest : List Char}
    (h : readFront text = .ok (value, rest)) : value.depth ≤ maxDepth := by
  unfold readFront at h
  split at h
  next => exact absurd h (by simp)
  next found after _ hread =>
    obtain ⟨rfl, -⟩ := Prod.mk.inj (Except.ok.inj h)
    exact depth_readValue_le hread

/-- And so no value of a whole text. -/
theorem depth_parseChars_le {value : Json} (h : parseChars text = .ok value) :
    value.depth ≤ maxDepth := by
  unfold parseChars at h
  split at h
  next => exact absurd h (by simp)
  next found rest hread =>
    split at h
    next =>
      obtain rfl := Except.ok.inj h
      exact depth_readFront_le hread
    next => exact absurd h (by simp)

end RowFilter.Json
