import Mathlib.Data.List.Induction
import RowFilter.Keyed

/-!
# Laws of lists of pairs

What is under a key of a list of pairs:

> `get?_eq_none`: nothing is under a key that the list does not have;
> `get?_mapAt_self`, `get?_mapAt_of_ne`: changing what is under one key changes that only;
> `keys_ofPairs`, `get?_ofPairs`: of pairs put one after the other, a key stays where it
> came first and has the value it came with last;
> `ofPairs_of_nodup`: so pairs with distinct keys stay as they are.

Which entry wins is said by `IsFirst` and `IsLast`, which know nothing of how it is found.
-/

namespace RowFilter.Keyed

variable {α β : Type}

theorem get?_eq_none {key : String} : ∀ {entries : List (String × α)},
    key ∉ entries.map Prod.fst → get? key entries = none
  | [], _ => rfl
  | (k, value) :: rest, h => by
    rw [List.map_cons, List.mem_cons, not_or] at h
    have hne : ¬k = key := fun he => h.1 he.symm
    rw [get?, if_neg hne, get?_eq_none h.2]

/-- A change of all values changes what is found, and no key. -/
theorem get?_map (key : String) (change : α → β) : ∀ entries : List (String × α),
    get? key (entries.map fun entry => (entry.1, change entry.2))
      = (get? key entries).map change
  | [] => rfl
  | (k, value) :: rest => by
    rw [List.map_cons, get?, get?]
    by_cases hk : k = key
    · rw [if_pos hk, if_pos hk]
      rfl
    · rw [if_neg hk, if_neg hk, get?_map key change rest]

theorem keys_map (change : α → β) (entries : List (String × α)) :
    (entries.map fun entry => (entry.1, change entry.2)).map Prod.fst
      = entries.map Prod.fst := by
  rw [List.map_map]
  rfl

/-- Changes the value of a key wherever it stands. -/
def mapAt (key : String) (change : α → α) : List (String × α) → List (String × α)
  | [] => []
  | (k, value) :: rest => (k, if k = key then change value else value) :: mapAt key change rest

theorem get?_mapAt_self (key : String) (change : α → α) : ∀ entries : List (String × α),
    get? key (mapAt key change entries) = (get? key entries).map change
  | [] => rfl
  | (k, value) :: rest => by
    rw [mapAt, get?, get?]
    by_cases hk : k = key
    · rw [if_pos hk, if_pos hk, if_pos hk]
      rfl
    · rw [if_neg hk, if_neg hk, get?_mapAt_self key change rest]

theorem get?_mapAt_of_ne {key other : String} (h : other ≠ key) (change : α → α) :
    ∀ entries : List (String × α), get? other (mapAt key change entries) = get? other entries
  | [] => rfl
  | (k, value) :: rest => by
    rw [mapAt, get?, get?, get?_mapAt_of_ne h change rest]
    by_cases hk : k = other
    · have hne : k ≠ key := fun he => h (hk.symm.trans he)
      rw [if_pos hk, if_pos hk, if_neg hne]
    · rw [if_neg hk, if_neg hk]

/-! ## Pairs put one after the other -/

theorem get?_put_self (key : String) (value : α) : ∀ entries : List (String × α),
    get? key (put key value entries) = some value
  | [] => by rw [put, get?, if_pos rfl]
  | (k, v) :: rest => by
    rw [put]
    by_cases hk : k = key
    · rw [if_pos hk, get?, if_pos rfl]
    · rw [if_neg hk, get?, if_neg hk, get?_put_self key value rest]

theorem get?_put_of_ne {key other : String} (h : other ≠ key) (value : α) :
    ∀ entries : List (String × α), get? other (put key value entries) = get? other entries
  | [] => if_neg (Ne.symm h)
  | (k, v) :: rest => by
    rw [put]
    by_cases hk : k = key
    · have hne : ¬k = other := fun he => h (he.symm.trans hk)
      rw [if_pos hk, get?, if_neg (Ne.symm h), get?, if_neg hne]
    · rw [if_neg hk, get?, get?, get?_put_of_ne h value rest]

/-- The last pair is put last. -/
theorem ofPairs_append (pairs : List (String × α)) (key : String) (value : α) :
    ofPairs (pairs ++ [(key, value)]) = put key value (ofPairs pairs) := by
  rw [ofPairs, List.foldl_append]
  rfl

/-- The keys of pairs put one after the other, each where it came first. -/
theorem keys_ofPairs (pairs : List (String × α)) :
    (ofPairs pairs).map Prod.fst = (pairs.map Prod.fst).eraseDups := by
  induction pairs using List.reverseRecOn with
  | nil => rfl
  | append_singleton pairs pair ih =>
    obtain ⟨key, value⟩ := pair
    rw [ofPairs_append, keys_put, ih, List.map_append, List.eraseDups_append]
    by_cases hk : key ∈ pairs.map Prod.fst
    · rw [if_pos (List.mem_eraseDups.mpr hk)]
      simp [List.removeAll, hk]
    · rw [if_neg (mt List.mem_eraseDups.mp hk)]
      simp [List.removeAll, hk, List.eraseDups_cons]

/-- The value of a key in pairs put one after the other: the last that it came with. -/
theorem get?_ofPairs (key : String) (pairs : List (String × α)) :
    get? key (ofPairs pairs) = (pairs.reverse.find? (·.1 = key)).map Prod.snd := by
  induction pairs using List.reverseRecOn with
  | nil => rfl
  | append_singleton pairs pair ih =>
    obtain ⟨k, value⟩ := pair
    rw [ofPairs_append, List.reverse_append, List.reverse_singleton, List.singleton_append]
    by_cases hk : k = key
    · rw [hk, get?_put_self, List.find?_cons_of_pos (by simp)]
      rfl
    · rw [get?_put_of_ne (Ne.symm hk), ih, List.find?_cons_of_neg (by simpa using hk)]

/-- A new key goes to the end with its value. -/
theorem put_of_notMem {key : String} (value : α) : ∀ {entries : List (String × α)},
    key ∉ entries.map Prod.fst → put key value entries = entries ++ [(key, value)]
  | [], _ => rfl
  | (k, v) :: rest, h => by
    rw [List.map_cons, List.mem_cons, not_or] at h
    have hne : ¬k = key := fun he => h.1 he.symm
    rw [put, if_neg hne, put_of_notMem value h.2, List.cons_append]

/-- Pairs with distinct keys stay as they are. -/
theorem ofPairs_of_nodup {pairs : List (String × α)} (h : (pairs.map Prod.fst).Nodup) :
    ofPairs pairs = pairs := by
  induction pairs using List.reverseRecOn with
  | nil => rfl
  | append_singleton pairs pair ih =>
    obtain ⟨key, value⟩ := pair
    rw [List.map_append, List.nodup_append] at h
    obtain ⟨hpairs, -, hdisjoint⟩ := h
    have hnew : key ∉ pairs.map Prod.fst := fun hk =>
      hdisjoint key hk key (List.mem_singleton_self key) rfl
    rw [ofPairs_append, ih hpairs, put_of_notMem value hnew]

/-- In a list of distinct keys, what is under a key is what is found under it. -/
theorem mem_iff_get? {key : String} {value : α} : ∀ {entries : List (String × α)},
    (entries.map Prod.fst).Nodup → ((key, value) ∈ entries ↔ get? key entries = some value)
  | [], _ => by simp [get?]
  | (k, v) :: rest, h => by
    rw [List.map_cons, List.nodup_cons] at h
    rw [List.mem_cons, Prod.mk.injEq, get?]
    by_cases hk : k = key
    · have hnot : (key, value) ∉ rest := fun hm =>
        h.1 (List.mem_map.mpr ⟨(key, value), hm, hk.symm⟩)
      rw [if_pos hk, Option.some.injEq, or_iff_left hnot, and_iff_right hk.symm, eq_comm]
    · rw [if_neg hk, ← mem_iff_get? h.2, or_iff_right fun he => hk he.1.symm]

/-- Of pairs put one after the other nothing is there that is not one of them. -/
theorem mem_of_mem_ofPairs {pair : String × α} {pairs : List (String × α)}
    (h : pair ∈ ofPairs pairs) : pair ∈ pairs := by
  have hget := (mem_iff_get? (distinct_ofPairs pairs).nodup).mp h
  rw [get?_ofPairs] at hget
  obtain ⟨found, hfound, hvalue⟩ := Option.map_eq_some_iff.mp hget
  have hkey : found.1 = pair.1 := by simpa using List.find?_some hfound
  rw [← Prod.ext hkey hvalue]
  exact List.mem_reverse.mp (List.mem_of_find?_eq_some hfound)

end RowFilter.Keyed

/-! ## The first and the last of a kind -/

namespace RowFilter

variable {α : Type} {kind : α → Prop} {items : List α} {item : α}

/-- The first item of a kind: none in front of it is of that kind. -/
def IsFirst (kind : α → Prop) (items : List α) (item : α) : Prop :=
  kind item ∧ ∃ before after, items = before ++ item :: after ∧ ∀ other ∈ before, ¬kind other

/-- The last item of a kind: none behind it is of that kind. -/
def IsLast (kind : α → Prop) (items : List α) (item : α) : Prop :=
  kind item ∧ ∃ before after, items = before ++ item :: after ∧ ∀ other ∈ after, ¬kind other

theorem IsFirst.mem (h : IsFirst kind items item) : item ∈ items := by
  obtain ⟨-, before, after, rfl, -⟩ := h
  exact List.mem_append_right _ (List.mem_cons_self ..)

theorem IsLast.mem (h : IsLast kind items item) : item ∈ items := by
  obtain ⟨-, before, after, rfl, -⟩ := h
  exact List.mem_append_right _ (List.mem_cons_self ..)

theorem isFirst_iff_find? [DecidablePred kind] :
    IsFirst kind items item ↔ items.find? (fun other => decide (kind other)) = some item := by
  rw [List.find?_eq_some_iff_append, IsFirst, decide_eq_true_iff]
  simp only [Bool.not_eq_true', decide_eq_false_iff_not]

/-- If there is an item of a kind, there is a first one. -/
theorem exists_isFirst [DecidablePred kind] (hmem : item ∈ items) (hkind : kind item) :
    ∃ first, IsFirst kind items first := by
  have hsome : (items.find? fun other => decide (kind other)).isSome = true :=
    List.find?_isSome.mpr ⟨item, hmem, decide_eq_true hkind⟩
  obtain ⟨first, hfirst⟩ := Option.isSome_iff_exists.mp hsome
  exact ⟨first, isFirst_iff_find?.mpr hfirst⟩

/-- The last item of a kind is the first that is met from the end. -/
theorem isLast_iff_isFirst_reverse : IsLast kind items item ↔ IsFirst kind items.reverse item := by
  constructor
  · rintro ⟨hkind, before, after, rfl, hafter⟩
    refine ⟨hkind, after.reverse, before.reverse, by simp, fun other hm => ?_⟩
    exact hafter other (List.mem_reverse.mp hm)
  · rintro ⟨hkind, before, after, hitems, hbefore⟩
    refine ⟨hkind, after.reverse, before.reverse, ?_, fun other hm => ?_⟩
    · have hreverse := congrArg List.reverse hitems
      simpa using hreverse
    · exact hbefore other (List.mem_reverse.mp hm)

theorem isLast_iff_find? [DecidablePred kind] :
    IsLast kind items item ↔
      items.reverse.find? (fun other => decide (kind other)) = some item := by
  rw [isLast_iff_isFirst_reverse, isFirst_iff_find?]

end RowFilter
