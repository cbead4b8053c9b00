/-!
# Lists of pairs read as maps

Members of a JSON object, whitelist entries and field definitions are kept as
lists of key and value, because their order is part of the answer. Where the
same key is given twice the entries merge by one rule:

> a key stays where it was first put and has the value it was last given.

`put` follows the rule for one entry and `ofPairs` for a whole list, so the keys
of `ofPairs pairs` are distinct (`Distinct`) and `get?` finds the last value of each.
-/

namespace RowFilter.Keyed

variable {α : Type}

/-- Gives a key a value: in place if the key is there, else at the end. -/
def put (key : String) (value : α) : List (String × α) → List (String × α)
  | [] => [(key, value)]
  | entry :: rest =>
    if entry.1 = key then (key, value) :: rest else entry :: put key value rest

/-- Puts all pairs, from the first to the last. -/
def ofPairs (pairs : List (String × α)) : List (String × α) :=
  pairs.foldl (fun entries pair => put pair.1 pair.2 entries) []

/-- The value of a key. -/
def get? (key : String) : List (String × α) → Option α
  | [] => none
  | entry :: rest => if entry.1 = key then some entry.2 else get? key rest

@[simp] theorem get?_nil (key : String) : get? key ([] : List (String × α)) = none := rfl

@[simp] theorem get?_cons (key : String) (entry : String × α) (rest : List (String × α)) :
    get? key (entry :: rest) = if entry.1 = key then some entry.2 else get? key rest := rfl

/-- A found value is one of the list's. -/
theorem mem_of_get? {key : String} {value : α} :
    ∀ {entries : List (String × α)}, get? key entries = some value →
      (key, value) ∈ entries
  | [], h => by simp at h
  | (k, v) :: rest, h => by
    rw [get?_cons] at h
    split at h
    next hk =>
      obtain rfl := hk
      obtain rfl := Option.some.inj h
      exact List.mem_cons_self ..
    next => exact List.mem_cons_of_mem _ (mem_of_get? h)

/-! ## Distinct keys -/

/-- True of pairs of which no two have the same key. -/
class Distinct (entries : List (String × α)) : Prop where
  nodup : (entries.map Prod.fst).Nodup

instance : Distinct ([] : List (String × α)) := ⟨List.nodup_nil⟩

instance (entry : String × α) : Distinct [entry] := ⟨List.pairwise_singleton _ _⟩

/-- A new key goes to the end, and a known one stays where it is. -/
theorem keys_put (key : String) (value : α) : ∀ entries : List (String × α),
    (put key value entries).map Prod.fst
      = if key ∈ entries.map Prod.fst then entries.map Prod.fst
        else entries.map Prod.fst ++ [key]
  | [] => rfl
  | (k, v) :: rest => by
    rw [put]
    by_cases hk : k = key
    · simp [hk]
    · have hmem : key ∈ ((k, v) :: rest).map Prod.fst ↔ key ∈ rest.map Prod.fst := by
        rw [List.map_cons, List.mem_cons, or_iff_right (Ne.symm hk)]
      rw [if_neg hk, List.map_cons, keys_put key value rest]
      by_cases hr : key ∈ rest.map Prod.fst
      · rw [if_pos hr, if_pos (hmem.mpr hr), List.map_cons]
      · rw [if_neg hr, if_neg (mt hmem.mp hr), List.map_cons, List.cons_append]

theorem Distinct.put {entries : List (String × α)} (h : Distinct entries) (key : String)
    (value : α) : Distinct (put key value entries) where
  nodup := by
    rw [keys_put]
    split
    next => exact h.nodup
    next hk =>
      refine List.nodup_append.mpr ⟨h.nodup, List.pairwise_singleton _ key, ?_⟩
      rintro a ha b hb rfl
      exact hk (by rwa [← List.mem_singleton.mp hb])

/-- Of pairs put one after the other no key is there twice. -/
instance distinct_ofPairs (pairs : List (String × α)) : Distinct (ofPairs pairs) := by
  unfold ofPairs
  refine List.foldlRecOn (motive := Distinct) pairs _ ⟨List.nodup_nil⟩ ?_
  intro entries h pair _
  exact h.put pair.1 pair.2

end RowFilter.Keyed
