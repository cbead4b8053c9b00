import RowFilter.Error
import RowFilter.Json.Basic

/-!
# Literal values

An atom is a text, a number or a truth value. A number is stored in one of three forms,
and its value says in which:

* an integer that fits a signed 64-bit word is stored as that word, and so is a double
  that is a whole number below `2^53` in magnitude, so `5`, `5.0` and `5e0` are the
  same atom;
* an integer that only an unsigned word holds is stored as that word;
* every other finite double is stored as it is.

So integers are kept exactly. Only finite numbers become atoms.

> `ofSigned`, `ofUnsigned`, `ofDouble`: the atoms of words and doubles;
> `ofNumber?`: the atom of a JSON number, which is taken for a double only if it is no word.

These are the value atoms of the specification (sections 3 and 4.1).
-/

namespace RowFilter

/-- A literal value of a filter. -/
inductive Atom where
  | string (text : String)
  | integer (n : Int64)
  /-- An integer beyond the signed words. -/
  | unsigned (n : UInt64)
  | double (x : Binary64)
  | boolean (value : Bool)
  deriving DecidableEq, Repr

namespace Atom

/-- The magnitude below which a whole double is kept as an integer. -/
def exactBound : Nat := 0x20000000000000

/-- The signed word of the same number. -/
def signedWord? (n : UInt64) : Option Int64 :=
  if n.toNat < 0x8000000000000000 then some (.ofNat n.toNat) else none

/-- A signed word as an atom. -/
def ofSigned (n : Int64) : Atom := .integer n

/-- An unsigned word as an atom. -/
def ofUnsigned (n : UInt64) : Atom :=
  match signedWord? n with
  | some word => ofSigned word
  | none => .unsigned n

/-- A double as an atom, if it is finite. -/
def ofDouble (x : Binary64) : Except FilterError Atom :=
  if x.isFinite then
    match x.toInt? with
    | some n => if n.natAbs < exactBound then .ok (ofSigned (.ofInt n)) else .ok (.double x)
    | none => .ok (.double x)
  else .error (.nonFiniteNumber x)

/-- A JSON number as an atom. An integer never goes through a double. -/
def ofNumber? (n : Json.Number) : Option Atom :=
  match n.signed? with
  | some word => some (ofSigned word)
  | none =>
    match n.unsigned? with
    | some word => some (ofUnsigned word)
    | none => (ofDouble n.toDouble).toOption

/-- The text of a text. -/
def string? : Atom → Option String
  | .string text => some text
  | _ => none

/-- The double nearest to a number. -/
def double? : Atom → Option Binary64
  | .integer n => some (.ofInt n.toInt)
  | .unsigned n => some (.ofNat n.toNat)
  | .double x => some x
  | _ => none

/-- The truth value of a truth value. -/
def boolean? : Atom → Option Bool
  | .boolean value => some value
  | _ => none

/-! ## In which form a number is stored -/

section

variable {n : Int} (inRange : -0x8000000000000000 ≤ n ∧ n < 0x10000000000000000) {u : UInt64}

/-- An unsigned word that a signed one can hold is stored as that. -/
theorem ofUnsigned_of_lt (h : u.toNat < 0x8000000000000000) :
    ∃ i : Int64, i.toInt = u.toNat ∧ ofUnsigned u = .integer i := by
  refine ⟨.ofNat u.toNat, Int64.toInt_ofNat_of_lt h, ?_⟩
  rw [ofUnsigned, signedWord?, if_pos h]
  rfl

/-- Any other unsigned word is stored as it is. -/
theorem ofUnsigned_of_le (h : 0x8000000000000000 ≤ u.toNat) : ofUnsigned u = .unsigned u := by
  rw [ofUnsigned, signedWord?, if_neg (Nat.not_lt_of_le h)]

/-- An integer that a signed word can hold is stored as that word. -/
theorem ofNumber?_of_lt (h : n < 0x8000000000000000) :
    ∃ i : Int64, i.toInt = n ∧ ofNumber? (.integer n inRange) = some (.integer i) := by
  refine ⟨.ofInt n, Int64.toInt_ofInt_of_le inRange.1 h, ?_⟩
  rw [ofNumber?, Json.Number.signed?, if_pos h]
  rfl

/-- An integer beyond the signed words is stored as an unsigned one. -/
theorem ofNumber?_of_le (h : 0x8000000000000000 ≤ n) :
    ∃ u : UInt64, (u.toNat : Int) = n ∧ ofNumber? (.integer n inRange) = some (.unsigned u) := by
  have hnat : (UInt64.ofNat n.toNat).toNat = n.toNat :=
    UInt64.toNat_ofNat_of_lt' (show n.toNat < UInt64.size by simp only [UInt64.size]; omega)
  refine ⟨.ofNat n.toNat, by omega, ?_⟩
  rw [ofNumber?, Json.Number.signed?, if_neg (Int.not_lt.mpr h), Json.Number.unsigned?,
    if_pos (by omega)]
  exact congrArg some (ofUnsigned_of_le (by omega))

theorem ofNumber?_double (x : Binary64) (finite : x.isFinite = true) :
    ofNumber? (.double x finite) = (ofDouble x).toOption := rfl

/-- A finite double is stored as a signed word if it is a small whole number, and as itself
otherwise. -/
theorem ofDouble_cases {x : Binary64} (h : x.isFinite = true) :
    (∃ i : Int64, x.toInt? = some i.toInt ∧ i.toInt.natAbs < exactBound ∧
      ofDouble x = .ok (.integer i)) ∨
    (∀ n, x.toInt? = some n → exactBound ≤ n.natAbs) ∧ ofDouble x = .ok (.double x) := by
  have hbound : exactBound < 0x8000000000000000 := by decide
  rw [ofDouble, if_pos h]
  cases x.toInt? with
  | none => exact Or.inr ⟨fun n hn => absurd hn (by simp), rfl⟩
  | some n =>
    dsimp only
    by_cases hn : n.natAbs < exactBound
    · have hword : (Int64.ofInt n).toInt = n := Int64.toInt_ofInt_of_le (by omega) (by omega)
      refine Or.inl ⟨.ofInt n, by rw [hword], by rwa [hword], ?_⟩
      rw [if_pos hn]
      rfl
    · refine Or.inr ⟨?_, if_neg hn⟩
      intro m hm
      obtain rfl := Option.some.inj hm
      exact Nat.le_of_not_lt hn

/-- Every JSON number is stored in one of the three forms. -/
theorem ofNumber?_cases (number : Json.Number) :
    (∃ i, ofNumber? number = some (.integer i)) ∨
    (∃ u, 0x8000000000000000 ≤ u.toNat ∧ ofNumber? number = some (.unsigned u)) ∨
    ∃ x, x.isFinite = true ∧ (∀ n, x.toInt? = some n → exactBound ≤ n.natAbs) ∧
      ofNumber? number = some (.double x) := by
  cases number with
  | integer n inRange =>
    by_cases hn : n < 0x8000000000000000
    · obtain ⟨i, -, hi⟩ := ofNumber?_of_lt _ hn
      exact Or.inl ⟨i, hi⟩
    · obtain ⟨u, hvalue, hu⟩ := ofNumber?_of_le _ (Int.not_lt.mp hn)
      exact Or.inr (Or.inl ⟨u, by omega, hu⟩)
  | double x finite =>
    rw [ofNumber?_double]
    rcases ofDouble_cases finite with ⟨i, -, -, hi⟩ | ⟨hgreat, hx⟩
    · exact Or.inl ⟨i, congrArg Except.toOption hi⟩
    · exact Or.inr (Or.inr ⟨x, finite, hgreat, congrArg Except.toOption hx⟩)

end

end Atom

end RowFilter
