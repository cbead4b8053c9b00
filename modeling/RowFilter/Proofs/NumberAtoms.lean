import RowFilter.Grammar.Render
import RowFilter.Proofs.Decimal.Value

/-!
# Numbers as literals

However a number was spelled, there is one literal for it, and nothing of it is lost:

> `isCanonical_ofNumber?`, `isCanonical_ofUnsigned`, `isCanonical_ofDouble`: whatever a literal
> is made of, its number is stored in the only form that it has;
> `eq_of_int?`: so an integer has one literal, a signed word or an unsigned one;
> `text_ofNumber?_integer`, `toInt?_text`: it is written in decimal and reads back;
> `numbers_exact`: all of this together, and what follows for literals that are asked for a
> double.

The bound of doubles is where they stop to tell all integers apart: `2^53` is the double of
`2^53 + 1` as well, so a double of that value says less than an integer would.
-/

namespace RowFilter.Atom

variable {x : Binary64} {n : Int} {inRange : -0x8000000000000000 ≤ n ∧ n < 0x10000000000000000}
  {atom : Atom}

/-! ## The form of a number -/

/-- True of a literal in the only form that its value has: an integer as an unsigned word only
if no signed one holds it, and a number as a double only if it is finite and no integer below
`2^53` in magnitude. -/
def IsCanonical : Atom → Prop
  | .string _ => True
  | .integer _ => True
  | .unsigned n => 2 ^ 63 ≤ n.toNat
  | .double x => x.isFinite = true ∧ ∀ n : ℤ, x.value = n → 2 ^ 53 ≤ n.natAbs
  | .boolean _ => True

/-- The integer that is stored as a word. -/
def int? : Atom → Option Int
  | .integer n => some n.toInt
  | .unsigned n => some n.toNat
  | _ => none

/-- An integer is stored as one word only. -/
theorem eq_of_int? {a b : Atom} (ha : a.IsCanonical) (hb : b.IsCanonical) (hn : a.int? = some n)
    (hm : b.int? = some n) : a = b := by
  cases a with
  | integer i =>
    obtain rfl := Option.some.inj hn
    cases b with
    | integer j => rw [Int64.toInt_inj.mp (Option.some.inj hm)]
    | unsigned v =>
      -- what an unsigned word holds in its own form is beyond the signed ones
      have hle : 2 ^ 63 ≤ v.toNat := hb
      have hsame : (v.toNat : Int) = i.toInt := Option.some.inj hm
      have hlt := i.toInt_lt
      omega
    | _ => exact absurd hm (by simp [int?])
  | unsigned u =>
    obtain rfl := Option.some.inj hn
    cases b with
    | integer j =>
      have hle : 2 ^ 63 ≤ u.toNat := ha
      have hsame : j.toInt = (u.toNat : Int) := Option.some.inj hm
      have hlt := j.toInt_lt
      omega
    | unsigned v =>
      have hsame : (v.toNat : Int) = (u.toNat : Int) := Option.some.inj hm
      rw [UInt64.toNat_inj.mp (Int.ofNat.inj hsame)]
    | _ => exact absurd hm (by simp [int?])
  | _ => exact absurd hn (by simp [int?])

/-- Every JSON number is stored in its form. -/
theorem isCanonical_ofNumber? {number : Json.Number} (h : ofNumber? number = some atom) :
    atom.IsCanonical := by
  rcases ofNumber?_cases number with ⟨i, hi⟩ | ⟨u, hle, hu⟩ | ⟨x, hfinite, hgreat, hx⟩
  · obtain rfl := Option.some.inj (hi.symm.trans h)
    trivial
  · obtain rfl := Option.some.inj (hu.symm.trans h)
    exact hle
  · obtain rfl := Option.some.inj (hx.symm.trans h)
    exact ⟨hfinite, fun n hn => hgreat n (Binary64.toInt?_eq_some_iff.mpr ⟨hfinite, hn⟩)⟩

/-! ## Integers -/

/-- The word that an integer is stored as. -/
theorem ofNumber?_integer (n : Int) (inRange) :
    ∃ atom, ofNumber? (.integer n inRange) = some atom ∧ atom.int? = some n ∧
      ((n < 2 ^ 63 ∧ ∃ i, atom = .integer i) ∨ (2 ^ 63 ≤ n ∧ ∃ u, atom = .unsigned u)) := by
  rcases lt_or_ge n (2 ^ 63) with hn | hn
  · obtain ⟨i, hvalue, hi⟩ := ofNumber?_of_lt inRange hn
    exact ⟨.integer i, hi, congrArg some hvalue, Or.inl ⟨hn, i, rfl⟩⟩
  · obtain ⟨u, hvalue, hu⟩ := ofNumber?_of_le inRange hn
    exact ⟨.unsigned u, hu, congrArg some hvalue, Or.inr ⟨hn, u, rfl⟩⟩

theorem isCanonical_ofSigned (i : Int64) : (ofSigned i).IsCanonical := trivial

theorem isCanonical_ofUnsigned (u : UInt64) : (ofUnsigned u).IsCanonical := by
  rcases Nat.lt_or_ge u.toNat (2 ^ 63) with hu | hu
  · obtain ⟨i, -, hi⟩ := ofUnsigned_of_lt hu
    rw [hi]
    trivial
  · rw [ofUnsigned_of_le hu]
    exact hu

theorem int?_ofUnsigned (u : UInt64) : (ofUnsigned u).int? = some (u.toNat : Int) := by
  rcases Nat.lt_or_ge u.toNat (2 ^ 63) with hu | hu
  · obtain ⟨i, hvalue, hi⟩ := ofUnsigned_of_lt hu
    rw [hi, int?, hvalue]
  · rw [ofUnsigned_of_le hu, int?]

/-- A signed and an unsigned word are the same literal if they are the same number. -/
theorem ofSigned_eq_ofUnsigned_iff {i : Int64} {u : UInt64} :
    ofSigned i = ofUnsigned u ↔ i.toInt = u.toNat := by
  have hi : (ofSigned i).int? = some i.toInt := rfl
  constructor
  · intro hsame
    rw [hsame, int?_ofUnsigned] at hi
    exact (Option.some.inj hi).symm
  · intro hsame
    refine eq_of_int? (isCanonical_ofSigned i) (isCanonical_ofUnsigned u) hi ?_
    rw [int?_ofUnsigned, hsame]

/-- An integer is written as everywhere in Lean. -/
theorem ofList_integer (n : Int) : String.ofList (Decimal.integer n) = toString n := by
  cases n with
  | ofNat m => rfl
  | negSucc m =>
    show String.ofList (['-'] ++ Nat.toDigits 10 (m + 1)) = "-" ++ String.ofList _
    rw [String.ofList_append]

/-- An integer is written in decimal. -/
theorem text_ofNumber?_integer (h : ofNumber? (.integer n inRange) = some atom) :
    atom.text = toString n := by
  rw [text, render_ofNumber?_integer h, ofList_integer]

/-- An integer reads back. -/
theorem toInt?_text (h : ofNumber? (.integer n inRange) = some atom) :
    atom.text.toInt? = some n := by
  rw [text_ofNumber?_integer h]
  exact Int.toInt?_repr n

/-! ## Doubles -/

/-- What is no number at all, or none of a finite magnitude, is no literal. -/
theorem ofDouble_of_not_finite (h : x.isFinite = false) :
    ofDouble x = .error (.nonFiniteNumber x) := by
  rw [ofDouble, if_neg (by simp [h])]

/-- A finite double is the integer that its value is, if that is below the bound, and itself
otherwise. -/
theorem ofDouble_value_cases (hfinite : x.isFinite = true) :
    (∃ i : Int64, x.value = i.toInt ∧ i.toInt.natAbs < 2 ^ 53 ∧ ofDouble x = .ok (.integer i)) ∨
      ((∀ n : ℤ, x.value = n → 2 ^ 53 ≤ n.natAbs) ∧ ofDouble x = .ok (.double x)) := by
  rcases ofDouble_cases hfinite with ⟨i, hwhole, hsmall, hok⟩ | ⟨hgreat, hok⟩
  · exact Or.inl ⟨i, (Binary64.toInt?_eq_some_iff.mp hwhole).2, hsmall, hok⟩
  · exact Or.inr ⟨fun n hn => hgreat n (Binary64.toInt?_eq_some_iff.mpr ⟨hfinite, hn⟩), hok⟩

/-- What is made of a double is stored in its form. -/
theorem isCanonical_ofDouble (h : ofDouble x = .ok atom) : atom.IsCanonical := by
  cases hfinite : x.isFinite with
  | false =>
    rw [ofDouble_of_not_finite hfinite] at h
    exact absurd h (by simp)
  | true =>
    rcases ofDouble_value_cases hfinite with ⟨i, -, -, hok⟩ | ⟨hgreat, hok⟩
    · obtain rfl := Except.ok.inj (hok.symm.trans h)
      trivial
    · obtain rfl := Except.ok.inj (hok.symm.trans h)
      exact ⟨hfinite, hgreat⟩

/-- A double is refused if and only if it is infinite or no number. -/
theorem ofDouble_error_iff :
    (∃ error, ofDouble x = .error error) ↔ x.isInfinite = true ∨ x.isNaN = true := by
  rw [← Binary64.isFinite_eq_false_iff]
  cases hfinite : x.isFinite with
  | false => exact iff_of_true ⟨_, ofDouble_of_not_finite hfinite⟩ rfl
  | true =>
    refine iff_of_false ?_ (by decide)
    rintro ⟨error, herror⟩
    rcases ofDouble_value_cases hfinite with ⟨i, -, -, hok⟩ | ⟨-, hok⟩
    · exact absurd (hok.symm.trans herror) (by simp)
    · exact absurd (hok.symm.trans herror) (by simp)

/-- A double below the bound that is a word's number is the literal of the word. -/
theorem ofDouble_of_signed {i : Int64} (hfinite : x.isFinite = true) (hvalue : x.value = i.toInt)
    (hsmall : i.toInt.natAbs < 2 ^ 53) : ofDouble x = .ok (ofSigned i) := by
  rcases ofDouble_value_cases hfinite with ⟨j, hj, -, hok⟩ | ⟨hgreat, -⟩
  · have hsame : j.toInt = i.toInt := Int.cast_injective (hj.symm.trans hvalue)
    rw [hok, Int64.toInt_inj.mp hsame]
    rfl
  · exact absurd (hgreat _ hvalue) (Nat.not_le_of_lt hsmall)

/-- Any other finite double is kept. -/
theorem ofDouble_of_great (hfinite : x.isFinite = true)
    (hgreat : ∀ n : ℤ, x.value = n → 2 ^ 53 ≤ n.natAbs) : ofDouble x = .ok (.double x) := by
  rcases ofDouble_value_cases hfinite with ⟨i, hi, hsmall, -⟩ | ⟨-, hok⟩
  · exact absurd (hgreat _ hi) (Nat.not_le_of_lt hsmall)
  · exact hok

/-- A literal that was made of a double gives a double of the same value. -/
theorem value_of_ofDouble (hfinite : x.isFinite = true) :
    ∃ atom y, ofDouble x = .ok atom ∧ atom.double? = some y ∧ y.isFinite = true ∧
      y.value = x.value := by
  rcases ofDouble_value_cases hfinite with ⟨i, hi, hsmall, hok⟩ | ⟨-, hok⟩
  · obtain ⟨hexact, hvalue⟩ := Binary64.value_ofInt hsmall
    exact ⟨_, .ofInt i.toInt, hok, rfl, hexact, hvalue.trans hi.symm⟩
  · exact ⟨_, x, hok, rfl, hfinite, rfl⟩

/-- **Numbers have one exact form.** Every integer in the range of JSON is a literal that is
written in decimal and reads back, stored as a signed word if one holds it and as an unsigned
one otherwise. It is the same literal as that of a signed or unsigned word of its value, and
different integers are different literals with different texts. Whatever a literal is made of,
its number is in the only form that it has, and an integer has one word only. A double is
refused if and only if it is infinite or no number. One whose value is an integer below `2^53`
in magnitude is the literal of that integer, every other finite one is kept, and what either
gives as a double has the value that it was made of. -/
theorem numbers_exact :
    (∀ n inRange, ∃ atom, ofNumber? (.integer n inRange) = some atom ∧
      atom.text = toString n ∧ atom.text.toInt? = some n ∧
      ((n < 2 ^ 63 ∧ ∃ i, atom = .integer i) ∨ (2 ^ 63 ≤ n ∧ ∃ u, atom = .unsigned u)) ∧
      (∀ i : Int64, i.toInt = n → atom = ofSigned i) ∧
      ∀ u : UInt64, (u.toNat : ℤ) = n → atom = ofUnsigned u) ∧
    (∀ n m inRange inRange' atom atom', n ≠ m → ofNumber? (.integer n inRange) = some atom →
      ofNumber? (.integer m inRange') = some atom' → atom ≠ atom' ∧ atom.text ≠ atom'.text) ∧
    (∀ (i : Int64) (u : UInt64), ofSigned i = ofUnsigned u ↔ i.toInt = u.toNat) ∧
    ((∀ i, (ofSigned i).IsCanonical) ∧ (∀ u, (ofUnsigned u).IsCanonical) ∧
      (∀ number atom, ofNumber? number = some atom → atom.IsCanonical) ∧
      (∀ x atom, ofDouble x = .ok atom → atom.IsCanonical) ∧
      ∀ (a b : Atom) (n : Int), a.IsCanonical → b.IsCanonical → a.int? = some n →
        b.int? = some n → a = b) ∧
    ∀ x : Binary64,
      ((∃ error, ofDouble x = .error error) ↔ x.isInfinite = true ∨ x.isNaN = true) ∧
      (∀ i : Int64, x.isFinite = true → x.value = i.toInt → i.toInt.natAbs < 2 ^ 53 →
        ofDouble x = .ok (ofSigned i)) ∧
      (x.isFinite = true → (∀ n : ℤ, x.value = n → 2 ^ 53 ≤ n.natAbs) →
        ofDouble x = .ok (.double x)) ∧
      (x.isFinite = true → ∃ atom y, ofDouble x = .ok atom ∧ atom.double? = some y ∧
        y.isFinite = true ∧ y.value = x.value) := by
  refine ⟨?_, ?_, fun i u => ofSigned_eq_ofUnsigned_iff, ?_, ?_⟩
  · intro n inRange
    obtain ⟨atom, hatom, hint, hform⟩ := ofNumber?_integer n inRange
    have hcanonical := isCanonical_ofNumber? hatom
    refine ⟨atom, hatom, text_ofNumber?_integer hatom, toInt?_text hatom, hform, ?_, ?_⟩
    · rintro i rfl
      exact eq_of_int? hcanonical (isCanonical_ofSigned i) hint rfl
    · rintro u rfl
      exact eq_of_int? hcanonical (isCanonical_ofUnsigned u) hint (int?_ofUnsigned u)
  · intro n m inRange inRange' atom atom' hne hatom hatom'
    have htext : atom.text ≠ atom'.text := by
      intro hsame
      have hread := toInt?_text hatom
      rw [hsame, toInt?_text hatom'] at hread
      exact hne (Option.some.inj hread).symm
    exact ⟨fun hsame => htext (congrArg text hsame), htext⟩
  · exact ⟨isCanonical_ofSigned, isCanonical_ofUnsigned, fun _ _ => isCanonical_ofNumber?,
      fun _ _ => isCanonical_ofDouble, fun _ _ _ => eq_of_int?⟩
  · intro x
    exact ⟨ofDouble_error_iff, fun i => ofDouble_of_signed, ofDouble_of_great, value_of_ofDouble⟩

/-- Zero with a sign. -/
def negativeZero : Binary64 := ⟨0x8000000000000000⟩

/-- The double of `2^53`, to which `2^53 + 1` is rounded as well. -/
def firstDoubtful : Binary64 := ⟨0x4340000000000000⟩

/-- The least positive double. -/
def leastPositive : Binary64 := ⟨1⟩

/-- Numbers at the ends of the ranges: `2^53 + 1`, `2^63 - 1` and `2^63`, of which only the
last needs an unsigned word, a zero with a sign, and doubles that are too great, too small and
beyond all numbers to be integers. -/
theorem boundary_numbers_exact :
    (∃ atom, ofNumber? (.integer 9007199254740993 (by decide)) = some atom ∧
      atom.text = toString (9007199254740993 : Int) ∧ atom = ofSigned 9007199254740993) ∧
    (ofUnsigned 9223372036854775807 = .integer 9223372036854775807 ∧
      (ofUnsigned 9223372036854775807).IsCanonical) ∧
    (∃ atom, ofNumber? (.integer 9223372036854775808 (by decide)) = some atom ∧
      (∃ u, atom = .unsigned u) ∧ atom.IsCanonical ∧
      atom = ofUnsigned 9223372036854775808 ∧ atom ≠ ofSigned 9007199254740993) ∧
    ofDouble negativeZero = .ok (ofSigned 0) ∧
    ofDouble firstDoubtful = .ok (.double firstDoubtful) ∧
    ofDouble leastPositive = .ok (.double leastPositive) ∧
    (∃ error, ofDouble ⟨0x7FF0000000000000⟩ = .error error) ∧
    ∃ atom y, ofDouble leastPositive = .ok atom ∧ atom.double? = some y ∧
      y.isFinite = true ∧ y.value = leastPositive.value := by
  obtain ⟨hinteger, hdistinct, hsame, ⟨-, hunsignedForm, hnumberForm, -, -⟩, hdouble⟩ :=
    numbers_exact
  obtain ⟨small, hsmall, htext, -, -, hsigned, -⟩ := hinteger 9007199254740993 (by decide)
  obtain ⟨great, hgreat, -, -, hform, -, hunsigned⟩ := hinteger 9223372036854775808 (by decide)
  have hword : small = ofSigned 9007199254740993 := hsigned _ (by decide)
  have hapart := hdistinct _ _ _ _ _ _ (by decide) hgreat hsmall
  have hzero : negativeZero.value = (0 : Int64).toInt :=
    (Binary64.value_of_toInt? (by decide +kernel : negativeZero.toInt? = some 0)).2
  have hdoubtful : firstDoubtful.toInt? = some 9007199254740992 := by decide +kernel
  have hleast : leastPositive.toInt? = none := by decide +kernel
  refine ⟨⟨small, hsmall, htext, hword⟩,
    ⟨((hsame 9223372036854775807 _).mpr (by decide)).symm, hunsignedForm _⟩,
    ⟨great, hgreat, ?_, hnumberForm _ _ hgreat, hunsigned _ (by decide), ?_⟩, ?_, ?_, ?_, ?_, ?_⟩
  · exact (hform.resolve_left fun hless => absurd hless.1 (by decide)).2
  · rw [← hword]
    exact hapart.1
  · exact (hdouble negativeZero).2.1 0 (by decide) hzero (by decide)
  · refine (hdouble firstDoubtful).2.2.1 (by decide) ?_
    intro n hn
    have hsome := Binary64.toInt?_eq_some_iff.mpr ⟨by decide, hn⟩
    obtain rfl := Option.some.inj (hdoubtful.symm.trans hsome)
    decide
  · refine (hdouble leastPositive).2.2.1 (by decide) ?_
    intro n hn
    have hsome := Binary64.toInt?_eq_some_iff.mpr ⟨by decide, hn⟩
    exact absurd (hleast.symm.trans hsome) (by simp)
  · exact (hdouble _).1.mpr (Or.inl (by decide))
  · exact (hdouble leastPositive).2.2.2 (by decide)

end RowFilter.Atom
