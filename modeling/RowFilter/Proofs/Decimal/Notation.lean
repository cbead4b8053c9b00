import RowFilter.Proofs.Decimal.Plain
import RowFilter.Proofs.Decimal.Shortest

/-!
# The two notations of a double

JSON and the grammar lay out the same digits in different styles. JSON marks every double
as one, by a point or by an exponent, and the grammar writes no exponent and points only
where there are digits behind them:

> `double_compact_eq_plain_iff`: the two texts of a finite double are the same if and only
> if it is not whole, does not lie halfway between two shortest decimals, and has its first
> digit not below the fifth decimal place.
-/

namespace RowFilter.Decimal

variable {x : Binary64} {digits : List Char} {exponent : Int}

/-! ## Digits around a point -/

/-- With the point taken out, what is left are the digits behind zeros. -/
theorem filter_positional (h : isDigits digits = true) (hexponent : exponent < 0) :
    ∃ zeros, (positional [] digits exponent).filter Char.isDigit
      = List.replicate zeros '0' ++ digits := by
  have hdigits := (isDigits_iff.mp h).2
  have hkeep : ∀ part : List Char, (∀ c ∈ part, c ∈ digits) → part.filter Char.isDigit = part :=
    fun part hpart => List.filter_eq_self.mpr fun c hc => hdigits c (hpart c hc)
  unfold positional
  rw [if_neg (by omega)]
  dsimp only
  split
  next =>
    refine ⟨0, ?_⟩
    rw [List.filter_append, List.filter_cons_of_neg (by decide),
      hkeep _ fun c hc => List.mem_of_mem_take hc, hkeep _ fun c hc => List.mem_of_mem_drop hc]
    exact List.take_append_drop ..
  next =>
    refine ⟨(-exponent).toNat - digits.length + 1, ?_⟩
    rw [List.cons_append, List.filter_cons_of_pos (by decide), List.cons_append,
      List.filter_cons_of_neg (by decide), List.filter_append, hkeep _ fun c hc => hc,
      List.filter_eq_self.mpr fun c hc => by rw [List.eq_of_mem_replicate hc]; decide]
    rfl

/-- Behind a point at a given place, different numbers have different digits. -/
theorem positional_natural_inj {n m : Nat} (hexponent : exponent < 0)
    (h : positional [] (natural n) exponent = positional [] (natural m) exponent) : n = m := by
  have hvalue : ∀ n : Nat,
      Nat.ofDigitChars 10 ((positional [] (natural n) exponent).filter Char.isDigit) 0 = n := by
    intro n
    obtain ⟨zeros, hzeros⟩ := filter_positional (isDigits_natural n) hexponent
    rw [hzeros, Nat.ofDigitChars_append, Nat.ofDigitChars_replicate_zero, Nat.mul_zero]
    exact Nat.ofDigitChars_ten_toDigits
  rw [← hvalue n, h, hvalue m]

/-- What stands behind a whole number does not matter where there are decimal places. -/
theorem positional_of_neg (suffix : List Char) (hexponent : exponent < 0) :
    positional suffix digits exponent = positional [] digits exponent := by
  have hneg : ¬0 ≤ exponent := Int.not_le.mpr hexponent
  rw [positional, positional, if_neg hneg, if_neg hneg]

theorem mem_positional_of_neg (suffix : List Char) (hexponent : exponent < 0) :
    '.' ∈ positional suffix digits exponent := by
  unfold positional
  rw [if_neg (by omega)]
  dsimp only
  split
  next => simp
  next => simp

theorem isDigit_of_mem_positional (h : isDigits digits = true) (hexponent : 0 ≤ exponent) :
    ∀ c ∈ positional [] digits exponent, c.isDigit = true := by
  intro c hc
  rw [positional, if_pos hexponent, List.append_nil] at hc
  rcases List.mem_append.mp hc with hc | hc
  · exact (isDigits_iff.mp h).2 c hc
  · rw [List.eq_of_mem_replicate hc]
    decide

theorem mem_exponential (digits : List Char) (first : Int) : 'e' ∈ exponential digits first := by
  simp [exponential]

/-! ## Magnitudes -/

theorem lay_eq (style : Style) (decimal : Scientific) :
    lay style decimal =
      if style.positional decimal.first then
        positional style.wholeSuffix (natural decimal.digits) decimal.exponent
      else exponential (natural decimal.digits) decimal.first := rfl

/-- In JSON every double is marked as one, by a character that no integer has. -/
theorem exists_mark_magnitude_compact (x : Binary64) :
    ∃ mark ∈ magnitude compact x, mark.isDigit = false ∧ mark ≠ '-' := by
  unfold magnitude
  split
  next => exact ⟨'.', by decide, by decide, by decide⟩
  next =>
    rw [lay_eq]
    split
    next =>
      refine ⟨'.', ?_, by decide, by decide⟩
      rcases lt_or_ge (shortest compact.tie x).exponent 0 with hneg | hnonneg
      · exact mem_positional_of_neg _ hneg
      · rw [positional, if_pos hnonneg]
        exact List.mem_append_right _ (by decide)
    next => exact ⟨'e', mem_exponential .., by decide, by decide⟩

theorem magnitude_plain_of_ne_zero (h : x.isZero = false) :
    magnitude plain x
      = positional [] (natural (shortest .up x).digits) (shortest .up x).exponent := by
  rw [magnitude, if_neg (by simp [h]), lay_eq]
  rfl

/-- In the grammar a whole number has digits only. -/
theorem isDigit_of_mem_magnitude_plain {n : Int} (h : x.toInt? = some n) :
    ∀ c ∈ magnitude plain x, c.isDigit = true := by
  cases hzero : x.isZero with
  | true =>
    rw [magnitude, if_pos hzero]
    intro c hc
    obtain rfl := List.mem_singleton.mp hc
    decide
  | false =>
    rw [magnitude_plain_of_ne_zero hzero]
    exact isDigit_of_mem_positional (isDigits_natural _) (exponent_nonneg_of_toInt? _ h hzero)

/-- Where JSON writes no exponent, the two texts of a number with decimal places are the
same if its digits are. -/
theorem magnitude_compact_eq_plain_iff (hfinite : x.isFinite = true) (h : x.toInt? = none) :
    magnitude compact x = magnitude plain x ↔
      shortest .toEven x = shortest .up x ∧ -5 ≤ (shortest .up x).first := by
  have hzero := Binary64.isZero_eq_false hfinite h
  have hneg : (shortest .toEven x).exponent < 0 := exponent_neg_of_toInt? _ hfinite h
  have hgrid := exponent_shortest .toEven .up x
  have hfirst : (shortest .toEven x).first < 16 := first_lt_of_toInt? _ hfinite h
  have hcompact : magnitude compact x = lay compact (shortest .toEven x) := by
    rw [magnitude, if_neg (by simp [hzero])]
    rfl
  -- a number with decimal places is too small for the other bound of the positional style
  by_cases hplace : -5 ≤ (shortest .toEven x).first
  · have hpositional : compact.positional (shortest .toEven x).first = true := by
      simp [compact, hplace, hfirst]
    rw [hcompact, lay_eq, if_pos hpositional, positional_of_neg _ hneg,
      magnitude_plain_of_ne_zero hzero, ← hgrid]
    constructor
    · intro hsame
      have hdigits := positional_natural_inj hneg hsame
      have hshortest : shortest .toEven x = shortest .up x := calc
        shortest .toEven x
          = ⟨(shortest .toEven x).digits, (shortest .toEven x).exponent⟩ := rfl
        _ = ⟨(shortest .up x).digits, (shortest .up x).exponent⟩ := by rw [hdigits, hgrid]
      exact ⟨hshortest, hshortest ▸ hplace⟩
    · rintro ⟨hshortest, -⟩
      rw [hshortest]
  · have hmark : 'e' ∈ magnitude compact x := by
      rw [hcompact, lay_eq, if_neg (by simp [compact, hplace])]
      exact mem_exponential ..
    constructor
    · intro hsame
      rw [hsame] at hmark
      rcases (mem_of_isUnsignedDecimal (isUnsignedDecimal_magnitude x)).2 _ hmark with hc | hc
      · exact absurd hc (by decide)
      · exact absurd hc (by decide)
    · rintro ⟨hshortest, hle⟩
      exact absurd (hshortest ▸ hle) hplace

/-! ## Doubles and integers -/

/-- The sign is the same in every style. -/
theorem double_of_finite (style : Style) (hfinite : x.isFinite = true) :
    double style x = (if x.isNegative then ['-'] else []) ++ magnitude style x := by
  rw [double, if_neg (by simp [Binary64.isNaN_eq_false hfinite]), if_pos hfinite]
  dsimp only
  split <;> rfl

/-- **The two texts of a double.** The text of a finite double in JSON is its text in the
grammar if and only if the double is not whole, its shortest decimal does not depend on where
a tie goes, and the first digit of it is not below the fifth decimal place. -/
theorem double_compact_eq_plain_iff (hfinite : x.isFinite = true) :
    double compact x = double plain x ↔
      x.toInt? = none ∧ shortest .toEven x = shortest .up x ∧ -5 ≤ (shortest .up x).first := by
  rw [double_of_finite compact hfinite, double_of_finite plain hfinite, List.append_cancel_left_eq]
  cases h : x.toInt? with
  | none =>
    rw [magnitude_compact_eq_plain_iff hfinite h]
    simp
  | some n =>
    refine iff_of_false (fun hsame => ?_) (by simp)
    obtain ⟨mark, hmark, hdigit, -⟩ := exists_mark_magnitude_compact x
    rw [hsame] at hmark
    exact absurd (isDigit_of_mem_magnitude_plain h mark hmark) (by simp [hdigit])

/-- No integer is written as JSON writes a double. -/
theorem double_compact_ne_integer (hfinite : x.isFinite = true) (n : Int) :
    double compact x ≠ integer n := by
  intro hsame
  obtain ⟨mark, hmark, hdigit, hsign⟩ := exists_mark_magnitude_compact x
  have hmem : mark ∈ integer n := by
    rw [← hsame, double_of_finite compact hfinite]
    exact List.mem_append_right _ hmark
  rcases isDigit_or_of_mem_integer n mark hmem with hc | hc
  · exact absurd hc (by simp [hdigit])
  · exact hsign hc

end RowFilter.Decimal
