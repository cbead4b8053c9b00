import RowFilter.Json.Printer
import RowFilter.Proofs.Decimal.Plain

/-!
# How the text of a JSON value begins

The first character of a JSON text tells the kind of the value: a bracket, a quote, a
sign or a digit, or the small letter of a keyword. Whatever the value is,

> `isUpper_of_mem_head?_compact`: its text does not begin with a capital letter.

So a value that is written where a word in capital letters is looked for is never taken
for that word.
-/

namespace RowFilter

namespace Decimal

variable {digits : List Char}

theorem exists_cons_of_isDigits (h : isDigits digits = true) :
    ∃ d more, digits = d :: more ∧ d.isDigit = true := by
  obtain ⟨hne, hdigits⟩ := isDigits_iff.mp h
  obtain ⟨d, more, rfl⟩ := List.exists_cons_of_ne_nil hne
  exact ⟨d, more, rfl, hdigits d (List.mem_cons_self ..)⟩

/-- Wherever their point is put, digits begin with a digit. -/
theorem isDigit_of_mem_head?_positional (h : isDigits digits = true) (suffix : List Char)
    (exponent : Int) : ∀ c ∈ (positional suffix digits exponent).head?, c.isDigit = true := by
  obtain ⟨d, more, rfl, hd⟩ := exists_cons_of_isDigits h
  intro c hc
  unfold positional at hc
  split at hc
  next =>
    obtain rfl := Option.some.inj hc
    exact hd
  next hneg =>
    dsimp only at hc
    split at hc
    next hplaces =>
      -- at least one digit stands in front of the point, so the first one does
      obtain ⟨k, hk⟩ : ∃ k, (d :: more).length - (-exponent).toNat = k + 1 :=
        ⟨(d :: more).length - (-exponent).toNat - 1, by omega⟩
      rw [hk] at hc
      obtain rfl := Option.some.inj hc
      exact hd
    next =>
      obtain rfl := Option.some.inj hc
      decide

theorem isDigit_of_mem_head?_exponential (h : isDigits digits = true) (first : Int) :
    ∀ c ∈ (exponential digits first).head?, c.isDigit = true := by
  obtain ⟨d, more, rfl, hd⟩ := exists_cons_of_isDigits h
  intro c hc
  cases more with
  | nil =>
    obtain rfl := Option.some.inj hc
    exact hd
  | cons e more =>
    obtain rfl := Option.some.inj hc
    exact hd

/-- In every style a magnitude begins with a digit. -/
theorem isDigit_of_mem_head?_magnitude (style : Style) (x : Binary64) :
    ∀ c ∈ (magnitude style x).head?, c.isDigit = true := by
  unfold magnitude
  split
  next =>
    intro c hc
    obtain rfl := Option.some.inj hc
    decide
  next =>
    unfold lay
    dsimp only
    split
    next => exact isDigit_of_mem_head?_positional (isDigits_natural _) _ _
    next => exact isDigit_of_mem_head?_exponential (isDigits_natural _) _

/-- A finite double begins with a digit or with its sign. -/
theorem isDigit_of_mem_head?_double (style : Style) {x : Binary64} (h : x.isFinite = true) :
    ∀ c ∈ (double style x).head?, c.isDigit = true ∨ c = '-' := by
  intro c hc
  unfold double at hc
  rw [if_neg (by simp [Binary64.isNaN_eq_false h]), if_pos h] at hc
  dsimp only at hc
  split at hc
  next => exact Or.inr (Option.some.inj hc).symm
  next => exact Or.inl (isDigit_of_mem_head?_magnitude style x c hc)

end Decimal

namespace Json

/-- A number begins with a digit or with its sign. -/
theorem Number.isDigit_of_mem_head?_text (number : Number) :
    ∀ c ∈ number.text.head?, c.isDigit = true ∨ c = '-' := by
  intro c hc
  cases number with
  | integer n _ => exact Decimal.isDigit_or_of_mem_integer n c (List.mem_of_mem_head? hc)
  | double x hx => exact Decimal.isDigit_of_mem_head?_double Decimal.compact hx c hc

/-- All digits stand in front of all capital letters. -/
theorem isUpper_of_isDigit {c : Char} (h : c.isDigit = true) : c.isUpper = false := by
  have hdigit : c.toNat ≤ '9'.toNat := (Char.isDigit_iff_toNat.mp h).2
  refine decide_eq_false fun hupper => ?_
  have hletter : 'A'.toNat ≤ c.toNat := hupper.1
  have hle : 'A'.toNat ≤ '9'.toNat := Nat.le_trans hletter hdigit
  exact absurd hle (by decide)

/-- **No JSON text begins with a capital letter.** -/
theorem isUpper_of_mem_head?_compact (value : Json) :
    ∀ c ∈ value.compact.head?, c.isUpper = false := by
  intro c hc
  cases value with
  | null =>
    obtain rfl := Option.some.inj hc
    decide
  | bool value =>
    cases value with
    | false =>
      obtain rfl := Option.some.inj hc
      decide
    | true =>
      obtain rfl := Option.some.inj hc
      decide
  | number number =>
    rcases Number.isDigit_of_mem_head?_text number c hc with hdigit | rfl
    · exact isUpper_of_isDigit hdigit
    · decide
  | string text =>
    obtain rfl := Option.some.inj hc
    decide
  | array items =>
    obtain rfl := Option.some.inj hc
    decide
  | object members =>
    obtain rfl := Option.some.inj hc
    decide

/-- A JSON text is no word that begins with a capital letter. -/
theorem text_ne_of_isUpper (value : Json) {word : String} {c : Char}
    (h : c ∈ word.toList.head?) (hc : c.isUpper = true) : value.text ≠ word := by
  intro he
  have hcompact : value.compact = word.toList := by
    rw [← he, text, String.toList_ofList]
  rw [← hcompact] at h
  exact absurd hc (by simp [isUpper_of_mem_head?_compact value c h])

end Json

end RowFilter
