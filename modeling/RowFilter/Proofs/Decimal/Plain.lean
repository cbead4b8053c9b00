import RowFilter.Decimal.Reading

/-!
# The form of a number in plain style

A number in plain style is an optional minus sign, digits, and optionally a point with
more digits behind it. `isDecimal` decides that form and knows nothing of how numbers
are written:

> `isDecimal_integer`, `isDecimal_double`: every integer and every finite double has it;
> `naturalIn?_natural`: a natural number reads back.
-/

namespace RowFilter.Text

/-- A run of characters of one kind ends where the first of another kind stands. -/
theorem run_append {kind : Char → Bool} {run rest : List Char} (h : ∀ c ∈ run, kind c = true)
    (hr : ∀ c ∈ rest.head?, kind c = false) :
    (run ++ rest).takeWhile kind = run ∧ (run ++ rest).dropWhile kind = rest := by
  rw [List.takeWhile_append_of_pos h, List.dropWhile_append_of_pos h]
  cases rest with
  | nil => exact ⟨List.append_nil _, rfl⟩
  | cons c rest =>
    have hc : kind c = false := hr c rfl
    rw [List.takeWhile_cons_of_neg (by simp [hc]), List.dropWhile_cons_of_neg (by simp [hc])]
    exact ⟨List.append_nil _, rfl⟩

end RowFilter.Text

/-- A finite double is a number. -/
theorem RowFilter.Binary64.isNaN_eq_false {x : Binary64} (h : x.isFinite = true) :
    x.isNaN = false := by
  unfold isFinite at h
  unfold isNaN
  have hlt : x.exponentField < 2047 := by simpa using h
  have hne : (x.exponentField == 2047) = false := by simpa using Nat.ne_of_lt hlt
  rw [hne]
  rfl

namespace RowFilter.Decimal

/-- True of a text of digits only, of which there is at least one. -/
def isDigits (text : List Char) : Bool := !text.isEmpty && text.all Char.isDigit

/-- True of digits with or without a point and digits behind it. -/
def isUnsignedDecimal (text : List Char) : Bool :=
  isDigits (text.takeWhile Char.isDigit) &&
    match text.dropWhile Char.isDigit with
    | [] => true
    | c :: fraction => c == '.' && isDigits fraction

/-- True of the text of a decimal number. -/
def isDecimal : List Char → Bool
  | [] => false
  | c :: text => if c = '-' then isUnsignedDecimal text else isUnsignedDecimal (c :: text)

theorem isDigits_iff {text : List Char} :
    isDigits text = true ↔ text ≠ [] ∧ ∀ c ∈ text, c.isDigit = true := by
  simp [isDigits]

theorem isUnsignedDecimal_digits {digits : List Char} (h : isDigits digits = true) :
    isUnsignedDecimal digits = true := by
  have hend : ∀ c ∈ ([] : List Char).head?, c.isDigit = false := by simp
  obtain ⟨ht, hd⟩ := Text.run_append (isDigits_iff.mp h).2 hend
  rw [List.append_nil] at ht hd
  rw [isUnsignedDecimal, ht, hd, h]
  rfl

theorem isUnsignedDecimal_point {whole fraction : List Char} (hw : isDigits whole = true)
    (hf : isDigits fraction = true) : isUnsignedDecimal (whole ++ '.' :: fraction) = true := by
  have hpoint : ∀ c ∈ ('.' :: fraction).head?, c.isDigit = false := by
    intro c hc
    obtain rfl := Option.some.inj hc
    decide
  obtain ⟨ht, hd⟩ := Text.run_append (isDigits_iff.mp hw).2 hpoint
  rw [isUnsignedDecimal, ht, hd, hw]
  show ('.' == '.' && isDigits fraction) = true
  rw [hf]
  rfl

/-- A sign in front of a decimal leaves a decimal; without one, a decimal starts with
a digit. -/
theorem isDecimal_of_unsigned {text : List Char} (h : isUnsignedDecimal text = true) :
    isDecimal text = true ∧ isDecimal ('-' :: text) = true := by
  refine ⟨?_, by rw [isDecimal, if_pos rfl]; exact h⟩
  cases text with
  | nil => exact absurd h (by decide)
  | cons c rest =>
    have hc : c ≠ '-' := by
      rintro rfl
      exact absurd h (by simp [isUnsignedDecimal, isDigits])
    rw [isDecimal, if_neg hc]
    exact h

/-- The characters of an unsigned decimal. -/
theorem mem_of_isUnsignedDecimal {text : List Char} (h : isUnsignedDecimal text = true) :
    text ≠ [] ∧ ∀ c ∈ text, c.isDigit = true ∨ c = '.' := by
  unfold isUnsignedDecimal at h
  obtain ⟨hw, hf⟩ := Bool.and_eq_true_iff.mp h
  obtain ⟨hne, hdigits⟩ := isDigits_iff.mp hw
  have hsplit : text.takeWhile Char.isDigit ++ text.dropWhile Char.isDigit = text :=
    List.takeWhile_append_dropWhile
  refine ⟨fun hnil => hne (by rw [hnil]; rfl), fun c hc => ?_⟩
  rw [← hsplit] at hc
  rcases List.mem_append.mp hc with hc | hc
  · exact Or.inl (hdigits c hc)
  · split at hf
    next hnil => rw [hnil] at hc; exact absurd hc (by simp)
    next d fraction hcons =>
      obtain ⟨hd, hfraction⟩ := Bool.and_eq_true_iff.mp hf
      rw [hcons] at hc
      rcases List.mem_cons.mp hc with rfl | hc
      · exact Or.inr (by simpa using hd)
      · exact Or.inl ((isDigits_iff.mp hfraction).2 c hc)

/-- The characters of a decimal. -/
theorem mem_of_isDecimal {text : List Char} (h : isDecimal text = true) :
    text ≠ [] ∧ ∀ c ∈ text, c.isDigit = true ∨ c = '.' ∨ c = '-' := by
  cases text with
  | nil => exact absurd h (by decide)
  | cons d text =>
    refine ⟨by simp, fun c hc => ?_⟩
    rw [isDecimal] at h
    split at h
    next hd =>
      rcases List.mem_cons.mp hc with rfl | hc
      · exact Or.inr (Or.inr hd)
      · exact ((mem_of_isUnsignedDecimal h).2 c hc).imp_right Or.inl
    next => exact ((mem_of_isUnsignedDecimal h).2 c hc).imp_right Or.inl

/-! ## What is written has the form -/

theorem isDigits_natural (n : Nat) : isDigits (natural n) = true :=
  isDigits_iff.mpr
    ⟨Nat.toDigits_ne_nil, fun _ hc => Nat.isDigit_of_mem_toDigits (by decide) (by decide) hc⟩

/-- A digit has the value that its place after the zero gives it. -/
theorem digitIn?_of_isDigit {c : Char} (h : c.isDigit = true) :
    digitIn? 10 c = some (c.toNat - '0'.toNat) := by
  obtain ⟨hlow, hhigh⟩ : 48 ≤ c.toNat ∧ c.toNat ≤ 57 := Char.isDigit_iff_toNat.mp h
  have hvalue : Text.Quoted.hexValue? c = some (c.toNat - 48) := by
    simp [Text.Quoted.hexValue?, hlow, hhigh]
  rw [digitIn?, hvalue]
  exact Option.filter_some_pos (decide_eq_true (by omega))

/-- Reading digit by digit is what digits mean. -/
theorem foldlM_digitIn? : ∀ (digits : List Char) (n : Nat), (∀ c ∈ digits, c.isDigit = true) →
    digits.foldlM (fun n c => (digitIn? 10 c).map (n * 10 + ·)) n
      = some (Nat.ofDigitChars 10 digits n)
  | [], _, _ => rfl
  | c :: digits, n, h => by
    rw [List.forall_mem_cons] at h
    rw [List.foldlM_cons, digitIn?_of_isDigit h.1, Nat.ofDigitChars_cons, Nat.mul_comm 10]
    exact foldlM_digitIn? digits _ h.2

/-- A natural number reads back. -/
theorem naturalIn?_natural (n : Nat) : naturalIn? 10 (natural n) = some n := by
  obtain ⟨hne, hdigits⟩ := isDigits_iff.mp (isDigits_natural n)
  rw [naturalIn?]
  · rw [foldlM_digitIn? _ _ hdigits, natural, Nat.ofDigitChars_ten_toDigits]
  · exact hne

/-- The characters of an integer are digits and its sign. -/
theorem isDigit_or_of_mem_integer (n : Int) : ∀ c ∈ integer n, c.isDigit = true ∨ c = '-' := by
  intro c hc
  cases n with
  | ofNat m => exact Or.inl ((isDigits_iff.mp (isDigits_natural m)).2 c hc)
  | negSucc m =>
    rcases List.mem_cons.mp hc with rfl | hc
    · exact Or.inr rfl
    · exact Or.inl ((isDigits_iff.mp (isDigits_natural (m + 1))).2 c hc)

theorem isDecimal_integer (n : Int) : isDecimal (integer n) = true := by
  have h := fun m => isDecimal_of_unsigned (isUnsignedDecimal_digits (isDigits_natural m))
  cases n with
  | ofNat m => exact (h m).1
  | negSucc m => exact (h (m + 1)).2

/-- Digits with a point at any place, or zeros on either side, are a decimal. -/
theorem isUnsignedDecimal_positional {digits : List Char} (h : isDigits digits = true)
    (exponent : Int) : isUnsignedDecimal (positional [] digits exponent) = true := by
  obtain ⟨hne, hd⟩ := isDigits_iff.mp h
  have hzeros : ∀ k, ∀ c ∈ List.replicate k '0', c.isDigit = true := by
    intro k c hc
    rw [List.eq_of_mem_replicate hc]
    decide
  unfold positional
  split
  next =>
    rw [List.append_nil]
    refine isUnsignedDecimal_digits (isDigits_iff.mpr ⟨by simp [hne], ?_⟩)
    intro c hc
    rcases List.mem_append.mp hc with hc | hc
    · exact hd c hc
    · exact hzeros _ c hc
  next hneg =>
    have hpos : 0 < (-exponent).toNat := by omega
    show isUnsignedDecimal (if (-exponent).toNat < digits.length then _ else _) = true
    split
    next hplaces =>
      -- the point falls among the digits, with at least one on either side
      refine isUnsignedDecimal_point (isDigits_iff.mpr ⟨?_, ?_⟩) (isDigits_iff.mpr ⟨?_, ?_⟩)
      · intro hnil
        have := congrArg List.length hnil
        simp only [List.length_take, List.length_nil] at this
        omega
      · exact fun c hc => hd c (List.mem_of_mem_take hc)
      · intro hnil
        have := congrArg List.length hnil
        simp only [List.length_drop, List.length_nil] at this
        omega
      · exact fun c hc => hd c (List.mem_of_mem_drop hc)
    next =>
      -- the point falls in front of all digits, behind a zero
      have hzero : isDigits ['0'] = true := by decide
      refine isUnsignedDecimal_point hzero (isDigits_iff.mpr ⟨by simp [hne], ?_⟩)
      intro c hc
      rcases List.mem_append.mp hc with hc | hc
      · exact hzeros _ c hc
      · exact hd c hc

theorem isUnsignedDecimal_magnitude (x : Binary64) :
    isUnsignedDecimal (magnitude plain x) = true := by
  unfold magnitude
  split
  next => decide
  next => exact isUnsignedDecimal_positional (isDigits_natural _) _

/-- A finite double has a decimal without an exponent. -/
theorem isDecimal_double {x : Binary64} (h : x.isFinite = true) :
    isDecimal (double plain x) = true := by
  obtain ⟨hplain, hsigned⟩ := isDecimal_of_unsigned (isUnsignedDecimal_magnitude x)
  unfold double
  rw [if_neg (by simp [Binary64.isNaN_eq_false h]), if_pos h]
  show isDecimal (if x.isNegative then _ else _) = true
  split
  next => exact hsigned
  next => exact hplain

end RowFilter.Decimal
