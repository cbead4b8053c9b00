import RowFilter.Text.Quoted

/-!
# A literal reads back

What stands between the quotes of a literal spells a text (`Spells`): a character spells
itself, or it is spelled by a letter or by its code in hexadecimal digits behind a backslash.
The reader takes a spelling for what it spells, and each character is written in one of
these ways:

> `scan_of_spells`: where a spelling and a closing quote stand, the reader gives the text that
> is spelled and stops behind the quote;
> `scan_body`: so `scan (body text ++ '"' :: rest)` is `text` and `rest`;
> `escape_cases`: how a character is written, for those who only look at the text.

Whoever looks for the end of a literal finds it as well: inside a spelling every double quote
stands behind an odd number of backslashes (`QuotesEscaped`).
-/

namespace RowFilter.Text.Quoted

/-! ## What a literal spells -/

/-- The letters that stand for a character behind a backslash. -/
def letters : List (Char × Char) :=
  [('"', '"'), ('\\', '\\'), ('/', '/'), ('b', '\x08'), ('f', '\x0c'), ('n', '\n'),
    ('r', '\r'), ('t', '\t')]

/-- Four hexadecimal digits and the number that they make. -/
inductive HexUnit : List Char → Nat → Prop
  | digits {a b c d : Char} {w x y z : Nat} (ha : hexValue? a = some w) (hb : hexValue? b = some x)
    (hc : hexValue? c = some y) (hd : hexValue? d = some z) :
    HexUnit [a, b, c, d] (((w * 16 + x) * 16 + y) * 16 + z)

/-- What may stand behind a backslash for a character: a letter, the character's code, or for
a character beyond U+FFFF two surrogates, which no character has for its code. -/
inductive Escapes : List Char → Char → Prop
  | letter {l c : Char} (h : (l, c) ∈ letters) : Escapes [l] c
  | code {c : Char} {digits : List Char} (h : HexUnit digits c.toNat) : Escapes ('u' :: digits) c
  | pair {c : Char} {high low : Nat} {digits more : List Char} (hhigh : HexUnit digits high)
    (hlow : HexUnit more low) (hfirst : 0xD800 ≤ high ∧ high ≤ 0xDBFF)
    (hsecond : 0xDC00 ≤ low ∧ low ≤ 0xDFFF)
    (hcode : c.toNat = (high - 0xD800) * 0x400 + (low - 0xDC00) + 0x10000) :
    Escapes ('u' :: (digits ++ '\\' :: 'u' :: more)) c

/-- `Spells spelling text`: the characters between the quotes of a literal spell a text. -/
inductive Spells : List Char → List Char → Prop
  | nil : Spells [] []
  | plain {c : Char} {spelling text : List Char} (hquote : c ≠ '"') (hbackslash : c ≠ '\\')
    (hcontrol : 0x20 ≤ c.toNat) (h : Spells spelling text) : Spells (c :: spelling) (c :: text)
  | escaped {c : Char} {piece spelling text : List Char} (hpiece : Escapes piece c)
    (h : Spells spelling text) : Spells ('\\' :: (piece ++ spelling)) (c :: text)

/-! ## The reader reads what is spelled -/

theorem hex4_of_hexUnit {digits : List Char} {n : Nat} (h : HexUnit digits n)
    (rest : List Char) : hex4 (digits ++ rest) = .ok (n, rest) := by
  obtain ⟨ha, hb, hc, hd⟩ := h
  simp only [hex4, List.cons_append, List.nil_append, ha, hb, hc, hd]

/-- The code of a character is no surrogate. -/
theorem toNat_not_surrogate (c : Char) : c.toNat < 0xD800 ∨ 0xDFFF < c.toNat := by
  have hvalid : c.toNat.isValidChar := c.valid
  unfold Nat.isValidChar at hvalid
  omega

theorem unicodeEscape_of_code {c : Char} {digits : List Char} (h : HexUnit digits c.toNat)
    (rest : List Char) : unicodeEscape (digits ++ rest) = .ok (c, rest) := by
  have hvalid := toNat_not_surrogate c
  rw [unicodeEscape, hex4_of_hexUnit h]
  show (if _ then _ else _) = _
  rw [if_neg (by omega), if_pos (by omega), Char.ofNat_toNat]

theorem unicodeEscape_of_pair {c : Char} {high low : Nat} {digits more : List Char}
    (hhigh : HexUnit digits high) (hlow : HexUnit more low) (hfirst : 0xD800 ≤ high ∧ high ≤ 0xDBFF)
    (hsecond : 0xDC00 ≤ low ∧ low ≤ 0xDFFF)
    (hcode : c.toNat = (high - 0xD800) * 0x400 + (low - 0xDC00) + 0x10000) (rest : List Char) :
    unicodeEscape (digits ++ '\\' :: 'u' :: (more ++ rest)) = .ok (c, rest) := by
  rw [unicodeEscape, hex4_of_hexUnit hhigh]
  show (if _ then _ else _) = _
  rw [if_neg (by omega), if_neg (by omega)]
  simp only [hex4_of_hexUnit hlow]
  show (if _ then _ else _) = _
  rw [if_pos hsecond, ← hcode, Char.ofNat_toNat]

/-- The reader takes behind a backslash what may stand there for a character. -/
theorem unescape_of_escapes {piece : List Char} {c : Char} (h : Escapes piece c)
    (rest : List Char) : unescape (piece ++ rest) = .ok (c, rest) := by
  cases h with
  | letter hletter =>
    simp only [letters, List.mem_cons, Prod.mk.injEq, List.not_mem_nil, or_false] at hletter
    rcases hletter with ⟨rfl, rfl⟩ | ⟨rfl, rfl⟩ | ⟨rfl, rfl⟩ | ⟨rfl, rfl⟩ | ⟨rfl, rfl⟩ |
      ⟨rfl, rfl⟩ | ⟨rfl, rfl⟩ | ⟨rfl, rfl⟩
    all_goals rfl
  | code hcode => exact unicodeEscape_of_code hcode rest
  | pair hhigh hlow hfirst hsecond hcode =>
    rw [List.cons_append, List.append_assoc]
    exact unicodeEscape_of_pair hhigh hlow hfirst hsecond hcode rest

/-- A backslash and a known escape give one character. -/
theorem scan_backslash {text rest tail after : List Char} {c : Char}
    (hu : unescape text = .ok (c, rest)) (hs : scan rest = .ok (tail, after)) :
    scan ('\\' :: text) = .ok (c :: tail, after) := by
  rw [scan, if_neg (by decide), if_pos rfl]
  split
  next fault hf => rw [hu] at hf; exact absurd hf (by simp)
  next d rest' hd =>
    rw [hu] at hd
    obtain ⟨rfl, rfl⟩ := Prod.mk.inj (Except.ok.inj hd)
    rw [hs]

/-- A spelling and a closing quote are read as what is spelled. -/
theorem scan_of_spells {spelling text : List Char} (h : Spells spelling text) (rest : List Char) :
    scan (spelling ++ '"' :: rest) = .ok (text, rest) := by
  induction h with
  | nil =>
    show scan ('"' :: rest) = _
    rw [scan, if_pos rfl]
  | plain hquote hbackslash hcontrol _ ih =>
    rw [List.cons_append, scan, if_neg hquote, if_neg hbackslash, if_neg (Nat.not_lt.mpr hcontrol),
      ih]
  | @escaped c piece spelling text hpiece _ ih =>
    rw [List.cons_append, List.append_assoc]
    exact scan_backslash (unescape_of_escapes hpiece _) ih

/-! ## The written form -/

/-- A hexadecimal digit has the value that it was written for. -/
theorem hexValue?_hexDigit {n : Nat} (h : n < 16) : hexValue? (hexDigit n) = some n := by
  have all : ∀ n : Fin 16, hexValue? (hexDigit n.val) = some n.val := by decide
  exact all ⟨n, h⟩

/-- The code of a control character is two zeros and the two halves of it. -/
theorem hexUnit_control {c : Char} (h : c.toNat < 0x20) :
    HexUnit ['0', '0', hexDigit (c.toNat / 16), hexDigit (c.toNat % 16)] c.toNat := by
  have hzero : hexValue? '0' = some 0 := by decide
  have hhigh := hexValue?_hexDigit (n := c.toNat / 16) (by omega)
  have hlow := hexValue?_hexDigit (n := c.toNat % 16) (by omega)
  have hvalue : ((0 * 16 + 0) * 16 + c.toNat / 16) * 16 + c.toNat % 16 = c.toNat := by omega
  have hdigits := HexUnit.digits hzero hzero hhigh hlow
  rwa [hvalue] at hdigits

/-- The written form of a character spells the character. -/
theorem spells_escape (c : Char) {spelling text : List Char} (hs : Spells spelling text) :
    Spells (escape c ++ spelling) (c :: text) := by
  have named : ∀ n, c.toNat = n → c = Char.ofNat n := fun n h => by rw [← h, Char.ofNat_toNat]
  unfold escape
  split
  next hq => subst hq; exact .escaped (.letter (by decide)) hs
  next hq =>
    split
    next hb => subst hb; exact .escaped (.letter (by decide)) hs
    next hb =>
      split
      next hc =>
        -- the five controls with a letter of their own come before the general form
        split
        next h8 => obtain rfl := named _ h8; exact .escaped (.letter (by decide)) hs
        next =>
          split
          next h9 => obtain rfl := named _ h9; exact .escaped (.letter (by decide)) hs
          next =>
            split
            next hA => obtain rfl := named _ hA; exact .escaped (.letter (by decide)) hs
            next =>
              split
              next hC => obtain rfl := named _ hC; exact .escaped (.letter (by decide)) hs
              next =>
                split
                next hD => obtain rfl := named _ hD; exact .escaped (.letter (by decide)) hs
                next => exact .escaped (.code (hexUnit_control hc)) hs
      next hc => exact .plain hq hb (Nat.le_of_not_lt hc) hs

/-- What is written between the quotes of a text's literal spells the text. -/
theorem spells_body : ∀ text : List Char, Spells (body text) text
  | [] => .nil
  | c :: text => by
    rw [body, List.flatMap_cons]
    exact spells_escape c (spells_body text)

/-- Reading a written literal gives its text, and stops behind its closing quote. -/
theorem scan_body (rest text : List Char) :
    scan (body text ++ '"' :: rest) = .ok (text, rest) := scan_of_spells (spells_body text) rest

/-! ## The characters of a literal -/

/-- A character stands for itself, or behind a backslash stands one character or `u00`
with two hexadecimal digits. -/
theorem escape_cases (c : Char) :
    (escape c = [c] ∧ c ≠ '"' ∧ c ≠ '\\' ∧ 0x20 ≤ c.toNat) ∨
    (∃ d : Char, escape c = ['\\', d] ∧ 0x20 ≤ d.toNat) ∨
    ∃ high low, high < 16 ∧ low < 16 ∧
      escape c = ['\\', 'u', '0', '0', hexDigit high, hexDigit low] := by
  unfold escape
  split
  next => exact Or.inr (Or.inl ⟨_, rfl, by decide⟩)
  next hq =>
    split
    next => exact Or.inr (Or.inl ⟨_, rfl, by decide⟩)
    next hb =>
      split
      next hc =>
        repeat' split
        · exact Or.inr (Or.inl ⟨_, rfl, by decide⟩)
        · exact Or.inr (Or.inl ⟨_, rfl, by decide⟩)
        · exact Or.inr (Or.inl ⟨_, rfl, by decide⟩)
        · exact Or.inr (Or.inl ⟨_, rfl, by decide⟩)
        · exact Or.inr (Or.inl ⟨_, rfl, by decide⟩)
        · exact Or.inr (Or.inr ⟨_, _, by omega, by omega, rfl⟩)
      next hc => exact Or.inl ⟨rfl, hq, hb, Nat.le_of_not_lt hc⟩

/-- A hexadecimal digit in either case is a character that stands for itself. -/
theorem plain_of_hexValue? {c : Char} {n : Nat} (h : hexValue? c = some n) :
    c ≠ '"' ∧ c ≠ '\\' ∧ 0x20 ≤ c.toNat := by
  refine ⟨?_, ?_, ?_⟩
  · rintro rfl
    have hnone : hexValue? '"' = none := by decide
    exact absurd (hnone.symm.trans h) (by simp)
  · rintro rfl
    have hnone : hexValue? '\\' = none := by decide
    exact absurd (hnone.symm.trans h) (by simp)
  · unfold hexValue? at h
    grind

/-- What holds of the sixteen hexadecimal digits. -/
theorem hexDigit_spec {n : Nat} (h : n < 16) :
    hexDigit n ≠ '"' ∧ hexDigit n ≠ '\\' ∧ 0x20 ≤ (hexDigit n).toNat :=
  plain_of_hexValue? (hexValue?_hexDigit h)

theorem HexUnit.plain {digits : List Char} {n : Nat} (h : HexUnit digits n) :
    ∀ c ∈ digits, c ≠ '"' ∧ c ≠ '\\' ∧ 0x20 ≤ c.toNat := by
  obtain ⟨ha, hb, hc, hd⟩ := h
  intro c hm
  simp only [List.mem_cons, List.not_mem_nil, or_false] at hm
  rcases hm with rfl | rfl | rfl | rfl
  · exact plain_of_hexValue? ha
  · exact plain_of_hexValue? hb
  · exact plain_of_hexValue? hc
  · exact plain_of_hexValue? hd

/-- No control character stands behind a backslash. -/
theorem Escapes.printable {piece : List Char} {c : Char} (h : Escapes piece c) :
    ∀ d ∈ piece, 0x20 ≤ d.toNat := by
  have hu : 0x20 ≤ 'u'.toNat := by decide
  cases h with
  | @letter l c hletter =>
    have all : ∀ entry ∈ letters, 0x20 ≤ entry.1.toNat := by decide
    exact List.forall_mem_singleton.mpr (all _ hletter)
  | code hcode => exact List.forall_mem_cons.mpr ⟨hu, fun d hd => (hcode.plain d hd).2.2⟩
  | pair hhigh hlow _ _ _ =>
    refine List.forall_mem_cons.mpr ⟨hu, List.forall_mem_append.mpr
      ⟨fun d hd => (hhigh.plain d hd).2.2, List.forall_mem_cons.mpr ⟨by decide, ?_⟩⟩⟩
    exact List.forall_mem_cons.mpr ⟨hu, fun d hd => (hlow.plain d hd).2.2⟩

/-- No control character is left in a spelling. -/
theorem Spells.printable {spelling text : List Char} (h : Spells spelling text) :
    ∀ c ∈ spelling, 0x20 ≤ c.toNat := by
  induction h with
  | nil => exact List.forall_mem_nil _
  | plain _ _ hcontrol _ ih => exact List.forall_mem_cons.mpr ⟨hcontrol, ih⟩
  | escaped hpiece _ ih =>
    exact List.forall_mem_cons.mpr ⟨by decide, List.forall_mem_append.mpr ⟨hpiece.printable, ih⟩⟩

/-- No control character is left in a literal. -/
theorem printable_of_mem_encode {text : List Char} {c : Char} (h : c ∈ encode text) :
    0x20 ≤ c.toNat := by
  -- the opening quote, the characters between, the closing quote
  rcases List.mem_append.mp h with h | h
  · rcases List.mem_cons.mp h with rfl | h
    · decide
    · exact (spells_body text).printable c h
  · rw [List.mem_singleton.mp h]
    decide

end RowFilter.Text.Quoted
