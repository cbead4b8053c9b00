/-!
# Double-quoted literals

A literal starts and ends with a double quote. Inside it three kinds of
character are escaped and every other one stands for itself:

* the double quote and the backslash, behind a backslash;
* backspace, tab, line feed, form feed and carriage return, as a backslash and a letter;
* the other control characters below U+0020, as `\u00` and two lowercase hex digits.

`encode` writes that form. `scan` reads a wider one: any character may be
spelled `\u` with four hex digits, characters beyond U+FFFF as a pair of
surrogates, and the slash may be escaped. It is handed the text behind the
opening quote and gives the characters of the literal and the text behind the
closing quote, or the reason why there is no literal there.
-/

namespace RowFilter.Text.Quoted

/-- The lowercase hexadecimal digit for a number below sixteen. -/
def hexDigit (n : Nat) : Char :=
  if n < 10 then Char.ofNat (0x30 + n) else Char.ofNat (0x57 + n)

/-- How one character is written inside a literal. -/
def escape (c : Char) : List Char :=
  if c = '"' then ['\\', '"']
  else if c = '\\' then ['\\', '\\']
  else if c.toNat < 0x20 then
    if c.toNat = 0x8 then ['\\', 'b']
    else if c.toNat = 0x9 then ['\\', 't']
    else if c.toNat = 0xA then ['\\', 'n']
    else if c.toNat = 0xC then ['\\', 'f']
    else if c.toNat = 0xD then ['\\', 'r']
    else ['\\', 'u', '0', '0', hexDigit (c.toNat / 16), hexDigit (c.toNat % 16)]
  else [c]

/-- The characters of a literal between its quotes. -/
def body (text : List Char) : List Char := text.flatMap escape

/-- A text as a literal. -/
def encode (text : List Char) : List Char := '"' :: body text ++ ['"']

/-! ## Reading a literal -/

/-- Why a text is not a literal. -/
inductive Fault where
  /-- The text ends inside the literal. -/
  | unclosed
  /-- A raw character below U+0020 stands in the literal. -/
  | controlCharacter
  /-- A backslash is followed by something that is no escape. -/
  | badEscape
  /-- A `\u` escape is half of a surrogate pair without the other half. -/
  | loneSurrogate
  /-- A first half of a surrogate pair is not followed by a second `\u` escape. -/
  | unpairedSurrogate
  deriving DecidableEq, Repr

/-- The value of a hexadecimal digit in either case. -/
def hexValue? (c : Char) : Option Nat :=
  let n := c.toNat
  if 0x30 ≤ n && n ≤ 0x39 then some (n - 0x30)
  else if 0x41 ≤ n && n ≤ 0x46 then some (n - 0x37)
  else if 0x61 ≤ n && n ≤ 0x66 then some (n - 0x57)
  else none

/-- A step of the reader: a result with the text behind it, which is shorter than
the text it was read from, or a fault with the text that was not looked at. -/
abbrev Step (α : Type) := Except (Fault × List Char) (α × List Char)

/-- Four hexadecimal digits as a number. A text of fewer than four bytes is
unclosed whatever it holds. -/
def hex4 (text : List Char) : Step Nat :=
  match text with
  | a :: b :: c :: d :: rest =>
    match hexValue? a, hexValue? b, hexValue? c, hexValue? d with
    | some a, some b, some c, some d => .ok (((a * 16 + b) * 16 + c) * 16 + d, rest)
    | _, _, _, _ => .error (.badEscape, rest)
  | short =>
    if (String.ofList short).utf8ByteSize < 4 then .error (.unclosed, [])
    else .error (.badEscape, [])

/-- The character behind `\u`. The second half of a surrogate pair must follow a
first half at once. -/
def unicodeEscape (text : List Char) : Step Char :=
  match hex4 text with
  | .error fault => .error fault
  | .ok (high, rest) =>
    if 0xDC00 ≤ high ∧ high ≤ 0xDFFF then .error (.loneSurrogate, rest)
    else if high < 0xD800 ∨ 0xDBFF < high then .ok (Char.ofNat high, rest)
    else
      match rest with
      | [] => .error (.unclosed, [])
      | ['\\'] => .error (.unclosed, [])
      | '\\' :: 'u' :: rest =>
        match hex4 rest with
        | .error fault => .error fault
        | .ok (low, rest) =>
          if 0xDC00 ≤ low ∧ low ≤ 0xDFFF then
            .ok (Char.ofNat ((high - 0xD800) * 0x400 + (low - 0xDC00) + 0x10000), rest)
          else .error (.loneSurrogate, rest)
      | '\\' :: _ :: rest => .error (.unpairedSurrogate, rest)
      | _ :: rest => .error (.unpairedSurrogate, rest)

/-- The character that an escape stands for; the text starts behind the backslash. -/
def unescape (text : List Char) : Step Char :=
  match text with
  | [] => .error (.unclosed, [])
  | c :: rest =>
    if c = '"' ∨ c = '\\' ∨ c = '/' then .ok (c, rest)
    else if c = 'b' then .ok ('\x08', rest)
    else if c = 'f' then .ok ('\x0c', rest)
    else if c = 'n' then .ok ('\n', rest)
    else if c = 'r' then .ok ('\r', rest)
    else if c = 't' then .ok ('\t', rest)
    else if c = 'u' then unicodeEscape rest
    else .error (.badEscape, rest)

theorem hex4_length {text rest : List Char} {n : Nat} (h : hex4 text = .ok (n, rest)) :
    rest.length < text.length := by
  unfold hex4 at h
  split at h
  · split at h
    · simp only [Except.ok.injEq, Prod.mk.injEq] at h
      rw [← h.2]; simp only [List.length_cons]; omega
    · simp at h
  · split at h <;> simp at h

theorem unicodeEscape_length {text rest : List Char} {c : Char}
    (h : unicodeEscape text = .ok (c, rest)) : rest.length < text.length := by
  unfold unicodeEscape at h
  split at h
  · simp at h
  · rename_i high mid h₁
    have hm := hex4_length h₁
    split at h
    · simp at h
    · split at h
      · simp only [Except.ok.injEq, Prod.mk.injEq] at h
        rw [← h.2]; exact hm
      · split at h
        · simp at h
        · simp at h
        · split at h
          · simp at h
          · rename_i low last h₂
            have hl := hex4_length h₂
            split at h
            · simp only [Except.ok.injEq, Prod.mk.injEq] at h
              rw [← h.2]
              simp only [List.length_cons] at hm
              omega
            · simp at h
        · simp at h
        · simp at h

/-- An escape takes at least one character. -/
theorem unescape_length {text rest : List Char} {c : Char}
    (h : unescape text = .ok (c, rest)) : rest.length < text.length := by
  unfold unescape at h
  split at h
  · simp at h
  · rename_i d tail
    have hu : ∀ x r, unicodeEscape tail = .ok (x, r) → r.length < tail.length :=
      fun _ _ => unicodeEscape_length
    grind

/-- The characters of a literal up to its closing quote. -/
def scan (text : List Char) : Step (List Char) :=
  match text with
  | [] => .error (.unclosed, [])
  | c :: rest =>
    if c = '"' then .ok ([], rest)
    else if c = '\\' then
      match h : unescape rest with
      | .error fault => .error fault
      | .ok (d, rest') =>
        have := unescape_length h
        match scan rest' with
        | .error fault => .error fault
        | .ok (tail, rest'') => .ok (d :: tail, rest'')
    else if c.toNat < 0x20 then .error (.controlCharacter, rest)
    else
      match scan rest with
      | .error fault => .error fault
      | .ok (tail, rest') => .ok (c :: tail, rest')
  termination_by text.length
  decreasing_by all_goals simp only [List.length_cons]; omega

/-- A literal takes at least its closing quote. -/
theorem scan_length {text value rest : List Char} (h : scan text = .ok (value, rest)) :
    rest.length < text.length := by
  fun_induction scan text generalizing value rest with
  | case1 => simp at h
  | case2 => simp_all
  | case3 => simp at h
  | case4 => simp at h
  | case5 =>
    rename_i ih
    have := ih ‹_›
    simp only [Except.ok.injEq, Prod.mk.injEq] at h
    rw [← h.2]; simp only [List.length_cons]; omega
  | case6 => simp at h
  | case7 => simp at h
  | case8 =>
    rename_i ih
    have := ih ‹_›
    simp only [Except.ok.injEq, Prod.mk.injEq] at h
    rw [← h.2]; simp only [List.length_cons]; omega

end RowFilter.Text.Quoted
