import RowFilter.Decimal.Reading
import RowFilter.Yaml.Cursor
import RowFilter.Yaml.Token

/-!
# Names, tags and directives

Parts of a YAML text can be given a name behind `&`, which is used behind `*`, and a
tag behind `!`. A directive in front of a document starts with `%`: it gives the
version of the format or the meaning of a handle that tags use.

> `name?`, `tag?`, `directive?`: the token behind such a mark and the place behind it.

A tag is written in full between angle brackets, or as a handle between exclamation
marks and a suffix. Characters that a tag cannot hold are written by their bytes
behind `%`; a character of two bytes is the number that these make together, and
longer ones are refused.
-/

namespace RowFilter.Yaml

/-- The characters of handles and of the names of directives. -/
def isWordChar (c : Char) : Bool := c.isAlphanum || c == '_' || c == '-'

/-- The characters of a tag that is written in full. -/
def isUriChar (c : Char) : Bool :=
  c.isAlphanum || "-#;/?:@&=+$,_.!~*'()[]%".toList.contains c

/-- The characters of a tag's suffix. -/
def isSuffixChar (c : Char) : Bool := isUriChar c && !isFlowMark c && c != '!'

/-- The characters of the name of a part. -/
def isNameChar (c : Char) : Bool :=
  !(isBlank c || isBreak c || isFlowMark c) && c.toNat != 0xFEFF

/-- The name of a part, from behind its mark on. -/
def name? (c : Cursor) : Option (String × Cursor) :=
  let name := c.text.takeWhile isNameChar
  if name.isEmpty then none else some (String.ofList name, c.pass name.length)

/-- A byte written as two hexadecimal digits behind `%`. -/
def byte? : List Char → Option (Nat × List Char)
  | '%' :: a :: b :: rest => (Decimal.naturalIn? 16 [a, b]).map (·, rest)
  | _ => none

/-- A character written by its bytes. -/
def uriEscape? (text : List Char) : Option (Char × List Char) :=
  match byte? text with
  | none => none
  | some (first, rest) =>
    if first < 0x80 then some (Char.ofNat first, rest)
    else if 0xC0 ≤ first ∧ first < 0xE0 then
      match byte? rest with
      | some (second, rest) =>
        if 0x80 ≤ second ∧ second < 0xC0 ∧ (first * 256 + second).isValidChar then
          some (Char.ofNat (first * 256 + second), rest)
        else none
      | none => none
    else none

theorem byte_length {text rest : List Char} {n : Nat} (h : byte? text = some (n, rest)) :
    rest.length < text.length := by
  unfold byte? at h
  split at h
  · simp only [Option.map_eq_some_iff, Prod.mk.injEq] at h
    obtain ⟨_, _, _, h⟩ := h
    rw [← h]; simp only [List.length_cons]; omega
  · simp at h

theorem uriEscape_length {text rest : List Char} {c : Char}
    (h : uriEscape? text = some (c, rest)) : rest.length < text.length := by
  unfold uriEscape? at h
  split at h
  · simp at h
  · rename_i first rest' h₁
    have := byte_length h₁
    split at h
    · simp only [Option.some.injEq, Prod.mk.injEq] at h
      rw [← h.2]; exact this
    · split at h
      · split at h
        · rename_i h₂
          have := byte_length h₂
          split at h
          · simp only [Option.some.injEq, Prod.mk.injEq] at h
            rw [← h.2]; omega
          · simp at h
        · simp at h
      · simp at h

/-- The longest text of a class of characters, escapes resolved, and the text behind
it. -/
def uri? (isMember : Char → Bool) (text : List Char) : Option (List Char × List Char) :=
  match text with
  | [] => some ([], [])
  | c :: rest =>
    if !isMember c then some ([], c :: rest)
    else if c = '%' then
      match _h : uriEscape? (c :: rest) with
      | none => none
      | some (d, rest') => (uri? isMember rest').map fun (text, rest) => (d :: text, rest)
    else (uri? isMember rest).map fun (text, rest) => (c :: text, rest)
  termination_by text.length
  decreasing_by
    · exact uriEscape_length _h
    · simp

/-- The place where a text that was left starts. -/
def Cursor.passTo (rest : List Char) (c : Cursor) : Cursor := c.pass (c.text.length - rest.length)

/-- The handle of a tag: what stands from one exclamation mark to the next, or up to
the first character that a handle cannot hold. -/
def handle? : List Char → Option (List Char × List Char)
  | '!' :: rest =>
    let word := rest.takeWhile isWordChar
    match rest.dropWhile isWordChar with
    | '!' :: behind => some ('!' :: word ++ ['!'], behind)
    | behind => some ('!' :: word, behind)
  | _ => none

/-- True of a handle between two exclamation marks. -/
def isClosedHandle (handle : List Char) : Bool :=
  2 ≤ handle.length && handle.getLast? == some '!'

/-- The tag at the front of a text and the text behind it. -/
def tagFront? (text : List Char) : Option (Tag × List Char) :=
  match text with
  | '!' :: '<' :: rest =>
    match uri? isUriChar rest with
    | some (full, '>' :: behind) => some (⟨"", String.ofList full⟩, behind)
    | _ => none
  | _ =>
    match handle? text with
    | none => none
    | some (handle, rest) =>
      match uri? isSuffixChar rest with
      | none => none
      | some (suffix, behind) =>
        if isClosedHandle handle then
          if suffix.isEmpty then none
          else some (⟨String.ofList handle, String.ofList suffix⟩, behind)
        else if handle = ['!'] ∧ suffix.isEmpty then some (⟨"", "!"⟩, behind)
        else some (⟨"!", String.ofList (handle.tail ++ suffix)⟩, behind)

/-- The tag that starts here. A gap follows it, or a mark of the flow collection that
it stands in. -/
def tag? (inFlow : Bool) (c : Cursor) : Option (Tag × Cursor) :=
  match tagFront? c.text with
  | none => none
  | some (tag, behind) =>
    if atGap behind || (inFlow && atFlowMark behind) then some (tag, c.passTo behind) else none

/-! ## Directives -/

/-- The text behind a number of at most nine digits. -/
def versionNumber? (text : List Char) : Option (List Char) :=
  let (digits, rest) := Json.takeDigits text
  if 1 ≤ digits.length ∧ digits.length ≤ 9 then some rest else none

/-- The version of the format: two numbers around a point. -/
def versionText? (text : List Char) : Option (Token × List Char) :=
  match versionNumber? (text.dropWhile isBlank) with
  | some ('.' :: rest) => (versionNumber? rest).map (.version, ·)
  | _ => none

/-- The meaning of a handle, which may be a handle of its own. -/
def meaning? (text : List Char) : Option (List Char × List Char) :=
  match text with
  | '!' :: rest => (uri? isUriChar rest).map fun (text, rest) => ('!' :: text, rest)
  | c :: _ => if isSuffixChar c then uri? isUriChar text else none
  | [] => none

/-- A handle and its meaning. -/
def handleText? (text : List Char) : Option (Token × List Char) :=
  match handle? (text.dropWhile isBlank) with
  | none => none
  | some (handle, rest) =>
    if !isClosedHandle handle ∧ handle ≠ ['!'] then none
    else
      match meaning? (rest.dropWhile isBlank) with
      | none => none
      | some (meaning, behind) =>
        if atGap behind then
          some (.handle (String.ofList handle) (String.ofList meaning), behind)
        else none

/-- The directive that starts here, and the place in the line behind it. A directive
that is not known to the reader says that no handle means nothing. -/
def directive? (c : Cursor) : Option (Token × Cursor) :=
  let word := (c.text.drop 1).takeWhile isWordChar
  let rest := (c.text.drop 1).dropWhile isWordChar
  let read : Option (Token × List Char) :=
    if word.isEmpty ∨ !atGap rest then none
    else if word = ['Y', 'A', 'M', 'L'] then versionText? rest
    else if word = ['T', 'A', 'G'] then handleText? rest
    else some (.handle "" "", rest.dropWhile fun d => !isBreak d)
  match read with
  | none => none
  | some (token, behind) =>
    match (c.passTo behind).skipTail? with
    | none => none
    | some last =>
      if !atLineEnd last.text then none
      else some (token, if last.text.isEmpty then last else last.newline)

end RowFilter.Yaml
