import RowFilter.Json.Number

/-!
# Reading JSON text

A text is read from front to back, and the first character that cannot stand
where it is, or the end of the text where more is needed, is the fault. Blanks
are space, tab, line feed and carriage return.

> `parse`: the value of a text, or its fault. Arrays and objects are nested at
> most `maxDepth` deep, and of two members with the same key the later value wins
> at the earlier place.

Each step hands on what it has not read together with the fact that this is
shorter than what it was given, so reading ends because the text does.
-/

namespace RowFilter.Json

/-- How deep arrays and objects may be nested in a text. -/
def maxDepth : Nat := 127

/-- The characters between tokens. -/
def isSpace (c : Char) : Bool := c == ' ' || c == '\t' || c == '\n' || c == '\r'

/-- A text from its first character that is not a space. -/
def skipSpace (text : List Char) : NotLonger text :=
  ⟨text.dropWhile isSpace, (List.dropWhile_sublist _).length_le⟩

/-- The rest of a keyword, of which the first letter was read. -/
def keyword : (letters text : List Char) → Except Fault (NotLonger text)
  | [], text => .ok ⟨text, Nat.le_refl _⟩
  | _ :: _, [] => .error ⟨.endInValue, []⟩
  | letter :: letters, c :: rest =>
    if letter = c then
      match keyword letters rest with
      | .error fault => .error fault
      | .ok ⟨rest', h⟩ => .ok ⟨rest', by simp only [List.length_cons]; omega⟩
    else .error ⟨.notKeyword, rest⟩

/-- A string, of which the opening quote was read. -/
def readString (text : List Char) : Except Fault (String × Shorter text) :=
  match h : Text.Quoted.scan text with
  | .error (fault, unread) => .error ⟨.string fault, unread⟩
  | .ok (value, rest) => .ok (String.ofList value, ⟨rest, Text.Quoted.scan_length h⟩)

/-- A keyword's value, of which the first letter was read. -/
def readKeyword (letters : List Char) (value : Json) (rest text : List Char)
    (h : rest.length < text.length) : Except Fault (Json × Shorter text) :=
  match keyword letters rest with
  | .error fault => .error fault
  | .ok ⟨rest', h'⟩ => .ok (value, ⟨rest', by omega⟩)

/-- The key of a member with its colon. The text starts at the quote. -/
def readKey (text : List Char) : Except Fault (String × Shorter text) :=
  match text with
  | '"' :: rest =>
    match readString rest with
    | .error fault => .error fault
    | .ok (key, ⟨afterKey, h₁⟩) =>
      match skipSpace afterKey with
      | ⟨[], _⟩ => .error ⟨.endInObject, []⟩
      | ⟨c :: rest', h₂⟩ =>
        if c = ':' then .ok (key, ⟨rest', by simp only [List.length_cons] at h₂ ⊢; omega⟩)
        else .error ⟨.noColon, rest'⟩
  | [] => .error ⟨.endInObject, []⟩
  | _ :: rest => .error ⟨.keyNotString, rest⟩

mutual

/-- The value at the front of a text, in which `levels` more containers may be
nested. -/
def readValue (levels : Nat) (text : List Char) : Except Fault (Json × Shorter text) :=
  match skipSpace text with
  | ⟨[], _⟩ => .error ⟨.endInValue, []⟩
  | ⟨c :: rest, h⟩ =>
    have h : rest.length < text.length := by simp only [List.length_cons] at h; omega
    if c = 'n' then readKeyword ['u', 'l', 'l'] .null rest text h
    else if c = 't' then readKeyword ['r', 'u', 'e'] (.bool true) rest text h
    else if c = 'f' then readKeyword ['a', 'l', 's', 'e'] (.bool false) rest text h
    else if c = '"' then
      match readString rest with
      | .error fault => .error fault
      | .ok (s, ⟨rest', h'⟩) => .ok (.string s, ⟨rest', by omega⟩)
    else if c = '[' then
      if levels = 0 then .error ⟨.nestedTooDeep, rest⟩
      else
        match readFirstItem (levels - 1) rest with
        | .error fault => .error fault
        | .ok (items, ⟨rest', h'⟩) => .ok (.array items, ⟨rest', by omega⟩)
    else if c = '\x7b' then
      if levels = 0 then .error ⟨.nestedTooDeep, rest⟩
      else
        match readFirstMember (levels - 1) rest with
        | .error fault => .error fault
        | .ok (members, ⟨rest', h'⟩) =>
          .ok (.object (Keyed.ofPairs members), ⟨rest', by omega⟩)
    else if c = '-' ∨ (digit? c).isSome then
      match readNumber (c :: rest) with
      | .error fault => .error fault
      | .ok (n, ⟨rest', h'⟩) =>
        .ok (.number n, ⟨rest', by simp only [List.length_cons] at h'; omega⟩)
    else .error ⟨.notValue, rest⟩
  termination_by (text.length, 0)

/-- The items of an array up to its end; the text starts behind the bracket. -/
def readFirstItem (levels : Nat) (text : List Char) : Except Fault (List Json × Shorter text) :=
  match skipSpace text with
  | ⟨[], _⟩ => .error ⟨.endInArray, []⟩
  | ⟨c :: rest, h⟩ =>
    if c = ']' then .ok ([], ⟨rest, by simp only [List.length_cons] at h; omega⟩)
    else
      match readValue levels text with
      | .error fault => .error fault
      | .ok (item, ⟨afterItem, h₁⟩) =>
        match readMoreItems levels afterItem with
        | .error fault => .error fault
        | .ok (items, ⟨rest', h₂⟩) => .ok (item :: items, ⟨rest', by omega⟩)
  termination_by (text.length, 1)

/-- The items behind another one up to the end of their array. -/
def readMoreItems (levels : Nat) (text : List Char) : Except Fault (List Json × Shorter text) :=
  match skipSpace text with
  | ⟨[], _⟩ => .error ⟨.endInArray, []⟩
  | ⟨c :: rest, h⟩ =>
    have h : rest.length < text.length := by simp only [List.length_cons] at h; omega
    if c = ']' then .ok ([], ⟨rest, h⟩)
    else if c = ',' then
      match skipSpace rest with
      | ⟨[], _⟩ => .error ⟨.endInValue, []⟩
      | ⟨d :: rest', _⟩ =>
        if d = ']' then .error ⟨.trailingComma, rest'⟩
        else
          match readValue levels rest with
          | .error fault => .error fault
          | .ok (item, ⟨afterItem, h₁⟩) =>
            match readMoreItems levels afterItem with
            | .error fault => .error fault
            | .ok (items, ⟨rest'', h₂⟩) => .ok (item :: items, ⟨rest'', by omega⟩)
    else .error ⟨.arrayNotClosed, rest⟩
  termination_by (text.length, 1)

/-- The members of an object up to its end; the text starts behind the brace. -/
def readFirstMember (levels : Nat) (text : List Char) :
    Except Fault (List (String × Json) × Shorter text) :=
  match skipSpace text with
  | ⟨[], _⟩ => .error ⟨.endInObject, []⟩
  | ⟨c :: rest, h⟩ =>
    if c = '\x7d' then .ok ([], ⟨rest, by simp only [List.length_cons] at h; omega⟩)
    else
      match readKey (c :: rest) with
      | .error fault => .error fault
      | .ok (key, ⟨afterKey, h₁⟩) =>
        match readValue levels afterKey with
        | .error fault => .error fault
        | .ok (item, ⟨afterItem, h₂⟩) =>
          match readMoreMembers levels afterItem with
          | .error fault => .error fault
          | .ok (members, ⟨rest', h₃⟩) => .ok ((key, item) :: members, ⟨rest', by omega⟩)
  termination_by (text.length, 1)

/-- The members behind another one up to the end of their object. -/
def readMoreMembers (levels : Nat) (text : List Char) :
    Except Fault (List (String × Json) × Shorter text) :=
  match skipSpace text with
  | ⟨[], _⟩ => .error ⟨.endInObject, []⟩
  | ⟨c :: rest, h⟩ =>
    have h : rest.length < text.length := by simp only [List.length_cons] at h; omega
    if c = '\x7d' then .ok ([], ⟨rest, h⟩)
    else if c = ',' then
      match skipSpace rest with
      | ⟨[], _⟩ => .error ⟨.endInValue, []⟩
      | ⟨d :: rest', h'⟩ =>
        if d = '\x7d' then .error ⟨.trailingComma, rest'⟩
        else
          match readKey (d :: rest') with
          | .error fault => .error fault
          | .ok (key, ⟨afterKey, h₁⟩) =>
            match readValue levels afterKey with
            | .error fault => .error fault
            | .ok (item, ⟨afterItem, h₂⟩) =>
              match readMoreMembers levels afterItem with
              | .error fault => .error fault
              | .ok (members, ⟨rest'', h₃⟩) =>
                .ok ((key, item) :: members, ⟨rest'', by omega⟩)
    else .error ⟨.objectNotClosed, rest⟩
  termination_by (text.length, 1)

end

/-- The value at the front of a text, and the text behind it. -/
def readFront (text : List Char) : Except Fault (Json × List Char) :=
  match readValue maxDepth text with
  | .error fault => .error fault
  | .ok (value, ⟨rest, _⟩) => .ok (value, rest)

/-- The fault of a text behind a value, in which nothing but spaces may stand. -/
def trailingFault? (rest : List Char) : Option Fault :=
  match (skipSpace rest).val with
  | [] => none
  | _ :: unread => some ⟨.trailingText, unread⟩

/-- The value of a whole text. -/
def parseChars (text : List Char) : Except Fault Json :=
  match readFront text with
  | .error fault => .error fault
  | .ok (value, rest) =>
    match trailingFault? rest with
    | none => .ok value
    | some fault => .error fault

/-- The value of a whole text. -/
def parse (text : String) : Except Fault Json := parseChars text.toList

end RowFilter.Json
