/-!
# Places in a YAML text

Indentation carries meaning in YAML, so a reader has to know at each character its
line and its column. A `Cursor` is such a place: the text from there on and where
that is.

> `skipGaps`: crosses blanks, comments and line ends up to the next token.
> `lineTail?`: crosses what may stand between a token and the end of its line.

A line ends at a line feed, a carriage return, or both in this order. Every step is
written with the length of the text it leaves, by which the readers terminate.
-/

namespace RowFilter.Yaml

/-- True of a space and a tab. -/
def isBlank (c : Char) : Bool := c == ' ' || c == '\t'

/-- True of the characters that end a line. -/
def isBreak (c : Char) : Bool := c == '\n' || c == '\r'

/-- True at a line end and at the end of the text. -/
def atLineEnd : List Char → Bool
  | [] => true
  | c :: _ => isBreak c

/-- True at a blank, at a line end and at the end of the text. -/
def atGap : List Char → Bool
  | [] => true
  | c :: _ => isBlank c || isBreak c

/-- The characters that group and separate in a flow collection. -/
def isFlowMark (c : Char) : Bool :=
  c == ',' || c == '[' || c == ']' || c == '\x7b' || c == '\x7d'

/-- True at one of the marks of a flow collection. -/
def atFlowMark : List Char → Bool
  | [] => false
  | c :: _ => isFlowMark c

/-- True if nothing but blanks and a comment follows in the line. -/
def isIdle (text : List Char) : Bool :=
  match text.dropWhile isBlank with
  | [] => true
  | c :: _ => isBreak c || c == '#'

/-- A place in a text. -/
structure Cursor where
  /-- The text from here on. -/
  text : List Char
  /-- How many characters lie behind. -/
  index : Nat
  line : Nat
  column : Nat
  /-- Whether nothing but blanks lies behind in this line. -/
  fresh : Bool
  deriving DecidableEq, Repr

namespace Cursor

/-- The beginning of a text. -/
def start (text : List Char) : Cursor := ⟨text, 0, 0, 0, true⟩

/-- Behind `n` blanks, or behind characters that do not matter for the line. -/
def skip (n : Nat) (c : Cursor) : Cursor :=
  { c with text := c.text.drop n, index := c.index + n, column := c.column + n }

/-- Behind `n` characters of a token. -/
def pass (n : Nat) (c : Cursor) : Cursor := { c.skip n with fresh := false }

/-- Behind the line end that stands here. -/
def newline (c : Cursor) : Cursor :=
  match c.text with
  | '\r' :: '\n' :: rest => ⟨rest, c.index + 2, c.line + 1, 0, true⟩
  | text => ⟨text.drop 1, c.index + 1, c.line + 1, 0, true⟩

theorem skip_length (n : Nat) (c : Cursor) : (c.skip n).text.length = c.text.length - n := by
  simp [skip]

theorem pass_length (n : Nat) (c : Cursor) : (c.pass n).text.length = c.text.length - n := by
  simp [pass, skip]

theorem newline_length (c : Cursor) : c.newline.text.length ≤ c.text.length - 1 := by
  unfold newline
  split
  · rename_i h; simp [h]
  · simp

/-- At the end of the line. -/
def toLineEnd (c : Cursor) : Cursor := c.skip (c.text.takeWhile fun d => !isBreak d).length

theorem toLineEnd_length {c : Cursor} {d : Char} {rest : List Char} (h : c.text = d :: rest)
    (hd : ¬isBreak d) : c.toLineEnd.text.length ≤ rest.length := by
  simp [toLineEnd, skip_length, h, hd]

/-- True at the beginning of a line that marks the start or the end of a document. -/
def atMarker (mark : Char) (c : Cursor) : Bool :=
  c.column == 0 && c.text.take 3 == [mark, mark, mark] && atGap (c.text.drop 3)

/-- True at either marker of a document. -/
def atAnyMarker (c : Cursor) : Bool := c.atMarker '-' || c.atMarker '.'

/-- Behind blanks, comments and line ends, and whether a line end was among them. A
tab is not part of the indentation: in front of column `indent` it is refused,
unless its line is idle. -/
def skipGaps (indent : Int) (inComment crossed : Bool) (c : Cursor) : Option (Cursor × Bool) :=
  match _h : c.text with
  | [] => some (c, crossed)
  | d :: rest =>
    if isBreak d then skipGaps indent false true c.newline
    else if inComment then skipGaps indent true crossed (c.skip 1)
    else if isBlank d then
      if d = '\t' ∧ c.fresh ∧ (c.column : Int) < indent ∧ !isIdle (d :: rest) then none
      else skipGaps indent false crossed (c.skip 1)
    else if d = '#' then skipGaps indent true crossed (c.skip 1)
    else some (c, crossed)
  termination_by c.text.length
  decreasing_by
    · have := c.newline_length; simp only [_h, List.length_cons] at this ⊢; omega
    all_goals simp [skip_length, _h]

end Cursor

/-- What stood between a token and the end of its line or the next token in it. -/
structure LineTail where
  /-- The place behind it. -/
  behind : Cursor
  sawSpace : Bool
  sawTab : Bool

/-- Crosses blanks and a comment up to the end of the line or the next token in it,
tabs only if they are allowed. A comment is set off by a blank. -/
def Cursor.lineTail? (tabs : Bool) (c : Cursor) : Option LineTail :=
  let blanks := c.text.takeWhile fun d => d == ' ' || (tabs && d == '\t')
  let behind := c.skip blanks.length
  if behind.text.head? = some '#' then
    if blanks.isEmpty then none
    else some ⟨behind.toLineEnd, blanks.contains ' ', blanks.contains '\t'⟩
  else some ⟨behind, blanks.contains ' ', blanks.contains '\t'⟩

/-- The place behind blanks and a comment. -/
def Cursor.skipTail? (c : Cursor) : Option Cursor := (c.lineTail? true).map (·.behind)

end RowFilter.Yaml
