import RowFilter.Yaml.BlockText
import RowFilter.Yaml.Folding
import RowFilter.Yaml.Tag

/-!
# Tokens from a text

Two things make the tokens of YAML depend on more than the characters at hand.

* Block collections start and end where the indentation changes. The lexer keeps the
  columns of the collections that are open, and closes those that a token stands in
  front of.
* That a scalar or a collection is a key shows only at the colon behind it. The lexer
  keeps the place of the last part that can be a key, one for each level of brackets,
  and puts the token for a key there when the colon comes. Outside brackets a key is
  in the line of its colon and at most 1024 characters long.

> `Token.ofText?`: the tokens of a text, if it is well formed that far.

Inside square brackets a colon makes a mapping of one pair without braces; the lexer
adds the tokens of its braces.
-/

namespace RowFilter.Yaml

/-- A column that was left for a deeper one. -/
structure Indent where
  outer : Int
  /-- Whether the deeper column belongs to a block collection. The others are kept
  free for what belongs to a key or an item. -/
  isBlock : Bool
  deriving DecidableEq, Repr

/-- The place of a part that can be a key. -/
structure KeyPlace where
  /-- The number of its first token. -/
  token : Nat
  index : Nat
  line : Nat
  column : Nat
  /-- Whether nothing but a key can stand there. -/
  required : Bool
  deriving DecidableEq, Repr

/-- What the lexer has read and what it knows of its surroundings. -/
structure Lexer where
  cursor : Cursor
  tokens : Array Token
  /-- The column that tokens must not stand in front of. -/
  indent : Int
  /-- The columns left for it, the last one first. -/
  indents : List Indent
  /-- The part that can be a key at this level of brackets. -/
  key : Option KeyPlace
  /-- The same for the levels around it, the innermost first. -/
  outerKeys : List (Option KeyPlace)
  /-- Whether a part that starts here can be a key. -/
  keyAllowed : Bool
  /-- Whether the keys at hand belong to a mapping that was started. -/
  inMapping : Bool
  /-- For each square bracket that is open, whether a pair without braces is. -/
  pairs : List Bool
  /-- Where a colon needs no gap behind it. -/
  adjacentAt : Nat

namespace Lexer

/-- The lexer at the beginning of a text. -/
def start (text : List Char) : Lexer where
  cursor := .start text
  tokens := #[]
  indent := -1
  indents := []
  key := none
  outerKeys := []
  keyAllowed := true
  inMapping := false
  pairs := []
  adjacentAt := 0

/-- True inside brackets of either kind. -/
def inFlow (l : Lexer) : Bool := !l.outerKeys.isEmpty

/-- The deepest nesting of brackets. -/
def maxBrackets : Nat := 255

/-- A token behind all others. -/
def push (token : Token) (l : Lexer) : Lexer := { l with tokens := l.tokens.push token }

/-- A token at a given number, or behind all others. -/
def insert (number : Option Nat) (token : Token) (l : Lexer) : Lexer :=
  match number with
  | none => l.push token
  | some n => { l with tokens := l.tokens.insertIdxIfInBounds n token }

/-! ## Keys -/

/-- Keeps the place at hand as that of a key, if one is allowed there. -/
def saveKey (l : Lexer) : Lexer :=
  if l.keyAllowed then
    let required := !l.inFlow && l.indent == l.cursor.column && l.indents.head?.any (·.isBlock)
    { l with
      key := some ⟨l.tokens.size, l.cursor.index, l.cursor.line, l.cursor.column, required⟩ }
  else l

/-- Forgets the place of a key. One that nothing but a key can stand at is a fault. -/
def dropKey? (l : Lexer) : Option Lexer :=
  if l.key.any (·.required) then none else some { l with key := none }

/-- Forgets the place of a key that lies too far behind. -/
def expireKey? (l : Lexer) : Option Lexer :=
  let isFar (key : KeyPlace) : Bool :=
    key.line < l.cursor.line || key.index + 1024 < l.cursor.index
  if !l.inFlow && l.key.any isFar then l.dropKey? else some l

/-! ## Columns -/

/-- Leaves the columns that are deeper than a given one, and closes their block
collections. -/
def closeTo (column : Int) (l : Lexer) : Lexer :=
  let rec close (indent : Int) (tokens : Array Token) : List Indent → Lexer
    | [] => { l with indent, tokens, indents := [] }
    | last :: outer =>
      if indent ≤ column then { l with indent, tokens, indents := last :: outer }
      else close last.outer (if last.isBlock then tokens.push .blockEnd else tokens) outer
  if l.inFlow then l else close l.indent l.tokens l.indents

/-- Leaves the columns that were only kept free. -/
def release (l : Lexer) : Lexer :=
  let rec free (indent : Int) : List Indent → Lexer
    | [] => { l with indent, indents := [] }
    | last :: outer =>
      if last.isBlock then { l with indent, indents := last :: outer } else free last.outer outer
  free l.indent l.indents

/-- Keeps the next column free for what belongs to a key or an item. -/
def reserve (l : Lexer) : Lexer :=
  if !l.inFlow && l.indents.head?.any (·.isBlock) then
    { l with indent := l.indent + 1, indents := ⟨l.indent, false⟩ :: l.indents }
  else l

/-- Opens a block collection at a column that is deeper than the last one. Its token
gets a given number or stands behind all others. -/
def openBlock (column : Int) (number : Option Nat) (token : Token) (l : Lexer) : Lexer :=
  if l.inFlow then l
  else
    let l :=
      match l.indents with
      | last :: outer =>
        if l.indent ≤ column && !last.isBlock then
          { l with indent := last.outer, indents := outer }
        else l
      | [] => l
    if l.indent < column then
      { l with indent := column, indents := ⟨l.indent, true⟩ :: l.indents }.insert number token
    else l

/-! ## Marks -/

/-- Passes a mark of one character and what may stand behind it in the line. -/
def passMark? (l : Lexer) : Option Lexer :=
  (l.cursor.pass 1).skipTail?.map fun cursor => { l with cursor }

/-- Ends the pair without braces that is open in the innermost square brackets. -/
def endPair (l : Lexer) : Lexer :=
  match l.pairs with
  | true :: outer => { l with inMapping := false, pairs := false :: outer }.push .flowMappingEnd
  | _ => l

/-- The start of a flow collection. -/
def flowStart? (token : Token) (l : Lexer) : Option Lexer :=
  let l := l.saveKey.reserve
  if maxBrackets ≤ l.outerKeys.length then none
  else
    let l := { l with outerKeys := l.key :: l.outerKeys, key := none, keyAllowed := true }
    let l :=
      if token = .flowMappingStart then { l with inMapping := true }
      else { l with pairs := false :: l.pairs }
    l.passMark?.map (push token)

/-- The end of a flow collection. -/
def flowEnd? (token : Token) (l : Lexer) : Option Lexer := do
  let l ← l.dropKey?
  let l :=
    match l.outerKeys with
    | key :: outer => { l with key, outerKeys := outer }
    | [] => l
  let l := { l with keyAllowed := false }
  let l :=
    if token = .flowSequenceEnd then
      let l := l.endPair
      { l with pairs := l.pairs.tail }
    else l
  let l ← l.passMark?
  let l := if l.inFlow then { l with adjacentAt := l.cursor.index } else l
  return l.push token

/-- The comma between the items of a flow collection. -/
def flowEntry? (l : Lexer) : Option Lexer := do
  let l ← l.dropKey?
  let l ← { l with keyAllowed := true }.endPair.passMark?
  return l.push .flowEntry

/-- The hyphen in front of an item. A tab does not set it off from another one. -/
def blockEntry? (l : Lexer) : Option Lexer := do
  if l.inFlow || !l.keyAllowed then none
  let column := l.cursor.column
  let l := { l with cursor := l.cursor.pass 1 }.openBlock column none .blockSequenceStart
  let tail ← l.cursor.lineTail? true
  if tail.sawTab && tail.behind.text.head? == some '-' && atGap (tail.behind.text.drop 1) then none
  let l := { l with cursor := tail.behind }
  let l :=
    match l.cursor.text with
    | c :: _ => if isBreak c || isFlowMark c then l.reserve else l
    | [] => l
  let l ← l.dropKey?
  return { l with keyAllowed := true }.push .blockEntry

/-- Crosses spaces, line ends and comments behind the mark of a key, and says whether
a space or a line end was among them. -/
def skipKeyGap (inComment sawGap : Bool) (c : Cursor) : Cursor × Bool :=
  match _h : c.text with
  | [] => (c, sawGap)
  | d :: _ =>
    if isBreak d then skipKeyGap false true c.newline
    else if inComment then skipKeyGap true sawGap (c.pass 1)
    else if d = ' ' then skipKeyGap false true (c.skip 1)
    else if d = '#' then skipKeyGap true sawGap (c.pass 1)
    else (c, sawGap)
  termination_by c.text.length
  decreasing_by
    · have := c.newline_length; simp only [_h, List.length_cons] at this ⊢; omega
    · simp [Cursor.pass_length, _h]
    · simp [Cursor.skip_length, _h]
    · simp [Cursor.pass_length, _h]

/-- The mark of a key that is written out. -/
def explicitKey? (l : Lexer) : Option Lexer := do
  if !l.inFlow && !l.keyAllowed then none
  let l :=
    if l.inFlow then { l with inMapping := true }
    else l.openBlock l.cursor.column none .blockMappingStart
  let l ← l.dropKey?
  let (cursor, sawGap) := skipKeyGap false false (l.cursor.pass 1)
  if !sawGap || cursor.text.head? == some '\t' then none
  return { l with cursor, keyAllowed := !l.inFlow }.push .key

/-- Passes a colon. A tab alone does not set it off from a word or a hyphen. -/
def passColon? (l : Lexer) : Option Lexer := do
  let behind := l.cursor.pass 1
  if behind.text.head? = some '\t' then
    let tail ← behind.lineTail? true
    if !tail.sawSpace && tail.behind.text.head?.any isWordChar then none
    return { l with cursor := tail.behind }
  else return { l with cursor := behind }

/-- The colon in front of a value. -/
def value? (l : Lexer) : Option Lexer := do
  let line := l.cursor.line
  let column := l.cursor.column
  let isPair := !l.pairs.isEmpty && !l.inMapping
  let l := if isPair then { l with pairs := true :: l.pairs.tail } else l
  let l ← l.passColon?
  match l.key with
  | some key =>
    let l := l.insert (some key.token) .key
    if isPair && key.line < line then none
    let l := if isPair then l.insert (some key.token) .flowMappingStart else l
    let l := (l.openBlock key.column (some key.token) .blockMappingStart).reserve
    return { l with key := none, keyAllowed := false }.push .value
  | none =>
    let l := if isPair then l.push .flowMappingStart else l
    if !l.inFlow && !l.keyAllowed then none
    let l := (l.openBlock column none .blockMappingStart).reserve
    return { l with keyAllowed := !l.inFlow }.push .value

/-! ## Parts -/

/-- The place of a part is kept as that of a key, and no other part can be one in
front of the next mark. -/
def startPart (l : Lexer) : Lexer := { l.saveKey with keyAllowed := false }

/-- A name for the next part, or the use of one. -/
def name? (token : String → Token) (l : Lexer) : Option Lexer := do
  let l := l.startPart
  let (name, cursor) ← Yaml.name? (l.cursor.pass 1)
  return { l with cursor }.push (token name)

/-- A tag. -/
def tag? (l : Lexer) : Option Lexer := do
  let l := l.startPart
  let (tag, cursor) ← Yaml.tag? l.inFlow l.cursor
  return { l with cursor }.push (.tag tag)

/-- True of what may follow a scalar in quotes, which started in a given line. -/
def mayFollowQuoted (inFlow : Bool) (line : Nat) (c : Cursor) : Bool :=
  match c.text with
  | [] => true
  | d :: _ =>
    isBreak d || (d == ':' && (inFlow || line == c.line))
      || (inFlow && (d == ',' || d == ']' || d == '\x7d'))

/-- A scalar in quotes. -/
def quoted? (quote : Char) (l : Lexer) : Option Lexer := do
  let l := l.startPart
  let (text, cursor) ← quotedText quote l.indent [] none (l.cursor.pass 1)
  let behind ← cursor.skipTail?
  if !mayFollowQuoted l.inFlow l.cursor.line behind then none
  let (cursor, crossed) ← behind.skipGaps l.indent false false
  return { l with
    cursor, adjacentAt := cursor.index,
    keyAllowed := crossed && !l.inFlow }.push (.scalar ⟨text, true⟩)

/-- A scalar without quotes. -/
def plain? (l : Lexer) : Option Lexer := do
  let l := l.startPart.release
  let (text, cursor) ← Yaml.plain? l.inFlow (l.indent + 1) l.cursor
  return { l with cursor, keyAllowed := cursor.fresh }.push (.scalar ⟨text, false⟩)

/-- A block text. -/
def blockText? (folded : Bool) (l : Lexer) : Option Lexer := do
  let l := { l.saveKey with keyAllowed := true }.release
  let (text, cursor) ← Yaml.blockText? folded l.indent (l.cursor.pass 1)
  return { l with cursor }.push (.scalar ⟨text, true⟩)

/-! ## Documents -/

/-- Leaves all block collections in front of what belongs to the document. -/
def leaveDocument? (l : Lexer) : Option Lexer := do
  let l ← (l.closeTo (-1)).dropKey?
  return { l with keyAllowed := false }

/-- The marker of a document's start. -/
def documentStart? (l : Lexer) : Option Lexer := do
  let l ← l.leaveDocument?
  return { l with cursor := l.cursor.pass 3 }.push .documentStart

/-- The marker of a document's end, behind which nothing stands in its line. -/
def documentEnd? (l : Lexer) : Option Lexer := do
  let l ← l.leaveDocument?
  let cursor ← (l.cursor.pass 3).skipTail?
  if !atLineEnd cursor.text then none
  return { l with cursor }.push .documentEnd

/-- A directive. -/
def directive? (l : Lexer) : Option Lexer := do
  let l ← l.leaveDocument?
  let (token, cursor) ← Yaml.directive? l.cursor
  return { l with cursor }.push token

/-! ## All tokens -/

/-- Comes to the next token: crosses gaps, forgets a key that lies too far behind, and
closes the block collections that the token stands in front of. -/
def approach? (l : Lexer) : Option Lexer := do
  let (cursor, crossed) ← l.cursor.skipGaps l.indent false false
  let l ← { l with cursor, keyAllowed := l.keyAllowed || (crossed && !l.inFlow) }.expireKey?
  return l.closeTo cursor.column

/-- Reads the token that starts here. -/
def next? (l : Lexer) : Option Lexer :=
  match l.cursor.text with
  | [] => none
  | c :: behind =>
    let atStart := l.cursor.column == 0
    let inFlow := l.inFlow
    if atStart ∧ c = '%' then l.directive?
    else if l.cursor.atMarker '-' then l.documentStart?
    else if l.cursor.atMarker '.' then l.documentEnd?
    else if (l.cursor.column : Int) < l.indent then none
    else if c = '[' then l.flowStart? .flowSequenceStart
    else if c = '\x7b' then l.flowStart? .flowMappingStart
    else if c = ']' then l.flowEnd? .flowSequenceEnd
    else if c = '\x7d' then l.flowEnd? .flowMappingEnd
    else if c = ',' then l.flowEntry?
    else if c = '-' ∧ atGap behind then l.blockEntry?
    else if c = '?' ∧ atGap behind then l.explicitKey?
    else if c = ':' ∧ (atGap behind ∨
        (inFlow ∧ (atFlowMark behind ∨ l.cursor.index = l.adjacentAt))) then l.value?
    else if c = '*' then l.name? .reference
    else if c = '&' then l.name? .anchor
    else if c = '!' then l.tag?
    else if c = '|' ∧ !inFlow then l.blockText? false
    else if c = '>' ∧ !inFlow then l.blockText? true
    else if c = '\'' ∨ c = '"' then l.quoted? c
    else if c = '%' ∨ c = '@' ∨ c = '\x60' then none
    else l.plain?

/-- The tokens of a text that has ended. -/
def finish? (l : Lexer) : Option (List Token) :=
  if (l.key :: l.outerKeys).any (·.any (·.required)) then none
  else some (l.closeTo (-1)).tokens.toList

/-- The tokens of a text of a given length. Each token takes at least one character. -/
def tokens? (length : Nat) (l : Lexer) : Option (List Token) :=
  match l.approach? with
  | none => none
  | some here =>
    if here.cursor.text.isEmpty then here.finish?
    else
      match here.next? with
      | none => none
      | some after =>
        if l.cursor.index < after.cursor.index ∧ after.cursor.index ≤ length then
          tokens? length after
        else none
  termination_by length - l.cursor.index

end Lexer

/-- The tokens of a text, which ends at the first NUL character. -/
def Token.ofText? (text : List Char) : Option (List Token) :=
  let text := text.takeWhile (· != '\x00')
  (Lexer.start text).tokens? text.length

end RowFilter.Yaml
