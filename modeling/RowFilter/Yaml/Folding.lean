import RowFilter.Decimal.Reading
import RowFilter.Yaml.Cursor

/-!
# Scalars that run over lines

A scalar in quotes or without may go on in the next line. What stands between two of
its words is then folded: blanks around a line end are dropped, the line end counts
as a space, and if more line ends follow, they count as line feeds in its place.
Behind a line end that is escaped only the further ones count.

> `quotedText`: the text of a scalar in quotes up to its closing quote.
> `plainText`: the text of a scalar without quotes, which ends where its line says
> so: at a colon before a gap, at a comment, or at a line that is not indented.

Texts are gathered with their last character first.
-/

namespace RowFilter.Yaml

/-- What stands between two words of a scalar. -/
inductive Gap where
  /-- Blanks within a line, the last one first. -/
  | inLine (blanks : List Char)
  /-- Line ends, the first of which may count as a space. -/
  | folded (breaks : Nat)
  /-- Further line ends behind an escaped one. -/
  | joined (breaks : Nat)
  deriving DecidableEq, Repr

namespace Gap

/-- A gap and one more blank. Only blanks within a line are kept. -/
def blank (c : Char) : Gap → Gap
  | .inLine blanks => .inLine (c :: blanks)
  | other => other

/-- A gap and one more line end. -/
def newline : Gap → Gap
  | .inLine _ => .folded 1
  | .folded breaks => .folded (breaks + 1)
  | .joined breaks => .joined (breaks + 1)

/-- True behind a line end. -/
def isInNewLine : Gap → Bool
  | .inLine _ => false
  | _ => true

/-- What a gap counts as inside a scalar, the last character first. -/
def text : Gap → List Char
  | .inLine blanks => blanks
  | .folded breaks => if breaks ≤ 1 then [' '] else List.replicate (breaks - 1) '\n'
  | .joined breaks => List.replicate breaks '\n'

end Gap

/-! ## Scalars in quotes -/

/-- The character that a one-letter escape stands for. -/
def escaped? (c : Char) : Option Char :=
  Keyed.get? (String.singleton c)
    [("0", '\x00'), ("a", '\x07'), ("b", '\x08'), ("t", '\t'), ("\t", '\t'), ("n", '\n'),
      ("v", '\x0b'), ("f", '\x0c'), ("r", '\r'), ("e", '\x1b'), (" ", ' '), ("\"", '"'),
      ("/", '/'), ("\\", '\\'), ("N", Char.ofNat 0x85), ("_", Char.ofNat 0xA0),
      ("L", Char.ofNat 0x2028), ("P", Char.ofNat 0x2029)]

/-- How many hexadecimal digits follow an escape's letter. -/
def hexLength? (c : Char) : Option Nat :=
  if c = 'x' then some 2 else if c = 'u' then some 4 else if c = 'U' then some 8 else none

/-- The character that an escape stands for, and how many characters it takes behind
its backslash beyond its letter. -/
def escape? (letter : Char) (text : List Char) : Option (Char × Nat) :=
  match hexLength? letter with
  | some n =>
    match Decimal.naturalIn? 16 (text.take n) with
    | some code =>
      if (text.take n).length = n ∧ code.isValidChar then some (Char.ofNat code, n) else none
    | none => none
  | none => (escaped? letter).map (·, 0)

/-- The text of a scalar in quotes, with what was read before and the gap behind it,
and the place behind its closing quote. Further lines are indented by at least
`indent`, not by tabs, and none is the marker of a document; only a closing quote right
behind an escaped line end may stand at the start of its line. -/
def quotedText (quote : Char) (indent : Int) (done : List Char) (gap : Option Gap) (c : Cursor) :
    Option (List Char × Cursor) :=
  match _h : c.text with
  | [] => none
  | d :: rest =>
    let between := gap.getD (.inLine [])
    if isBreak d then quotedText quote indent done (some between.newline) c.newline
    else if isBlank d then
      if d = '\t' ∧ between.isInNewLine ∧ (c.column : Int) < indent then none
      else quotedText quote indent done (some (between.blank d)) (c.skip 1)
    else if gap.isSome ∧ ¬(gap = some (.joined 0) ∧ c.column = 0 ∧ d = quote) ∧
        (c.atAnyMarker ∨ (c.column : Int) < indent) then none
    else
      let done := between.text ++ done
      if d = quote then
        if quote = '\'' ∧ rest.head? = some '\'' then
          quotedText quote indent ('\'' :: done) none (c.pass 2)
        else some (done.reverse, c.pass 1)
      else if quote = '"' ∧ d = '\\' then
        match rest with
        | [] => none
        | letter :: behind =>
          if isBreak letter then
            quotedText quote indent done (some (.joined 0)) (c.pass 1).newline
          else
            match escape? letter behind with
            | none => none
            | some (e, n) => quotedText quote indent (e :: done) none (c.pass (n + 2))
      else quotedText quote indent (d :: done) none (c.pass 1)
  termination_by c.text.length
  decreasing_by
    · have := c.newline_length; simp only [_h, List.length_cons] at this ⊢; omega
    · simp [Cursor.skip_length, _h]
    · simp only [Cursor.pass_length, _h, List.length_cons]; omega
    · have := (c.pass 1).newline_length
      simp only [Cursor.pass_length, _h, List.length_cons] at this ⊢; omega
    · simp only [Cursor.pass_length, _h, List.length_cons]; omega
    · simp [Cursor.pass_length, _h]

/-! ## Scalars without quotes -/

/-- True at a character that belongs to a scalar without quotes: a colon does not
before a gap, and in a flow collection neither do its marks nor a colon before one. -/
def isPlainAt (inFlow : Bool) (c : Char) (behind : List Char) : Bool :=
  if c = ':' then !(atGap behind || (inFlow && atFlowMark behind))
  else !(inFlow && isFlowMark c)

/-- True at a word that no scalar in a flow collection holds: a hyphen before a mark. -/
def isLoneHyphen (inFlow : Bool) : List Char → Bool
  | '-' :: behind => inFlow && atFlowMark behind
  | _ => false

/-- The text of a scalar without quotes, with what was read before and the gap behind
it, and the place where it ends. In block collections further lines are indented by at
least `indent`. -/
def plainText (inFlow : Bool) (indent : Int) (done : List Char) (gap : Option Gap) (c : Cursor) :
    Option (List Char × Cursor) :=
  match _h : c.text with
  | [] => some (done.reverse, c)
  | d :: rest =>
    let between := gap.getD (.inLine [])
    if isBreak d then plainText inFlow indent done (some between.newline) c.newline
    else if isBlank d then
      if d = '\t' ∧ between.isInNewLine ∧ (c.column : Int) < indent then
        if isIdle (d :: rest) then plainText inFlow indent done (some between) c.toLineEnd
        else none
      else plainText inFlow indent done (some (between.blank d)) (c.skip 1)
    else if gap.isSome ∧
        ((!inFlow ∧ (c.column : Int) < indent) ∨ c.atAnyMarker ∨ d = '#') then
      some (done.reverse, c)
    else if gap.isSome ∧ isLoneHyphen inFlow (d :: rest) then none
    else if isPlainAt inFlow d rest then
      plainText inFlow indent (d :: between.text ++ done) none (c.pass 1)
    else some (done.reverse, c)
  termination_by c.text.length
  decreasing_by
    · have := c.newline_length; simp only [_h, List.length_cons] at this ⊢; omega
    · have := Cursor.toLineEnd_length _h ‹_›
      simp only [_h, List.length_cons]; omega
    · simp [Cursor.skip_length, _h]
    · simp [Cursor.pass_length, _h]

/-- A scalar without quotes and the place where it ends. Inside a flow collection it
starts at column `indent` or later. -/
def plain? (inFlow : Bool) (indent : Int) (c : Cursor) : Option (List Char × Cursor) :=
  if inFlow ∧ ((c.column : Int) < indent ∨ isLoneHyphen inFlow c.text) then none
  else
    match plainText inFlow indent [] none c with
    | some ([], _) => none
    | other => other

end RowFilter.Yaml
