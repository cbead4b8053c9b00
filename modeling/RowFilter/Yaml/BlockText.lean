import RowFilter.Json.Number
import RowFilter.Yaml.Cursor

/-!
# Block texts

A block text is a scalar that follows its mark in lines of its own, all indented by
the same width. A literal one keeps its line ends. A folded one joins its lines by
spaces, except around empty lines and lines that start with a blank.

> `blockText?`: the text behind a mark, and the place behind it.

Behind the mark may stand how wide the indentation is, and how the line ends at the
end of the text are kept: the last one, none (`-`), or all of them (`+`).
-/

namespace RowFilter.Yaml

/-- Which line ends at the end of a block text are kept. -/
inductive Chomp where
  | clip
  | strip
  | keep
  deriving DecidableEq, Repr

/-- What the signs behind a mark say. -/
def chomp? : Char → Option Chomp
  | '-' => some .strip
  | '+' => some .keep
  | _ => none

/-- The header behind a mark: how the end is kept, the width of the indentation beyond
the surrounding one, zero if it is not given, and how many characters that takes. The
two parts stand in any order. -/
def blockHeader? (text : List Char) : Option (Chomp × Nat × Nat) :=
  let width (chomp : Option Chomp) (c : Char) (behind : List Char) :
      Option (Chomp × Nat × Nat) :=
    match chomp, Json.digit? c with
    | _, some 0 => none
    | some chomp, some n => some (chomp, n, 2)
    | none, some n =>
      match behind.head?.bind chomp? with
      | some chomp => some (chomp, n, 2)
      | none => some (.clip, n, 1)
    | some chomp, none => some (chomp, 0, 1)
    | none, none => some (.clip, 0, 0)
  match text with
  | [] => some (.clip, 0, 0)
  | c :: rest =>
    match chomp? c, rest with
    | some chomp, d :: behind => width (some chomp) d behind
    | some chomp, [] => some (chomp, 0, 1)
    | none, behind => width none c behind

/-- Line ends crossed, and the widest column reached on the way. -/
structure Indentation where
  breaks : Nat
  widest : Nat
  behind : Cursor

/-- Crosses the spaces of the indentation, up to column `width` if it is given, and
empty lines. -/
def indentation (width : Option Nat) (breaks widest : Nat) (c : Cursor) : Indentation :=
  match _h : c.text with
  | [] => ⟨breaks, max widest c.column, c⟩
  | d :: _ =>
    if d = ' ' ∧ width.all (c.column < ·) then indentation width breaks widest (c.skip 1)
    else if isBreak d then
      indentation width (breaks + 1) (max widest c.column) c.newline
    else ⟨breaks, max widest c.column, c⟩
  termination_by c.text.length
  decreasing_by
    · simp [Cursor.skip_length, _h]
    · have := c.newline_length; simp only [_h, List.length_cons] at this ⊢; omega

theorem indentation_length (width : Option Nat) (breaks widest : Nat) (c : Cursor) :
    (indentation width breaks widest c).behind.text.length ≤ c.text.length := by
  fun_induction indentation width breaks widest c with
  | case1 => simp
  | case2 breaks widest c d rest h _ ih => simp [Cursor.skip_length, h] at ih ⊢; omega
  | case3 breaks widest c d rest h _ _ ih =>
    have := c.newline_length
    simp only [h, List.length_cons] at this ⊢; omega
  | case4 => simp_all

/-- Line ends. -/
def breaksText (n : Nat) : List Char := List.replicate n '\n'

/-- The lines of a block text read so far. -/
structure BlockLines where
  /-- The text without the line ends behind its last line, its last character first. -/
  text : List Char
  /-- Whether the last line has an end. -/
  ended : Bool
  /-- The empty lines behind it. -/
  breaks : Nat
  /-- Whether the last line starts with a blank. -/
  indented : Bool
  behind : Cursor

/-- What joins the next line of a block text to those before it: spaces or line feeds,
never both. -/
def BlockLines.joint (folded indented : Bool) (lines : BlockLines) : List Char :=
  if folded && lines.ended && !lines.indented && !indented then
    if lines.breaks = 0 then [' '] else breaksText lines.breaks
  else (if lines.ended then ['\n'] else []) ++ breaksText lines.breaks

/-- Reads the lines of a block text that are indented by `width`. -/
def blockLines (folded : Bool) (width : Nat) (lines : BlockLines) : BlockLines :=
  match _h : lines.behind.text with
  | [] => lines
  | d :: _ =>
    if lines.behind.column ≠ width ∨ (width = 0 ∧ lines.behind.atMarker '.') ∨ isBreak d then lines
    else
      let line := lines.behind.text.takeWhile fun c => !isBreak c
      let text := line.reverse ++ lines.joint folded (isBlank d) ++ lines.text
      let behind := lines.behind.toLineEnd
      if behind.text.isEmpty then ⟨text, false, 0, isBlank d, behind⟩
      else
        let next := indentation (some width) 0 0 behind.newline
        blockLines folded width ⟨text, true, next.breaks, isBlank d, next.behind⟩
  termination_by lines.behind.text.length
  decreasing_by
    have h₁ := Cursor.toLineEnd_length (c := lines.behind) _h (by simp_all)
    have h₂ := lines.behind.toLineEnd.newline_length
    have h₃ := indentation_length (some width) 0 0 lines.behind.toLineEnd.newline
    simp only [_h, List.length_cons]; omega

/-- The text of a block whose text ends before its first line. -/
def emptyBlock (chomp : Chomp) (ended : Bool) (breaks : Nat) : List Char :=
  match chomp with
  | .strip => []
  | .clip => if ended then ['\n'] else []
  | .keep => if ended then breaksText (max breaks 1) else []

/-- The text of a block with the line ends at its end. -/
def BlockLines.chomped (chomp : Chomp) (width : Nat) (lines : BlockLines) : List Char :=
  let last := lines.behind.text.isEmpty && max width 1 ≤ lines.behind.column
  let ending := (if lines.ended then ['\n'] else []) ++ (if last then ['\n'] else [])
  match chomp with
  | .strip => lines.text.reverse
  | .clip => lines.text.reverse ++ ending
  | .keep => lines.text.reverse ++ ending ++ breaksText lines.breaks

/-- The text of a block, from behind its mark on, and the place behind it. The
surrounding part is indented by `indent`. The first line that is not empty gives the
indentation if the header does not. -/
def blockText? (folded : Bool) (indent : Int) (c : Cursor) : Option (List Char × Cursor) :=
  match blockHeader? c.text with
  | none => none
  | some (chomp, given, length) =>
    match (c.pass length).skipTail? with
    | none => none
    | some header =>
      if !atLineEnd header.text then none
      else
        let ended := !header.text.isEmpty
        let body := if ended then header.newline else header
        if body.text.head? = some '\t' then none
        else
          let wanted := (max indent 0).toNat + given
          let fixed := if given = 0 then none else some wanted
          let first := indentation fixed 0 0 body
          let width :=
            if given = 0 then
              max (max first.widest (indent + 1).toNat) (if 0 < indent then 1 else 0)
            else wanted
          let start := first.behind
          if start.text.isEmpty then
            some (emptyBlock chomp (header.line < start.line) first.breaks, start)
          else if start.column < width ∧ indent < start.column then none
          else
            let lines := blockLines folded width ⟨[], false, first.breaks, false, start⟩
            some (lines.chomped chomp width, lines.behind)

end RowFilter.Yaml
