import RowFilter.Json.Number
import RowFilter.Proofs.Decimal.Plain
import RowFilter.Proofs.Text.Quoted

/-!
# Words, literals and parentheses

Below its operators a filter's text is a word, a double-quoted literal, or a pair of
parentheses around at least one such part, with one space between two parts. `read`
knows these three forms and nothing of operators, columns or numbers.

> `read_render`: what was written is read again, and reading stops where the written
> text ends.

A word is whatever stands between delimiters, so this needs words that are not empty
and hold no delimiter (`PlainWord`), and behind the text one of the two characters that
can follow a part (`Stops`).
-/

namespace RowFilter

open Json (Shorter)

/-- A text of the grammar below its operators. -/
inductive SExpr where
  | word (chars : List Char)
  | quoted (chars : List Char)
  | list (head : SExpr) (rest : List SExpr)
  deriving Repr

namespace SExpr

/-- The characters that end a word. -/
def isDelimiter (c : Char) : Bool := c == ' ' || c == '(' || c == ')' || c == '"'

/-- The characters of a word. -/
def isInner (c : Char) : Bool := !isDelimiter c

mutual

/-- The text of a part. -/
def render : SExpr → List Char
  | .word chars => chars
  | .quoted chars => Text.Quoted.encode chars
  | .list head rest => '(' :: render head ++ renderMore rest ++ [')']

/-- The text of further parts, a space in front of each. -/
def renderMore : List SExpr → List Char
  | [] => []
  | part :: rest => ' ' :: render part ++ renderMore rest

end

/-! ## Reading -/

mutual

/-- The part at the front of a text. -/
def read (text : List Char) : Option (SExpr × Shorter text) :=
  match text with
  | [] => none
  | c :: rest =>
    if c = '"' then
      match h : Text.Quoted.scan rest with
      | .error _ => none
      | .ok (chars, after) =>
        some (.quoted chars, ⟨after, by
          have := Text.Quoted.scan_length h
          simp only [List.length_cons]; omega⟩)
    else if c = '(' then
      match read rest with
      | none => none
      | some (head, ⟨afterHead, h₁⟩) =>
        match readMore afterHead with
        | none => none
        | some (more, ⟨after, h₂⟩) =>
          some (.list head more, ⟨after, by simp only [List.length_cons]; omega⟩)
    else if isDelimiter c then none
    else
      some (.word (c :: rest.takeWhile isInner), ⟨rest.dropWhile isInner, by
        have := (List.dropWhile_suffix (l := rest) isInner).length_le
        simp only [List.length_cons]; omega⟩)
  termination_by text.length

/-- The further parts of a list, up to its closing parenthesis. -/
def readMore (text : List Char) : Option (List SExpr × Shorter text) :=
  match text with
  | [] => none
  | c :: rest =>
    if c = ')' then some ([], ⟨rest, by simp⟩)
    else if c = ' ' then
      match read rest with
      | none => none
      | some (part, ⟨afterPart, h₁⟩) =>
        match readMore afterPart with
        | none => none
        | some (more, ⟨after, h₂⟩) =>
          some (part :: more, ⟨after, by simp only [List.length_cons]; omega⟩)
    else none
  termination_by text.length

end

/-! ## Reading what was written -/

mutual

/-- True of a part all of whose words are good. -/
def EachWord (good : List Char → Prop) : SExpr → Prop
  | .word chars => good chars
  | .quoted _ => True
  | .list head rest => EachWord good head ∧ EachWordOf good rest

/-- True of parts all of whose words are good. -/
def EachWordOf (good : List Char → Prop) : List SExpr → Prop
  | [] => True
  | part :: rest => EachWord good part ∧ EachWordOf good rest

end

/-- True of a word that is not empty and holds no delimiter. -/
def PlainWord (chars : List Char) : Prop := chars ≠ [] ∧ ∀ c ∈ chars, isDelimiter c = false

/-- True of a text that can follow a part. -/
def Stops (text : List Char) : Prop := ∀ c ∈ text.head?, c = ' ' ∨ c = ')'

theorem stops_cons {c : Char} {text : List Char} (h : c = ' ' ∨ c = ')') : Stops (c :: text) := by
  intro d hd
  rwa [← Option.some.inj hd]

theorem stops_renderMore (rest : List SExpr) (text : List Char) :
    Stops (renderMore rest ++ ')' :: text) := by
  cases rest with
  | nil => exact stops_cons (Or.inr rfl)
  | cons part rest => exact stops_cons (Or.inl rfl)

theorem read_word {chars rest : List Char} (h : PlainWord chars) (hr : Stops rest) :
    ∃ hl, read (chars ++ rest) = some (.word chars, ⟨rest, hl⟩) := by
  obtain ⟨hne, hall⟩ := h
  have hdelimiter : ∀ c ∈ rest.head?, isInner c = false := by
    intro c hc
    rcases hr c hc with rfl | rfl <;> decide
  cases chars with
  | nil => exact absurd rfl hne
  | cons c chars =>
    have hc : isDelimiter c = false := hall c (List.mem_cons_self ..)
    have hq : c ≠ '"' := by rintro rfl; exact absurd hc (by decide)
    have hp : c ≠ '(' := by rintro rfl; exact absurd hc (by decide)
    have hinner : ∀ d ∈ chars, isInner d = true := fun d hd => by
      simp [isInner, hall d (List.mem_cons_of_mem _ hd)]
    -- the word is the whole run, as what follows it starts with a delimiter
    obtain ⟨htake, hdrop⟩ := Text.run_append hinner hdelimiter
    have hl : rest.length < (c :: (chars ++ rest)).length := by
      simp only [List.length_cons, List.length_append]; omega
    refine ⟨hl, ?_⟩
    show read (c :: (chars ++ rest)) = _
    rw [read]
    simp only [if_neg hq, if_neg hp, hc, htake, hdrop, Bool.false_eq_true, if_false]

theorem read_quoted (chars rest : List Char) :
    ∃ hl, read (Text.Quoted.encode chars ++ rest) = some (.quoted chars, ⟨rest, hl⟩) := by
  have htext : Text.Quoted.encode chars ++ rest
      = '"' :: (Text.Quoted.body chars ++ '"' :: rest) := by simp [Text.Quoted.encode]
  have hscan := Text.Quoted.scan_body rest chars
  rw [htext, read, if_pos rfl]
  split
  next fault hf => rw [hscan] at hf; exact absurd hf (by simp)
  next found after hf =>
    rw [hscan] at hf
    obtain ⟨rfl, rfl⟩ := Prod.mk.inj (Except.ok.inj hf)
    have hl := Text.Quoted.scan_length hscan
    exact ⟨by simp only [List.length_cons]; omega, rfl⟩

mutual

/-- A part reads back, whatever follows it. -/
theorem read_render : ∀ (part : SExpr) (rest : List Char), part.EachWord PlainWord →
    Stops rest →
    ∃ hl, read (part.render ++ rest) = some (part, ⟨rest, hl⟩)
  | .word chars, rest, h, hr => by
    rw [render]
    rw [EachWord] at h
    exact read_word h hr
  | .quoted chars, rest, _, _ => by
    rw [render]
    exact read_quoted chars rest
  | .list head more, rest, h, _ => by
    rw [EachWord] at h
    -- a list ends with its parenthesis, so what follows the list does not matter here,
    -- while its head needs to know what follows: a space or that parenthesis
    obtain ⟨hl₁, hhead⟩ :=
      read_render head (renderMore more ++ ')' :: rest) h.1 (stops_renderMore more rest)
    obtain ⟨hl₂, hmore⟩ := readMore_render more rest h.2
    have htext : (SExpr.list head more).render ++ rest
        = '(' :: (head.render ++ (renderMore more ++ ')' :: rest)) := by
      simp [render]
    rw [htext]
    refine ⟨by simp only [List.length_cons]; omega, ?_⟩
    rw [read, if_neg (by decide), if_pos rfl]
    simp only [hhead, hmore]

/-- Further parts read back up to the parenthesis that closes their list. -/
theorem readMore_render : ∀ (parts : List SExpr) (rest : List Char),
    EachWordOf PlainWord parts →
    ∃ hl, readMore (renderMore parts ++ ')' :: rest) = some (parts, ⟨rest, hl⟩)
  | [], rest, _ => by
    show ∃ hl, readMore (')' :: rest) = _
    rw [readMore, if_pos rfl]
    exact ⟨_, rfl⟩
  | part :: parts, rest, h => by
    rw [EachWordOf] at h
    obtain ⟨hl₁, hpart⟩ :=
      read_render part (renderMore parts ++ ')' :: rest) h.1 (stops_renderMore parts rest)
    obtain ⟨hl₂, hparts⟩ := readMore_render parts rest h.2
    have htext : renderMore (part :: parts) ++ ')' :: rest
        = ' ' :: (part.render ++ (renderMore parts ++ ')' :: rest)) := by
      simp [renderMore]
    rw [htext]
    refine ⟨by simp only [List.length_cons]; omega, ?_⟩
    rw [readMore, if_neg (by decide), if_pos rfl]
    simp only [hpart, hparts]

end

end SExpr

end RowFilter
