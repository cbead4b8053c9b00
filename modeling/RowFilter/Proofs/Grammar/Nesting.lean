import RowFilter.Proofs.Grammar.Skeleton

/-!
# How deep parentheses are nested in a text

Another scanner that knows nothing of the grammar: it counts the parentheses that are open,
and passes over those in literals. What it meets in a written part is bounded by the height
of the part, because each piece leads it back to where it was:

> `returns_render`: a written part is balanced, and opens no more than its height;
> `enclosed_render`: the text of a list is one pair of parentheses around all the rest.

This needs words without parentheses and double quotes (`Unmarked`).
-/

namespace RowFilter

namespace Text

/-- What a scanner that counts parentheses has to know of the text in front. -/
structure Count where
  place : Place
  /-- The parentheses opened outside of literals, less those closed there. -/
  level : Int
  deriving DecidableEq, Repr

namespace Count

/-- The count behind one more character. -/
def step : Count → Char → Count
  | ⟨.outside, level⟩, c =>
    if c = '"' then ⟨.inside, level⟩
    else if c = '(' then ⟨.outside, level + 1⟩
    else if c = ')' then ⟨.outside, level - 1⟩
    else ⟨.outside, level⟩
  | ⟨.inside, level⟩, c =>
    if c = '"' then ⟨.outside, level⟩
    else if c = '\\' then ⟨.behindBackslash, level⟩
    else ⟨.inside, level⟩
  | ⟨.behindBackslash, level⟩, _ => ⟨.inside, level⟩

/-- The count behind more text. -/
def through (count : Count) (text : List Char) : Count := text.foldl step count

theorem through_append (count : Count) (a b : List Char) :
    count.through (a ++ b) = (count.through a).through b := List.foldl_append

end Count

/-- The count behind a text from its start. -/
def count (text : List Char) : Count := Count.through ⟨.outside, 0⟩ text

/-- True of a text that leads a scanner back to where it was, with at most `height` more
parentheses open on the way, and never fewer. -/
structure Returns (place : Place) (height : Nat) (text : List Char) : Prop where
  back : ∀ level, Count.through ⟨place, level⟩ text = ⟨place, level⟩
  between : ∀ level front, front <+: text →
    level ≤ (Count.through ⟨place, level⟩ front).level ∧
      (Count.through ⟨place, level⟩ front).level ≤ level + height

variable {place : Place} {height : Nat} {text : List Char}

theorem returns_nil (place : Place) (height : Nat) : Returns place height [] where
  back _ := rfl
  between level front hfront := by
    rw [List.prefix_nil.mp hfront]
    show level ≤ level ∧ level ≤ level + height
    omega

theorem Returns.mono {more : Nat} (h : Returns place height text) (hle : height ≤ more) :
    Returns place more text where
  back := h.back
  between level front hfront := by
    have := h.between level front hfront
    omega

/-- Of two texts, neither is left anything open by the other. -/
theorem Returns.append {a b : List Char} (ha : Returns place height a)
    (hb : Returns place height b) : Returns place height (a ++ b) where
  back level := by rw [Count.through_append, ha.back, hb.back]
  between level front hfront := by
    -- the front ends in `a`, or takes all of it and ends in `b`
    rcases List.prefix_or_prefix_of_prefix hfront (List.prefix_append a b) with hin | ⟨more, rfl⟩
    · exact ha.between level front hin
    · rw [Count.through_append, ha.back]
      exact hb.between level more ((List.prefix_append_right_inj a).mp hfront)

/-- A character that makes no difference to the scanner. -/
theorem returns_singleton {c : Char} (h : ∀ level, Count.step ⟨place, level⟩ c = ⟨place, level⟩) :
    Returns place 0 [c] where
  back := h
  between level front hfront := by
    have hthrough : Count.through ⟨place, level⟩ front = ⟨place, level⟩ := by
      rcases List.prefix_cons_iff.mp hfront with rfl | ⟨tail, rfl, htail⟩
      · rfl
      · rw [List.prefix_nil.mp htail]
        exact h level
    rw [hthrough]
    show level ≤ level ∧ level ≤ level + (0 : Nat)
    omega

/-- A text between two characters that lead the scanner away and back: a literal between its
quotes, or a list between its parentheses. -/
theorem Returns.enclose {away : Place} {opening closing : Char} {opened : Nat}
    (hopen : ∀ level, Count.step ⟨place, level⟩ opening = ⟨away, level + opened⟩)
    (hclose : ∀ level, Count.step ⟨away, level + opened⟩ closing = ⟨place, level⟩)
    (h : Returns away height text) :
    Returns place (height + opened) (opening :: (text ++ [closing])) := by
  have hcons : ∀ level front, Count.through ⟨place, level⟩ (opening :: front)
      = Count.through ⟨away, level + opened⟩ front := by
    intro level front
    show Count.through (Count.step ⟨place, level⟩ opening) front = _
    rw [hopen]
  have hback : ∀ level,
      Count.through ⟨place, level⟩ (opening :: (text ++ [closing])) = ⟨place, level⟩ := by
    intro level
    rw [hcons, Count.through_append, h.back]
    exact hclose level
  refine ⟨hback, fun level front hfront => ?_⟩
  -- the front is empty, or all of it, or the opening character and a front of `text`
  rcases List.prefix_cons_iff.mp hfront with rfl | ⟨tail, rfl, htail⟩
  · show level ≤ level ∧ level ≤ level + (height + opened : Nat)
    omega
  · rcases List.prefix_concat_iff.mp htail with rfl | hin
    · rw [hback]
      dsimp only
      omega
    · have := h.between (level + opened) tail hin
      rw [hcons]
      omega

/-! ## Literals -/

/-- Behind a backslash a character has no meaning of its own. -/
theorem returns_backslash (c : Char) : Returns .inside 0 ['\\', c] where
  back _ := rfl
  between level front hfront := by
    have hlevel : (Count.through ⟨.inside, level⟩ front).level = level := by
      rcases List.prefix_cons_iff.mp hfront with rfl | ⟨tail, rfl, htail⟩
      · rfl
      · rcases List.prefix_cons_iff.mp htail with rfl | ⟨last, rfl, hlast⟩
        · rfl
        · rw [List.prefix_nil.mp hlast]
          rfl
    rw [hlevel]
    omega

theorem returns_plain {c : Char} (hq : c ≠ '"') (hb : c ≠ '\\') : Returns .inside 0 [c] := by
  refine returns_singleton fun level => ?_
  rw [Count.step, if_neg hq, if_neg hb]

/-- The written form of a character does not lead out of a literal. -/
theorem returns_escape (c : Char) : Returns .inside 0 (Quoted.escape c) := by
  rcases Quoted.escape_cases c with ⟨he, hq, hb, -⟩ | ⟨letter, he, -⟩ | ⟨high, low, hh, hl, he⟩
  · rw [he]
    exact returns_plain hq hb
  · rw [he]
    exact returns_backslash letter
  · obtain ⟨hq, hb, -⟩ := Quoted.hexDigit_spec hh
    obtain ⟨hq', hb', -⟩ := Quoted.hexDigit_spec hl
    have hzero : Returns .inside 0 ['0'] := returns_plain (by decide) (by decide)
    rw [he]
    exact (returns_backslash 'u').append
      (hzero.append (hzero.append ((returns_plain hq hb).append (returns_plain hq' hb'))))

/-- A literal opens nothing, whatever its text is. -/
theorem returns_encode (text : List Char) : Returns .outside 0 (Quoted.encode text) := by
  have body : Returns .inside 0 (Quoted.body text) := by
    induction text with
    | nil => exact returns_nil .inside 0
    | cons c text ih =>
      rw [Quoted.body, List.flatMap_cons]
      exact (returns_escape c).append ih
  have hopen : ∀ level, Count.step ⟨.outside, level⟩ '"' = ⟨.inside, level + (0 : Nat)⟩ :=
    fun level => by rw [Count.step, if_pos rfl]; simp
  have hclose : ∀ level, Count.step ⟨.inside, level + (0 : Nat)⟩ '"' = ⟨.outside, level⟩ :=
    fun level => by rw [Count.step, if_pos rfl]; simp
  have htext : Quoted.encode text = '"' :: (Quoted.body text ++ ['"']) := by simp [Quoted.encode]
  rw [htext]
  exact body.enclose hopen hclose

/-! ## One pair of parentheses -/

theorem Returns.parenthesize (h : Returns .outside height text) :
    Returns .outside (height + 1) ('(' :: (text ++ [')'])) := by
  refine h.enclose (fun level => rfl) fun level => ?_
  show Count.mk .outside (level + 1 - 1) = _
  rw [Int.add_sub_cancel]

/-- True of a text that is one pair of parentheses around all the rest: it starts with one,
which is not closed before the text ends; behind the text all are closed, and all literals;
and no more than `height` are open anywhere. -/
structure Enclosed (height : Nat) (text : List Char) : Prop where
  opens : text.head? = some '('
  stays : ∀ front, front <+: text → front ≠ [] → front ≠ text → 0 < (count front).level
  closes : count text = ⟨.outside, 0⟩
  within : ∀ front, front <+: text → (count front).level ≤ height

theorem Returns.enclosed (h : Returns .outside height text) :
    Enclosed (height + 1) ('(' :: (text ++ [')'])) where
  opens := rfl
  stays front hfront hne hpart := by
    rcases List.prefix_cons_iff.mp hfront with rfl | ⟨tail, rfl, htail⟩
    · exact absurd rfl hne
    · rcases List.prefix_concat_iff.mp htail with rfl | hin
      · exact absurd rfl hpart
      · have hone : 1 ≤ (Count.through ⟨.outside, 1⟩ tail).level := (h.between 1 tail hin).1
        show 0 < (Count.through ⟨.outside, 1⟩ tail).level
        omega
  closes := h.parenthesize.back 0
  within front hfront := by
    have := (h.parenthesize.between 0 front hfront).2
    rw [Int.zero_add] at this
    exact this

theorem Enclosed.mono {more : Nat} (h : Enclosed height text) (hle : height ≤ more) :
    Enclosed more text where
  opens := h.opens
  stays := h.stays
  closes := h.closes
  within front hfront := by
    have := h.within front hfront
    omega

end Text

namespace SExpr

/-- True of a word that holds neither a parenthesis nor a double quote. -/
def Unmarked (chars : List Char) : Prop := '(' ∉ chars ∧ ')' ∉ chars ∧ '"' ∉ chars

mutual

/-- How many lists of a part lie in one another. -/
def height : SExpr → Nat
  | .word _ => 0
  | .quoted _ => 0
  | .list head rest => max (height head) (heightOf rest) + 1

/-- How many lists of any of several parts lie in one another. -/
def heightOf : List SExpr → Nat
  | [] => 0
  | part :: rest => max (height part) (heightOf rest)

end

theorem returns_word : ∀ {chars : List Char}, Unmarked chars → Text.Returns .outside 0 chars
  | [], _ => Text.returns_nil .outside 0
  | c :: chars, h => by
    obtain ⟨hopen, hclose, hquote⟩ := h
    have hc : Text.Returns .outside 0 [c] := Text.returns_singleton fun level => by
      rw [Text.Count.step, if_neg (List.ne_of_not_mem_cons hquote).symm,
        if_neg (List.ne_of_not_mem_cons hopen).symm, if_neg (List.ne_of_not_mem_cons hclose).symm]
    exact hc.append (returns_word ⟨List.not_mem_of_not_mem_cons hopen,
      List.not_mem_of_not_mem_cons hclose, List.not_mem_of_not_mem_cons hquote⟩)

mutual

/-- A written part is balanced, and opens no more parentheses than its lists have. -/
theorem returns_render : ∀ part : SExpr, part.EachWord Unmarked →
    Text.Returns .outside part.height part.render
  | .word chars, h => returns_word h
  | .quoted chars, _ => Text.returns_encode chars
  | .list head rest, h => by
    have hhead := (returns_render head h.1).mono (Nat.le_max_left _ (heightOf rest))
    have hrest := (returns_renderMore rest h.2).mono (Nat.le_max_right head.height _)
    exact (hhead.append hrest).parenthesize

theorem returns_renderMore : ∀ parts : List SExpr, EachWordOf Unmarked parts →
    Text.Returns .outside (heightOf parts) (renderMore parts)
  | [], _ => Text.returns_nil .outside 0
  | part :: rest, h => by
    have hspace : Text.Returns .outside 0 [' '] := Text.returns_singleton fun _ => rfl
    have hpart := (returns_render part h.1).mono (Nat.le_max_left _ (heightOf rest))
    have hrest := (returns_renderMore rest h.2).mono (Nat.le_max_right part.height _)
    exact (hspace.mono (Nat.zero_le _)).append (hpart.append hrest)

end

/-- The text of a list is one pair of parentheses around all the rest. -/
theorem enclosed_render {head : SExpr} {rest : List SExpr}
    (h : (SExpr.list head rest).EachWord Unmarked) :
    Text.Enclosed (SExpr.list head rest).height (SExpr.list head rest).render := by
  have hhead := (returns_render head h.1).mono (Nat.le_max_left _ (heightOf rest))
  have hrest := (returns_renderMore rest h.2).mono (Nat.le_max_right head.height _)
  exact (hhead.append hrest).enclosed

end SExpr

end RowFilter
