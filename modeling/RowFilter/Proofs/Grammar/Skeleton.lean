import RowFilter.Proofs.Grammar.SExpr

/-!
# The skeleton of a text

A scanner that knows nothing of the grammar but its literals: a double quote opens one
and closes it, and inside a literal a backslash protects the next character. Each
literal is replaced by one placeholder; what is left is the skeleton of the text.

> `skeleton?_render`: the skeleton of a written part is its `outline`, in which every
> literal is a placeholder, so no literal ends early or swallows what follows it.

This needs words without double quotes (`NoQuote`), which is what names could break.
-/

namespace RowFilter

namespace Text

/-- What a scanner of literals has to know of the text in front. -/
inductive Place where
  | outside
  | inside
  /-- Behind a backslash in a literal. -/
  | behindBackslash
  deriving DecidableEq, Repr

/-- What a literal is replaced by. A quote cannot be left over in a skeleton otherwise. -/
def placeholder : Char := '"'

/-- The skeleton of a text that starts at some place; nothing if the text ends inside a
literal. -/
def skeletonFrom : Place → List Char → Option (List Char)
  | .outside, [] => some []
  | .inside, [] => none
  | .behindBackslash, [] => none
  | .outside, c :: rest =>
    if c = '"' then (skeletonFrom .inside rest).map (placeholder :: ·)
    else (skeletonFrom .outside rest).map (c :: ·)
  | .inside, c :: rest =>
    if c = '"' then skeletonFrom .outside rest
    else if c = '\\' then skeletonFrom .behindBackslash rest
    else skeletonFrom .inside rest
  | .behindBackslash, _ :: rest => skeletonFrom .inside rest

/-- The skeleton of a text; nothing if a literal is not closed. -/
def skeleton? (text : String) : Option (List Char) := skeletonFrom .outside text.toList

/-- Text without quotes is its own skeleton. -/
theorem skeletonFrom_noQuote (rest : List Char) :
    ∀ chars : List Char, '"' ∉ chars →
      skeletonFrom .outside (chars ++ rest) = (skeletonFrom .outside rest).map (chars ++ ·)
  | [], _ => by
    cases h : skeletonFrom .outside rest <;> simp [h]
  | c :: chars, h => by
    have hc : c ≠ '"' := fun he => h (by rw [he]; exact List.mem_cons_self ..)
    have hchars : '"' ∉ chars := fun hm => h (List.mem_cons_of_mem _ hm)
    rw [List.cons_append, skeletonFrom, if_neg hc, skeletonFrom_noQuote rest chars hchars,
      Option.map_map]
    rfl

/-- The written form of a character does not lead out of a literal. -/
theorem skeletonFrom_escape (c : Char) (rest : List Char) :
    skeletonFrom .inside (Quoted.escape c ++ rest) = skeletonFrom .inside rest := by
  have plain : ∀ {d : Char} {more : List Char}, d ≠ '"' → d ≠ '\\' →
      skeletonFrom .inside (d :: more) = skeletonFrom .inside more := by
    intro d more hq hb
    rw [skeletonFrom, if_neg hq, if_neg hb]
  -- behind a backslash the scanner looks at nothing, and hexadecimal digits do not end it
  rcases Quoted.escape_cases c with ⟨he, hq, hb, -⟩ | ⟨letter, he, -⟩ | ⟨high, low, hh, hl, he⟩
  · rw [he]
    exact plain hq hb
  · rw [he]
    rfl
  · obtain ⟨hq, hb, -⟩ := Quoted.hexDigit_spec hh
    obtain ⟨hq', hb', -⟩ := Quoted.hexDigit_spec hl
    rw [he]
    show skeletonFrom .inside
      ('0' :: '0' :: Quoted.hexDigit high :: Quoted.hexDigit low :: rest) = _
    rw [plain (by decide) (by decide), plain (by decide) (by decide), plain hq hb, plain hq' hb']

/-- A literal is one placeholder, whatever its text is. -/
theorem skeletonFrom_encode (text rest : List Char) :
    skeletonFrom .outside (Quoted.encode text ++ rest)
      = (skeletonFrom .outside rest).map (placeholder :: ·) := by
  have body : ∀ text : List Char, skeletonFrom .inside (Quoted.body text ++ '"' :: rest)
      = skeletonFrom .outside rest := by
    intro text
    induction text with
    | nil => rfl
    | cons c text ih =>
      rw [Quoted.body, List.flatMap_cons, List.append_assoc, skeletonFrom_escape]
      exact ih
  have htext : Quoted.encode text ++ rest = '"' :: (Quoted.body text ++ '"' :: rest) := by
    simp [Quoted.encode]
  rw [htext, skeletonFrom, if_pos rfl, body]

end Text

namespace SExpr

/-- True of a word that holds no double quote. -/
def NoQuote (chars : List Char) : Prop := ∀ c ∈ chars, c ≠ '"'

mutual

/-- The text of a part with a placeholder for each literal. -/
def outline : SExpr → List Char
  | .word chars => chars
  | .quoted _ => [Text.placeholder]
  | .list head rest => '(' :: outline head ++ outlineMore rest ++ [')']

/-- The text of further parts with a placeholder for each literal. -/
def outlineMore : List SExpr → List Char
  | [] => []
  | part :: rest => ' ' :: outline part ++ outlineMore rest

end

mutual

theorem skeletonFrom_render : ∀ (part : SExpr) (rest : List Char), part.EachWord NoQuote →
    Text.skeletonFrom .outside (part.render ++ rest)
      = (Text.skeletonFrom .outside rest).map (part.outline ++ ·)
  | .word chars, rest, h => Text.skeletonFrom_noQuote rest chars fun hm => h _ hm rfl
  | .quoted chars, rest, _ => Text.skeletonFrom_encode chars rest
  | .list head more, rest, h => by
    have htext : (SExpr.list head more).render ++ rest
        = ['('] ++ (head.render ++ (renderMore more ++ ([')'] ++ rest))) := by
      simp [render]
    rw [htext, Text.skeletonFrom_noQuote _ ['('] (by decide), skeletonFrom_render head _ h.1,
      skeletonFrom_renderMore more _ h.2, Text.skeletonFrom_noQuote _ [')'] (by decide)]
    cases Text.skeletonFrom .outside rest with
    | none => rfl
    | some skeleton => simp [outline]

theorem skeletonFrom_renderMore : ∀ (parts : List SExpr) (rest : List Char),
    EachWordOf NoQuote parts →
    Text.skeletonFrom .outside (renderMore parts ++ rest)
      = (Text.skeletonFrom .outside rest).map (outlineMore parts ++ ·)
  | [], rest, _ => by
    cases h : Text.skeletonFrom .outside rest <;> simp [renderMore, outlineMore, h]
  | part :: parts, rest, h => by
    have htext : renderMore (part :: parts) ++ rest
        = [' '] ++ (part.render ++ (renderMore parts ++ rest)) := by
      simp [renderMore]
    rw [htext, Text.skeletonFrom_noQuote _ [' '] (by decide), skeletonFrom_render part _ h.1,
      skeletonFrom_renderMore parts rest h.2]
    cases Text.skeletonFrom .outside rest with
    | none => rfl
    | some skeleton => simp [outlineMore]

end

/-- A written part closes all its literals, and its skeleton is its outline. -/
theorem skeleton?_render {part : SExpr} (h : part.EachWord NoQuote) :
    Text.skeleton? (String.ofList part.render) = some part.outline := by
  have hwhole := skeletonFrom_render part [] h
  rw [List.append_nil] at hwhole
  rw [Text.skeleton?, String.toList_ofList, hwhole]
  show some (part.outline ++ []) = _
  rw [List.append_nil]

/-! ## The characters of a text -/

mutual

/-- What holds of the characters of all words and literals, of the parentheses and of
the space holds of all characters of a text. -/
theorem forall_mem_render {good : Char → Prop} (frame : good '(' ∧ good ')' ∧ good ' ')
    (literals : ∀ text, ∀ c ∈ Text.Quoted.encode text, good c) :
    ∀ part : SExpr, (part.EachWord fun word => ∀ c ∈ word, good c) → ∀ c ∈ part.render, good c
  | .word chars, h, c, hc => h c hc
  | .quoted chars, _, c, hc => literals chars c hc
  | .list head more, h, c, hc => by
    rw [render] at hc
    rcases List.mem_append.mp hc with hc | hc
    · rcases List.mem_append.mp hc with hc | hc
      · rcases List.mem_cons.mp hc with rfl | hc
        · exact frame.1
        · exact forall_mem_render frame literals head h.1 c hc
      · exact forall_mem_renderMore frame literals more h.2 c hc
    · rw [List.mem_singleton.mp hc]
      exact frame.2.1

theorem forall_mem_renderMore {good : Char → Prop} (frame : good '(' ∧ good ')' ∧ good ' ')
    (literals : ∀ text, ∀ c ∈ Text.Quoted.encode text, good c) :
    ∀ parts : List SExpr, (EachWordOf (fun word => ∀ c ∈ word, good c) parts) →
      ∀ c ∈ renderMore parts, good c
  | [], _, c, hc => absurd hc (by simp [renderMore])
  | part :: parts, h, c, hc => by
    rw [renderMore] at hc
    rcases List.mem_append.mp hc with hc | hc
    · rcases List.mem_cons.mp hc with rfl | hc
      · exact frame.2.2
      · exact forall_mem_render frame literals part h.1 c hc
    · exact forall_mem_renderMore frame literals parts h.2 c hc

end

end SExpr

end RowFilter
