import RowFilter.Proofs.Decimal.Plain
import RowFilter.Proofs.Whitelist

/-!
# The words of a search

A text is words with gaps around them, and every character stands in a word or in a gap.
There is a gap, possibly empty, in front of the first word and behind the last one, and
between two words there is at least one blank (`SpacedOut`). A text can be written in this
way once only:

> `words_of_spacedOut`, `exists_spacedOut`: its words are the ones that `words` finds.

So a search asks for exactly the words that a reader of the text sees:

> `search_asks_for_each_word`: a search of blanks only is none, and any other is one
> conjunction with a condition for each word, in order. A blank ends a word and begins the
> next, so nothing in front of it has an effect on what comes behind.
-/

namespace RowFilter

namespace Text

/-- True of a text of blanks only; the empty text is one. -/
def IsGap (gap : List Char) : Prop := ∀ c ∈ gap, isBlank c = true

/-- True of a text without blanks that is not empty. -/
def IsWord (word : List Char) : Prop := word ≠ [] ∧ ∀ c ∈ word, isBlank c = false

/-- Words written one after the other, each with what stands behind it. -/
def spread (parts : List (List Char × List Char)) : List Char :=
  parts.flatMap fun part => part.1 ++ part.2

/-- A text is a gap and then words, each with a gap behind it, which only behind the last
word may be empty. -/
structure SpacedOut (text front : List Char) (parts : List (List Char × List Char)) : Prop where
  written : text = front ++ spread parts
  front : IsGap front
  words : ∀ part ∈ parts, IsWord part.1
  gaps : ∀ part ∈ parts, IsGap part.2
  apart : ∀ part ∈ parts.dropLast, part.2 ≠ []

/-! ## Finding the words -/

theorem words_cons_of_blank {c : Char} (h : isBlank c = true) (text : List Char) :
    words (c :: text) = words text := by
  rw [words, if_pos h]

/-- A gap in front changes nothing. -/
theorem words_gap_append {gap : List Char} (h : IsGap gap) (text : List Char) :
    words (gap ++ text) = words text := by
  induction gap with
  | nil => rfl
  | cons c gap ih =>
    obtain ⟨hc, hgap⟩ := List.forall_mem_cons.mp h
    rw [List.cons_append, words_cons_of_blank hc]
    exact ih hgap

/-- A word is found whole if a blank ends it. -/
theorem words_word_append {word rest : List Char} (h : IsWord word)
    (hrest : ∀ c ∈ rest.head?, isBlank c = true) : words (word ++ rest) = word :: words rest := by
  obtain ⟨hne, hword⟩ := h
  cases word with
  | nil => exact absurd rfl hne
  | cons c word =>
    obtain ⟨hc, hmore⟩ := List.forall_mem_cons.mp hword
    have hrun : ∀ c ∈ word, (!isBlank c) = true := by
      intro c hmem
      rw [hmore c hmem]
      rfl
    have hend : ∀ c ∈ rest.head?, (!isBlank c) = false := by
      intro c hmem
      rw [hrest c hmem]
      rfl
    obtain ⟨htake, hdrop⟩ := run_append hrun hend
    rw [List.cons_append, words, if_neg (by simp [hc]), htake, hdrop]

/-- What is left of a text when the characters that are not blank are taken off its front
begins with a blank. -/
theorem isBlank_of_mem_head?_dropWhile (text : List Char) :
    ∀ c ∈ (text.dropWhile (!isBlank ·)).head?, isBlank c = true := by
  intro c hmem
  have hstop := List.head?_dropWhile_not (fun c => !isBlank c) text
  rw [hmem] at hstop
  simpa using hstop

/-- The word at the front of a text that does not begin with a blank. -/
theorem isWord_cons_takeWhile {c : Char} (h : ¬isBlank c = true) (text : List Char) :
    IsWord (c :: text.takeWhile (!isBlank ·)) := by
  refine ⟨by simp, ?_⟩
  rw [List.forall_mem_cons]
  refine ⟨by simpa using h, ?_⟩
  intro d hd
  have hkept := List.mem_takeWhile_imp hd
  simpa using hkept

/-- A text that begins with a word. -/
theorem cons_eq_word_append (c : Char) (text : List Char) :
    c :: text = (c :: text.takeWhile (!isBlank ·)) ++ text.dropWhile (!isBlank ·) := by
  rw [List.cons_append, List.takeWhile_append_dropWhile]

/-- **A blank parts a text.** The words of the whole are those in front of it and then those
behind it. -/
theorem words_append_blank {c : Char} (h : isBlank c = true) (before after : List Char) :
    words (before ++ c :: after) = words before ++ words after := by
  induction before using words.induct with
  | case1 => rw [List.nil_append, words_cons_of_blank h, words, List.nil_append]
  | case2 d before hd ih =>
    rw [List.cons_append, words_cons_of_blank hd, words_cons_of_blank hd]
    exact ih
  | case3 d before hd ih =>
    have hword := isWord_cons_takeWhile hd before
    have hhead := isBlank_of_mem_head?_dropWhile before
    -- the word ends at the blank at the latest
    have hends : ∀ e ∈ (before.dropWhile (!isBlank ·) ++ c :: after).head?, isBlank e = true := by
      intro e he
      cases hleft : before.dropWhile (!isBlank ·) with
      | nil =>
        rw [hleft] at he
        obtain rfl := Option.some.inj he
        exact h
      | cons f left =>
        rw [hleft] at he hhead
        exact hhead e he
    rw [cons_eq_word_append d before, List.append_assoc, words_word_append hword hends,
      words_word_append hword hhead, ih, List.cons_append]

/-! ## Words and gaps -/

/-- Words with gaps between them are found. -/
theorem words_spread {parts : List (List Char × List Char)} (hwords : ∀ part ∈ parts, IsWord part.1)
    (hgaps : ∀ part ∈ parts, IsGap part.2) (hapart : ∀ part ∈ parts.dropLast, part.2 ≠ []) :
    words (spread parts) = parts.map Prod.fst := by
  induction parts with
  | nil => rw [spread, List.flatMap_nil, words, List.map_nil]
  | cons part parts ih =>
    obtain ⟨word, gap⟩ := part
    obtain ⟨hword, hwords⟩ := List.forall_mem_cons.mp hwords
    obtain ⟨hgap, hgaps⟩ := List.forall_mem_cons.mp hgaps
    have hmore : ∀ part ∈ parts.dropLast, part.2 ≠ [] := by
      intro part hpart
      cases parts with
      | nil => exact absurd hpart (by simp)
      | cons next parts => exact hapart part (List.mem_cons_of_mem _ hpart)
    -- where the gap is empty nothing follows
    have hends : ∀ c ∈ (gap ++ spread parts).head?, isBlank c = true := by
      intro c hc
      cases gap with
      | nil =>
        cases parts with
        | nil => exact absurd hc (by simp [spread])
        | cons next parts => exact absurd rfl (hapart (word, []) (by simp))
      | cons d gap =>
        obtain rfl := Option.some.inj hc
        exact hgap d (by simp)
    show words ((word ++ gap) ++ spread parts) = word :: parts.map Prod.fst
    rw [List.append_assoc, words_word_append hword hends, words_gap_append hgap,
      ih hwords hgaps hmore]

/-- However a text is written as words and gaps, its words are the ones found. -/
theorem words_of_spacedOut {text front : List Char} {parts : List (List Char × List Char)}
    (h : SpacedOut text front parts) : parts.map Prod.fst = words text := by
  rw [h.written, words_gap_append h.front, words_spread h.words h.gaps h.apart]

/-- Every text can be written as words and gaps. -/
theorem exists_spacedOut (text : List Char) : ∃ front parts, SpacedOut text front parts := by
  induction text using words.induct with
  | case1 => exact ⟨[], [], ⟨rfl, by simp [IsGap], by simp, by simp, by simp⟩⟩
  | case2 c text hc ih =>
    obtain ⟨front, parts, h⟩ := ih
    refine ⟨c :: front, parts, ⟨?_, ?_, h.words, h.gaps, h.apart⟩⟩
    · rw [h.written, List.cons_append]
    · exact List.forall_mem_cons.mpr ⟨hc, h.front⟩
  | case3 c text hc ih =>
    obtain ⟨front, parts, h⟩ := ih
    have hword := isWord_cons_takeWhile hc text
    have hhead := isBlank_of_mem_head?_dropWhile text
    refine ⟨[], (c :: text.takeWhile (!isBlank ·), front) :: parts, ⟨?_, ?_, ?_, ?_, ?_⟩⟩
    · show c :: text = ((c :: text.takeWhile (!isBlank ·)) ++ front) ++ spread parts
      rw [List.append_assoc, ← h.written]
      exact cons_eq_word_append c text
    · intro d hd
      exact absurd hd (by simp)
    · exact List.forall_mem_cons.mpr ⟨hword, h.words⟩
    · exact List.forall_mem_cons.mpr ⟨h.front, h.gaps⟩
    · cases parts with
      | nil =>
        intro part hpart
        exact absurd hpart (by simp)
      | cons next parts =>
        refine List.forall_mem_cons.mpr ⟨?_, h.apart⟩
        rintro rfl
        -- without a gap the next word would begin with the blank that ended this one
        obtain ⟨hne, hnext⟩ := h.words next (by simp)
        obtain ⟨d, rest, hd⟩ := List.exists_cons_of_ne_nil hne
        have hblank : isBlank d = true := by
          refine hhead d ?_
          rw [h.written, spread, List.flatMap_cons, hd]
          rfl
        have hplain := hnext d (by rw [hd]; simp)
        exact absurd (hplain.symm.trans hblank) (by decide)

/-- A text has no word if and only if it is a gap. -/
theorem words_eq_nil_iff {text : List Char} : words text = [] ↔ IsGap text := by
  obtain ⟨front, parts, h⟩ := exists_spacedOut text
  constructor
  · intro hnil
    rw [← words_of_spacedOut h] at hnil
    rw [h.written, List.map_eq_nil_iff.mp hnil, spread, List.flatMap_nil, List.append_nil]
    exact h.front
  · intro hgap
    have hwords := words_gap_append hgap []
    rwa [List.append_nil, words] at hwords

end Text

/-! ## The search box -/

/-- The condition that a symbol contains a word. -/
def wordCondition (target : Symbol) (word : List Char) : Operation :=
  .contains target (.string (String.ofList word))

/-- A search is the conditions on its words, joined. -/
theorem searchFilter_of_words {text : String} {first : List Char} {rest : List (List Char)}
    (h : Text.words text.toList = first :: rest) (target : Symbol) :
    searchFilter text target
      = some (.logic .and (wordCondition target first) (rest.map (wordCondition target))) := by
  rw [searchFilter, h]
  rfl

theorem searchFilter_eq_none_iff {text : String} {target : Symbol} :
    searchFilter text target = none ↔ Text.IsGap text.toList := by
  rw [← Text.words_eq_nil_iff]
  cases h : Text.words text.toList with
  | nil =>
    rw [searchFilter, h]
    exact iff_of_true rfl rfl
  | cons first rest =>
    rw [searchFilter_of_words h]
    exact iff_of_false (by simp) (by simp)

/-- **A search asks for each word of its text.** There is no filter for a search if and only
if all characters of the text are blank. Otherwise it is one conjunction of conditions on the
target, one for each word of the text in order, and however the text is written as words and
gaps, its words are these. What stands on either side of a blank is searched for as if it
stood alone. -/
theorem search_asks_for_each_word (target : Symbol) :
    (∀ text : String, searchFilter text target = none ↔ Text.IsGap text.toList) ∧
    (∀ text : String, ¬Text.IsGap text.toList →
      ∃ first rest,
        searchFilter text target
          = some (.logic .and (wordCondition target first) (rest.map (wordCondition target))) ∧
        (∃ front parts, Text.SpacedOut text.toList front parts) ∧
        ∀ front parts, Text.SpacedOut text.toList front parts →
          parts.map Prod.fst = first :: rest) ∧
    ∀ (before after : String) (c : Char), Text.isBlank c = true →
      (searchFilter (before ++ String.singleton c ++ after) target).toList.flatMap Operation.leaves
        = (searchFilter before target).toList.flatMap Operation.leaves
          ++ (searchFilter after target).toList.flatMap Operation.leaves := by
  refine ⟨fun text => searchFilter_eq_none_iff, ?_, ?_⟩
  · intro text hgap
    obtain ⟨first, rest, hwords⟩ := List.exists_cons_of_ne_nil (mt Text.words_eq_nil_iff.mp hgap)
    refine ⟨first, rest, searchFilter_of_words hwords target, Text.exists_spacedOut _, ?_⟩
    intro front parts h
    rw [Text.words_of_spacedOut h, hwords]
  · intro before after c hc
    have hchars : (before ++ String.singleton c ++ after).toList
        = before.toList ++ c :: after.toList := by
      simp
    rw [leaves_searchFilter, leaves_searchFilter, leaves_searchFilter, hchars,
      Text.words_append_blank hc, List.map_append]

namespace Builtin

/-- The column of the names. -/
def nameColumn : Symbol := .column "variables.name"

/-- Three words, the first two of them apart by an ideographic space. -/
def wideSearch : String := " gdp\u3000per  capita"

/-- The three words with the gaps behind them. -/
def wideParts : List (List Char × List Char) :=
  [(['g', 'd', 'p'], ['\u3000']), (['p', 'e', 'r'], [' ', ' ']),
    (['c', 'a', 'p', 'i', 't', 'a'], [])]

theorem wideSearch_spacedOut : Text.SpacedOut wideSearch.toList [' '] wideParts where
  written := by simp [wideSearch, wideParts, Text.spread]
  front := by simp [Text.IsGap, Text.isBlank]
  words := by simp [wideParts, Text.IsWord, Text.isBlank]
  gaps := by simp [wideParts, Text.IsGap, Text.isBlank]
  apart := by simp [wideParts]

/-- The ideographic space parts two words as any other blank does, and a tab and a space that
does not break make no search. -/
theorem wideSearch_asks :
    ¬Text.IsGap wideSearch.toList ∧ Text.isBlank '\u3000' = true ∧
    searchFilter wideSearch nameColumn
      = some (.logic .and (.contains nameColumn (.string "gdp"))
          [.contains nameColumn (.string "per"), .contains nameColumn (.string "capita")]) ∧
    (searchFilter (" gdp" ++ String.singleton '\u3000' ++ "per  capita") nameColumn).toList.flatMap
        Operation.leaves
      = (searchFilter " gdp" nameColumn).toList.flatMap Operation.leaves
        ++ (searchFilter "per  capita" nameColumn).toList.flatMap Operation.leaves ∧
    searchFilter "\t\u00a0" nameColumn = none := by
  obtain ⟨hnone, hsome, hparted⟩ := search_asks_for_each_word nameColumn
  have hgap : ¬Text.IsGap wideSearch.toList := by
    intro hgap
    exact absurd (hgap 'g' (by simp [wideSearch])) (by decide)
  have hblank : Text.isBlank '\u3000' = true := by decide
  obtain ⟨first, rest, hfilter, -, hunique⟩ := hsome wideSearch hgap
  obtain ⟨rfl, rfl⟩ := List.cons.inj (hunique _ _ wideSearch_spacedOut)
  refine ⟨hgap, hblank, ?_, hparted _ _ _ hblank, (hnone _).mpr ?_⟩
  · rw [hfilter]
    rfl
  · simp [Text.IsGap, Text.isBlank]

end Builtin

end RowFilter
