import Mathlib.Data.List.Induction
import RowFilter.Grammar.Render
import RowFilter.Proofs.Json.Reading

/-!
# A literal ends where it is meant to

A filter carries texts of its user between double quotes, and what reads the filter has to
find the closing one. A quote is escaped if an odd number of backslashes stands in front of
it; with an even number they escape each other.

> `Spells.quotesEscaped`: every quote inside a spelling is escaped, and the closing one not;
> `literals_read_back`: so the literal of any text, whatever stands behind it, is read as the
> text by the reader of JSON here and by every other one.

Nothing is asked of another reader but that it reads each literal as the text that is spelled
in it (`ReadsLiterals`).
-/

namespace RowFilter

namespace Text.Quoted

/-- The number of backslashes that a text ends in. -/
def backslashesAtEnd (text : List Char) : Nat := (text.reverse.takeWhile (· = '\\')).length

/-- True of a text in which every double quote is escaped, and behind which one would not be. -/
structure QuotesEscaped (text : List Char) : Prop where
  inside : ∀ front back, text = front ++ '"' :: back → backslashesAtEnd front % 2 = 1
  behind : backslashesAtEnd text % 2 = 0

theorem backslashesAtEnd_concat (text : List Char) (c : Char) :
    backslashesAtEnd (text ++ [c]) = if c = '\\' then backslashesAtEnd text + 1 else 0 := by
  unfold backslashesAtEnd
  rw [List.reverse_concat, List.takeWhile_cons]
  by_cases hc : c = '\\'
  · rw [if_pos (by simp [hc]), if_pos hc, List.length_cons]
  · rw [if_neg (by simp [hc]), if_neg hc, List.length_nil]

/-- An even number of backslashes does not matter to what is behind. -/
theorem backslashesAtEnd_append {front : List Char} (h : backslashesAtEnd front % 2 = 0)
    (text : List Char) :
    backslashesAtEnd (front ++ text) % 2 = backslashesAtEnd text % 2 := by
  induction text using List.reverseRecOn with
  | nil => rw [List.append_nil, h]; rfl
  | append_singleton text c ih =>
    rw [← List.append_assoc, backslashesAtEnd_concat, backslashesAtEnd_concat]
    by_cases hc : c = '\\'
    · rw [if_pos hc, if_pos hc]
      omega
    · rw [if_neg hc, if_neg hc]

theorem quotesEscaped_nil : QuotesEscaped [] where
  inside front back h := absurd h (by simp)
  behind := rfl

theorem QuotesEscaped.append {a b : List Char} (ha : QuotesEscaped a) (hb : QuotesEscaped b) :
    QuotesEscaped (a ++ b) where
  behind := (backslashesAtEnd_append ha.behind b).trans hb.behind
  inside front back h := by
    -- the quote stands in `b`, behind all of `a`, or in `a`
    rcases List.append_eq_append_iff.mp h with ⟨front', rfl, hquote⟩ | ⟨back', hquote, htail⟩
    · rw [backslashesAtEnd_append ha.behind]
      exact hb.inside front' back hquote
    · cases back' with
      | nil => exact absurd (hb.inside [] back htail.symm) (by decide)
      | cons c back' =>
        obtain ⟨rfl, -⟩ := List.cons.inj htail
        exact ha.inside front back' hquote

/-- Characters that stand for themselves. -/
theorem quotesEscaped_plain : ∀ {text : List Char}, (∀ c ∈ text, c ≠ '"' ∧ c ≠ '\\') →
    QuotesEscaped text
  | [], _ => quotesEscaped_nil
  | c :: text, h => by
    obtain ⟨⟨hquote, hbackslash⟩, htext⟩ := List.forall_mem_cons.mp h
    have hc : QuotesEscaped [c] := by
      refine ⟨fun front back hsplit => ?_, ?_⟩
      · cases front with
        | nil => exact absurd (List.cons.inj hsplit).1 hquote
        | cons d front => exact absurd (List.cons.inj hsplit).2 (by simp)
      · rw [← List.nil_append [c], backslashesAtEnd_concat, if_neg hbackslash]
    exact hc.append (quotesEscaped_plain htext)

/-- A character behind a backslash, be it a quote or another backslash. -/
theorem quotesEscaped_backslash (c : Char) : QuotesEscaped ['\\', c] where
  inside front back h := by
    cases front with
    | nil => exact absurd (List.cons.inj h).1 (by decide)
    | cons d front =>
      obtain ⟨rfl, htail⟩ := List.cons.inj h
      cases front with
      | nil => rfl
      | cons e front => exact absurd (List.cons.inj htail).2 (by simp)
  behind := by
    rw [← List.singleton_append, backslashesAtEnd_concat]
    split <;> rfl

theorem Escapes.quotesEscaped {piece : List Char} {c : Char} (h : Escapes piece c) :
    QuotesEscaped ('\\' :: piece) := by
  have digitsEscaped : ∀ {digits : List Char} {n : Nat}, HexUnit digits n →
      QuotesEscaped ('\\' :: 'u' :: digits) := fun hdigits =>
    (quotesEscaped_backslash 'u').append
      (quotesEscaped_plain fun d hd => ⟨(hdigits.plain d hd).1, (hdigits.plain d hd).2.1⟩)
  cases h with
  | letter _ => exact quotesEscaped_backslash _
  | code hcode => exact digitsEscaped hcode
  | pair hhigh hlow _ _ _ => exact (digitsEscaped hhigh).append (digitsEscaped hlow)

/-- **A literal ends with the first quote that is not escaped.** -/
theorem Spells.quotesEscaped {spelling text : List Char} (h : Spells spelling text) :
    QuotesEscaped spelling := by
  induction h with
  | nil => exact quotesEscaped_nil
  | plain hquote hbackslash _ _ ih =>
    exact (quotesEscaped_plain (List.forall_mem_singleton.mpr ⟨hquote, hbackslash⟩)).append ih
  | escaped hpiece _ ih => exact hpiece.quotesEscaped.append ih

/-- True of a reader that gives what a literal at the front of a text spells, and the text
behind it. What it does with other texts is left open. -/
def ReadsLiterals (read : List Char → Option (String × List Char)) : Prop :=
  ∀ spelling text rest, Spells spelling text →
    read ('"' :: (spelling ++ '"' :: rest)) = some (String.ofList text, rest)

end Text.Quoted

/-- The string at the front of a JSON text, and the text behind it. -/
def Json.stringAtFront? (text : List Char) : Option (String × List Char) :=
  match Json.readFront text with
  | .ok (.string value, rest) => some (value, rest)
  | _ => none

theorem Json.readsLiterals_stringAtFront? : Text.Quoted.ReadsLiterals Json.stringAtFront? := by
  intro spelling text rest h
  have hstring : Gives (readValue maxDepth _) _ rest :=
    gives_string_of_scan (Text.Quoted.scan_of_spells h rest)
  rw [stringAtFront?, readFront_of_gives hstring]

/-- **The literal of a text reads back.** Between its two quotes every quote is escaped, the
closing one is not, and no character is a raw control. The same literal is written for the
path of a place in the document. With any text behind it, the literal is read as the text,
and exactly the text behind it is left: by the reader of JSON values, and by whatever else
reads literals. -/
theorem literals_read_back (text : String) :
    ∃ inside : List Char,
      (Atom.string text).render = '"' :: inside ++ ['"'] ∧
      (∀ document, (Symbol.pointer document text).render
        = '(' :: Token.jsonExtract.chars ++ ' ' :: document.toList ++ ' ' ::
          (Atom.string text).render ++ [')']) ∧
      Text.Quoted.QuotesEscaped inside ∧ (∀ c ∈ inside, 0x20 ≤ c.toNat) ∧
      (∀ rest, Json.readFront ((Atom.string text).render ++ rest) = .ok (.string text, rest)) ∧
      ∀ read, Text.Quoted.ReadsLiterals read →
        ∀ rest, read ((Atom.string text).render ++ rest) = some (text, rest) := by
  have hspells := Text.Quoted.spells_body text.toList
  refine ⟨Text.Quoted.body text.toList, rfl, fun _ => rfl, hspells.quotesEscaped,
    hspells.printable, fun rest => ?_, fun read hread rest => ?_⟩
  · exact Json.readFront_of_gives (Json.gives_string text rest)
  · rw [Atom.render, Json.encode_append, hread _ _ _ hspells, String.ofList_toList]

/-- A quote, an escape that is none, a control character, a character beyond U+FFFF and a
backslash at the end. -/
def trickyText : String := "\"\\u0041\x01😀\\"

/-- The closing quote of its literal stands behind two backslashes, and the next literal behind
it is left for the next reader. -/
theorem trickyText_reads_back :
    (Atom.string trickyText).render = "\"\\\"\\\\u0041\\u0001😀\\\\\"".toList ∧
    (Text.Quoted.backslashesAtEnd ['\\'] % 2 = 1 ∧ 0x20 ≤ '\\'.toNat) ∧
    Json.readFront ((Atom.string trickyText).render ++ " \"\\\")".toList)
      = .ok (.string trickyText, " \"\\\")".toList) ∧
    Text.Quoted.ReadsLiterals Json.stringAtFront? ∧
    Json.stringAtFront? ((Atom.string trickyText).render ++ " \"\\\")".toList)
      = some (trickyText, " \"\\\")".toList) := by
  have hrender : (Atom.string trickyText).render
      = "\"\\\"\\\\u0041\\u0001😀\\\\\"".toList := by decide
  obtain ⟨inside, hliteral, -, hescaped, hprintable, hfront, hread⟩ := literals_read_back trickyText
  -- the first two characters of the literal's inside are the backslash and the first quote
  obtain ⟨back, rfl⟩ : ∃ back, inside = ['\\'] ++ '"' :: back := by
    rw [hrender] at hliteral
    obtain rfl := List.append_cancel_right ((List.cons.inj hliteral).2.symm.trans
      (show _ = "\\\"\\\\u0041\\u0001😀\\\\".toList ++ ['"'] by decide))
    exact ⟨_, rfl⟩
  exact ⟨hrender, ⟨hescaped.inside _ back rfl, hprintable _ (List.mem_cons_self ..)⟩, hfront _,
    Json.readsLiterals_stringAtFront?, hread _ Json.readsLiterals_stringAtFront? _⟩

end RowFilter
