import RowFilter.Json.Reader
import RowFilter.Proofs.Text.Quoted

/-!
# Reading a text from its front

What the reader makes of a text that begins in a known way, whatever stands behind it. The
text that is left comes with a proof that it is shorter, of which `Gives` only says that
there is one.

> `gives_string`: a written literal is read as its text, up to its closing quote;
> `gives_array`, `gives_object`: a container takes a level, and its parts are read one
> behind the other.
-/

namespace RowFilter.Json

variable {levels : Nat} {text rest after : List Char}

/-- True of an outcome that is a value, and what is left of the text. -/
def Gives {α : Type} {text : List Char} (outcome : Except Fault (α × Shorter text)) (value : α)
    (rest : List Char) : Prop :=
  ∃ h, outcome = .ok (value, ⟨rest, h⟩)

theorem skipSpace_cons {c : Char} (h : isSpace c = false) (rest : List Char) :
    skipSpace (c :: rest) = ⟨c :: rest, Nat.le_refl _⟩ :=
  Subtype.ext (List.dropWhile_cons_of_neg (by simp [h]))

/-! ## Strings -/

theorem gives_readString {value : List Char} (h : Text.Quoted.scan text = .ok (value, rest)) :
    Gives (readString text) (String.ofList value) rest := by
  refine ⟨Text.Quoted.scan_length h, ?_⟩
  unfold readString
  split
  next fault unread hfault => rw [h] at hfault; exact absurd hfault (by simp)
  next found after hfound =>
    rw [h] at hfound
    obtain ⟨rfl, rfl⟩ := Prod.mk.inj (Except.ok.inj hfound)
    rfl

/-- A text that is a literal behind its opening quote is a string. -/
theorem gives_string_of_scan {value : List Char}
    (h : Text.Quoted.scan text = .ok (value, rest)) :
    Gives (readValue levels ('"' :: text)) (.string (String.ofList value)) rest := by
  obtain ⟨hlt, hstring⟩ := gives_readString h
  rw [readValue, skipSpace_cons (by decide)]
  refine ⟨Nat.lt_succ_of_lt hlt, ?_⟩
  simp [hstring]

/-- A literal is its opening quote, its body and its closing quote. -/
theorem encode_append (text rest : List Char) :
    Text.Quoted.encode text ++ rest = '"' :: (Text.Quoted.body text ++ '"' :: rest) := by
  simp [Text.Quoted.encode]

/-- A written literal is read as its text. -/
theorem gives_string (value : String) (rest : List Char) :
    Gives (readValue levels (Text.Quoted.encode value.toList ++ rest)) (.string value) rest := by
  have hstring : Gives (readValue levels _) _ rest :=
    gives_string_of_scan (Text.Quoted.scan_body rest value.toList)
  rw [String.ofList_toList] at hstring
  rwa [encode_append]

/-! ## Containers -/

theorem gives_array {items : List Json} (h : Gives (readFirstItem levels text) items rest) :
    Gives (readValue (levels + 1) ('[' :: text)) (.array items) rest := by
  obtain ⟨hlt, hitems⟩ := h
  rw [readValue, skipSpace_cons (by decide)]
  refine ⟨Nat.lt_succ_of_lt hlt, ?_⟩
  simp [hitems]

theorem gives_object {members : List (String × Json)}
    (h : Gives (readFirstMember levels text) members rest) :
    Gives (readValue (levels + 1) ('\x7b' :: text)) (.object (Keyed.ofPairs members)) rest := by
  obtain ⟨hlt, hmembers⟩ := h
  rw [readValue, skipSpace_cons (by decide)]
  refine ⟨Nat.lt_succ_of_lt hlt, ?_⟩
  simp [hmembers]

theorem gives_moreItems_nil : Gives (readMoreItems levels (']' :: rest)) [] rest := by
  rw [readMoreItems, skipSpace_cons (by decide)]
  exact ⟨Nat.lt_succ_self _, by simp⟩

/-- The items of an array are one value and more of them. -/
theorem gives_firstItem {c : Char} {item : Json} {more : List Json} (hspace : isSpace c = false)
    (hc : c ≠ ']') (hitem : Gives (readValue levels (c :: text)) item after)
    (hmore : Gives (readMoreItems levels after) more rest) :
    Gives (readFirstItem levels (c :: text)) (item :: more) rest := by
  obtain ⟨hafter, hitem⟩ := hitem
  obtain ⟨hrest, hmore⟩ := hmore
  rw [readFirstItem, skipSpace_cons hspace]
  refine ⟨Nat.lt_trans hrest hafter, ?_⟩
  simp [hc, hitem, hmore]

/-- A key is a literal and a colon; the literal is opened here, as the reader finds it. -/
theorem gives_readKey (key : String) (rest : List Char) :
    Gives (readKey ('"' :: (Text.Quoted.body key.toList ++ '"' :: ':' :: rest))) key rest := by
  obtain ⟨hlt, hstring⟩ := gives_readString (Text.Quoted.scan_body (':' :: rest) key.toList)
  rw [String.ofList_toList] at hstring
  rw [readKey]
  simp only [hstring, skipSpace_cons (show isSpace ':' = false by decide)]
  refine ⟨?_, rfl⟩
  rw [List.length_cons] at hlt ⊢
  omega

theorem gives_firstMember_nil : Gives (readFirstMember levels ('\x7d' :: rest)) [] rest := by
  rw [readFirstMember, skipSpace_cons (by decide)]
  exact ⟨Nat.lt_succ_self _, by simp⟩

theorem gives_moreMembers_nil : Gives (readMoreMembers levels ('\x7d' :: rest)) [] rest := by
  rw [readMoreMembers, skipSpace_cons (by decide)]
  exact ⟨Nat.lt_succ_self _, by simp⟩

/-- The members of an object are one under its key and more of them. -/
theorem gives_firstMember (key : String) {item : Json} {more : List (String × Json)}
    (hitem : Gives (readValue levels text) item after)
    (hmore : Gives (readMoreMembers levels after) more rest) :
    Gives (readFirstMember levels (Text.Quoted.encode key.toList ++ ':' :: text))
      ((key, item) :: more) rest := by
  rw [encode_append]
  obtain ⟨hkeyed, hkey⟩ := gives_readKey key text
  obtain ⟨hafter, hitem⟩ := hitem
  obtain ⟨hrest, hmore⟩ := hmore
  rw [readFirstMember, skipSpace_cons (by decide)]
  refine ⟨by omega, ?_⟩
  simp [hkey, hitem, hmore]

/-- Further members are one behind a comma and more of them. -/
theorem gives_moreMembers (key : String) {item : Json} {more : List (String × Json)}
    (hitem : Gives (readValue levels text) item after)
    (hmore : Gives (readMoreMembers levels after) more rest) :
    Gives (readMoreMembers levels (',' :: (Text.Quoted.encode key.toList ++ ':' :: text)))
      ((key, item) :: more) rest := by
  rw [encode_append]
  obtain ⟨hkeyed, hkey⟩ := gives_readKey key text
  obtain ⟨hafter, hitem⟩ := hitem
  obtain ⟨hrest, hmore⟩ := hmore
  rw [readMoreMembers, skipSpace_cons (by decide)]
  refine ⟨by rw [List.length_cons]; omega, ?_⟩
  simp [skipSpace_cons (show isSpace '"' = false by decide), hkey, hitem, hmore]

/-! ## Whole texts -/

theorem readFront_of_gives {value : Json} (h : Gives (readValue maxDepth text) value rest) :
    readFront text = .ok (value, rest) := by
  obtain ⟨_, hvalue⟩ := h
  rw [readFront, hvalue]

theorem parseChars_of_gives {value : Json} (h : Gives (readValue maxDepth text) value []) :
    parseChars text = .ok value := by
  rw [parseChars, readFront_of_gives h]
  rfl

end RowFilter.Json
