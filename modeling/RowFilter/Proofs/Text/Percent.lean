import RowFilter.Proofs.Text.Quoted
import RowFilter.Text.Percent

/-!
# A percent-encoded text reads back

The reader is strict: a percent sign must stand in front of two hexadecimal digits, and the
bytes must be UTF-8. What is encoded byte by byte is read byte by byte, so it is enough to
look at the 256 bytes.

> `decode?_encode`: decoding undoes encoding, for every text;
> `mem_encode`: an encoded text is letters, digits and the five characters `-_.~%`.
-/

namespace RowFilter.Text.Percent

/-- The bytes that a percent-encoded text stands for. A character other than the percent
sign stands for its own bytes. -/
def decodeBytes? : List Char → Option (List UInt8)
  | [] => some []
  | '%' :: high :: low :: rest =>
    match Quoted.hexValue? high, Quoted.hexValue? low with
    | some high, some low => (decodeBytes? rest).map (UInt8.ofNat (high * 16 + low) :: ·)
    | _, _ => none
  | c :: rest =>
    if c = '%' then none else (decodeBytes? rest).map (String.utf8EncodeChar c ++ ·)

/-- The text that a percent-encoded text stands for. -/
def decode? (chars : List Char) : Option String :=
  (decodeBytes? chars).bind fun bytes => String.fromUTF8? ⟨bytes.toArray⟩

/-- True of the characters of an encoded text. -/
def isEncoded (c : Char) : Bool := c.isAlphanum || "-_.~%".toList.contains c

/-! ## One byte -/

/-- A fact on bytes can be looked up in the table of all of them. -/
theorem forall_byte {p : UInt8 → Prop} (h : ∀ n : Fin 256, p (UInt8.ofNat n.val)) (b : UInt8) :
    p b := by
  have hb := h ⟨b.toNat, b.toNat_lt⟩
  rwa [UInt8.ofNat_toNat] at hb

/-- A byte that stands for itself is one ASCII character, and no percent sign. -/
theorem plain_spec : ∀ b : UInt8, isPlain b = true →
    Char.ofNat b.toNat ≠ '%' ∧ String.utf8EncodeChar (Char.ofNat b.toNat) = [b] ∧
      isEncoded (Char.ofNat b.toNat) = true :=
  forall_byte (by decide +kernel)

/-- The digits are read with the value that they were written for. -/
theorem hexDigit_spec {n : Nat} (h : n < 16) :
    Quoted.hexValue? (hexDigit n) = some n ∧ isEncoded (hexDigit n) = true := by
  have all : ∀ n : Fin 16,
      Quoted.hexValue? (hexDigit n.val) = some n.val ∧ isEncoded (hexDigit n.val) = true := by
    decide
  exact all ⟨n, h⟩

/-- The written form of a byte is read as the byte, whatever follows. -/
theorem decodeBytes?_encodeByte (b : UInt8) {rest : List Char} {bytes : List UInt8}
    (h : decodeBytes? rest = some bytes) :
    decodeBytes? (encodeByte b ++ rest) = some (b :: bytes) := by
  unfold encodeByte
  split
  next hplain =>
    obtain ⟨hpercent, hself, -⟩ := plain_spec b hplain
    show decodeBytes? (Char.ofNat b.toNat :: rest) = _
    rw [decodeBytes?, if_neg hpercent, h, hself]
    · rfl
    · exact fun _ _ _ hc => absurd hc hpercent
  next =>
    have hb := b.toNat_lt
    have hhigh := (hexDigit_spec (n := b.toNat / 16) (by omega)).1
    have hlow := (hexDigit_spec (n := b.toNat % 16) (by omega)).1
    have hvalue : b.toNat / 16 * 16 + b.toNat % 16 = b.toNat := by omega
    show decodeBytes? ('%' :: hexDigit (b.toNat / 16) :: hexDigit (b.toNat % 16) :: rest) = _
    rw [decodeBytes?]
    simp only [hhigh, hlow, h, hvalue, Option.map_some, UInt8.ofNat_toNat]

/-! ## A text -/

/-- Bytes are read as they were written. -/
theorem decodeBytes?_flatMap : ∀ bytes : List UInt8,
    decodeBytes? (bytes.flatMap encodeByte) = some bytes
  | [] => rfl
  | b :: bytes => by
    rw [List.flatMap_cons]
    exact decodeBytes?_encodeByte b (decodeBytes?_flatMap bytes)

/-- The bytes of a text are UTF-8 for it. -/
theorem fromUTF8?_toUTF8 (text : String) : String.fromUTF8? text.toUTF8 = some text := by
  rw [String.fromUTF8?, String.toUTF8_eq_toByteArray, dif_pos text.isValidUTF8]
  rfl

/-- Decoding undoes encoding. -/
theorem decode?_encode (text : String) : decode? (encode text) = some text := by
  rw [decode?, encode, decodeBytes?_flatMap, Option.bind_some]
  exact fromUTF8?_toUTF8 text

/-- An encoded text has only characters without a meaning of their own in a query string,
and percent signs. -/
theorem mem_encode {text : String} {c : Char} (h : c ∈ encode text) : isEncoded c = true := by
  obtain ⟨b, -, hc⟩ := List.mem_flatMap.mp h
  unfold encodeByte at hc
  split at hc
  next hplain =>
    rw [List.mem_singleton.mp hc]
    exact (plain_spec b hplain).2.2
  next =>
    have hb := b.toNat_lt
    simp only [List.mem_cons, List.not_mem_nil, or_false] at hc
    rcases hc with rfl | rfl | rfl
    · decide
    · exact (hexDigit_spec (by omega)).2
    · exact (hexDigit_spec (by omega)).2

end RowFilter.Text.Percent
