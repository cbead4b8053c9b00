/-!
# Percent encoding

A value inside a query string is written byte by byte: the UTF-8 bytes of ASCII
letters, digits and the four marks `-`, `_`, `.` and `~` stand for themselves,
and every other byte is a percent sign with two uppercase hexadecimal digits.
No character of the result has a meaning of its own in a query string, so the
value ends where the encoded text does.
-/

namespace RowFilter.Text.Percent

/-- True of the bytes that stand for themselves. -/
def isPlain (b : UInt8) : Bool :=
  let n := b.toNat
  (0x30 ≤ n && n ≤ 0x39) || (0x41 ≤ n && n ≤ 0x5A) || (0x61 ≤ n && n ≤ 0x7A)
    || n == 0x2D || n == 0x2E || n == 0x5F || n == 0x7E

/-- The uppercase hexadecimal digit for a number below sixteen. -/
def hexDigit (n : Nat) : Char :=
  if n < 10 then Char.ofNat (0x30 + n) else Char.ofNat (0x37 + n)

/-- How one byte is written. -/
def encodeByte (b : UInt8) : List Char :=
  if isPlain b then [Char.ofNat b.toNat]
  else ['%', hexDigit (b.toNat / 16), hexDigit (b.toNat % 16)]

/-- The percent encoding of a text. -/
def encode (text : String) : List Char := text.toUTF8.data.toList.flatMap encodeByte

end RowFilter.Text.Percent
