import RowFilter.Decimal.Layout
import RowFilter.Json.Number

/-!
# Numbers in plain text

Two readers for numbers outside JSON. `integer?` takes digits behind a sign or
none, in a given base. `double?` takes a decimal that may lack digits on one side
of its point and may have an exponent, and gives the double nearest to it.
-/

namespace RowFilter.Decimal

/-- The value of a digit in a base of at most sixteen. -/
def digitIn? (base : Nat) (c : Char) : Option Nat :=
  (Text.Quoted.hexValue? c).filter (· < base)

/-- The number that a text of digits makes in a base; at least one digit. -/
def naturalIn? (base : Nat) : List Char → Option Nat
  | [] => none
  | digits => digits.foldlM (fun n c => (digitIn? base c).map (n * base + ·)) 0

/-- A text without its sign, and whether the sign is a minus. -/
def takeSign : List Char → Bool × List Char
  | '-' :: rest => (true, rest)
  | '+' :: rest => (false, rest)
  | text => (false, text)

/-- A text of digits behind a sign or none, if it fits a signed 64-bit word. -/
def integer? (base : Nat) (text : List Char) : Option Int :=
  let (negative, digits) := takeSign text
  match naturalIn? base digits with
  | none => none
  | some n =>
    let value : Int := if negative then -(n : Int) else n
    if -0x8000000000000000 ≤ value ∧ value < 0x8000000000000000 then some value else none

/-- The magnitude nearest to `digits · 10 ^ exponent`. Beyond three hundred and ten
digits in front of the point every double is too small, and behind three hundred
and thirty zeros too great. -/
def nearest (digits : Nat) (exponent : Int) : Binary64 :=
  let places := (natural digits).length + exponent
  if digits = 0 ∨ places < -330 then .zero
  else if 310 < places then ⟨UInt64.ofNat Binary64.infinityBits⟩
  else if 0 ≤ exponent then .ofRatio (digits * Nat.pow 10 exponent.toNat) 1
  else .ofRatio digits (Nat.pow 10 (-exponent).toNat)

/-- The exponent behind the digits of a decimal, if there is one. -/
def exponent? : List Char → Option Int
  | [] => some 0
  | mark :: rest =>
    if mark = 'e' ∨ mark = 'E' then
      let (negative, digits) := takeSign rest
      (naturalIn? 10 digits).map fun n => if negative then -(n : Int) else (n : Int)
    else none

/-- A decimal as the nearest double. -/
def double? (text : List Char) : Option Binary64 :=
  let (negative, unsigned) := takeSign text
  let (whole, afterWhole) := Json.takeDigits unsigned
  let (fraction, afterFraction) :=
    match afterWhole with
    | '.' :: rest => Json.takeDigits rest
    | other => ([], other)
  if whole.isEmpty && fraction.isEmpty then none
  else
    (exponent? afterFraction).map fun e =>
      let magnitude :=
        nearest (Json.digitsValue (Json.digitsValue 0 whole) fraction) (e - fraction.length)
      if negative then magnitude.negate else magnitude

end RowFilter.Decimal
