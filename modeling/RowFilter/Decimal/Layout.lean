import RowFilter.Decimal.Shortest

/-!
# Numbers as text

An integer is written in decimal with a minus sign if it is negative. A double
is written with its shortest digits, and a `Style` decides how they are laid out.
Two styles are used:

* `plain` for the literals of the filter grammar and for messages: never an
  exponent, and no fraction for a whole number;
* `compact` for JSON: an exponent outside `1e-5 ≤ |x| < 1e16`, which always has a
  sign, and `.0` behind a whole number that is written without one.
-/

namespace RowFilter.Decimal

open RowFilter

/-- The decimal digits of a natural number. -/
def natural (n : Nat) : List Char := Nat.toDigits 10 n

/-- An integer in decimal. -/
def integer : Int → List Char
  | .ofNat n => natural n
  | .negSucc n => '-' :: natural (n + 1)

/-- How the digits of a double are laid out. -/
structure Style where
  /-- Where a tie between two shortest decimals goes. -/
  tie : Tie
  /-- Which exponents of the first digit are written without an exponent mark. -/
  positional : Int → Bool
  /-- What stands behind a whole number that is written without an exponent. -/
  wholeSuffix : List Char

/-- No exponent, and no fraction for a whole number; a tie goes up. -/
def plain : Style := ⟨.up, fun _ => true, []⟩

/-- An exponent below the fifth decimal place and from the seventeenth digit on;
whole numbers end in `.0`, and a tie goes to the even digit. -/
def compact : Style := ⟨.toEven, fun e => -5 ≤ e && e < 16, ['.', '0']⟩

/-- Digits with the decimal point at its place. -/
def positional (wholeSuffix digits : List Char) (exponent : Int) : List Char :=
  if 0 ≤ exponent then digits ++ List.replicate exponent.toNat '0' ++ wholeSuffix
  else
    let places := (-exponent).toNat
    if places < digits.length then
      digits.take (digits.length - places) ++ '.' :: digits.drop (digits.length - places)
    else '0' :: '.' :: List.replicate (places - digits.length) '0' ++ digits

/-- Digits with a point behind the first of several, and an exponent with its sign. -/
def exponential (digits : List Char) (first : Int) : List Char :=
  let mantissa :=
    match digits with
    | d :: d' :: more => d :: '.' :: d' :: more
    | few => few
  mantissa ++ 'e' :: (if first < 0 then '-' else '+') :: natural first.natAbs

/-- A decimal laid out in a style. -/
def lay (style : Style) (decimal : Scientific) : List Char :=
  let digits := natural decimal.digits
  let first := decimal.exponent + digits.length - 1
  if style.positional first then positional style.wholeSuffix digits decimal.exponent
  else exponential digits first

/-- The magnitude of a finite double in a style. -/
def magnitude (style : Style) (x : Binary64) : List Char :=
  if x.isZero then '0' :: style.wholeSuffix else lay style (shortest style.tie x)

/-- A double in a style. A NaN has no sign, the infinities and zeros have one. -/
def double (style : Style) (x : Binary64) : List Char :=
  if x.isNaN then ['N', 'a', 'N']
  else
    let unsigned := if x.isFinite then magnitude style x else ['i', 'n', 'f']
    if x.isNegative then '-' :: unsigned else unsigned

end RowFilter.Decimal
