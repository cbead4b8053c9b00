/-!
# Double-precision numbers as exact dyadic rationals

A `Binary64` is its 64 bits. A finite one has the value

> `± significand · 2 ^ scale`, with `significand < 2^53` and `-1074 ≤ scale ≤ 971`,

so everything here is arithmetic on natural numbers: no operation of the
hardware is used, and each result is rounded once, to the nearest double, a tie
going to the even significand. Magnitudes are handled apart from signs.
-/

namespace RowFilter

/-- A double-precision number, by its bits. -/
structure Binary64 where
  bits : UInt64
  deriving DecidableEq, Repr

namespace Binary64

/-- True of a number whose sign bit is set; negative zero is one. -/
def isNegative (x : Binary64) : Bool := 0x8000000000000000 ≤ x.bits.toNat

/-- The eleven bits behind the sign. -/
def exponentField (x : Binary64) : Nat := x.bits.toNat / 0x10000000000000 % 0x800

/-- The last fifty-two bits. -/
def fractionField (x : Binary64) : Nat := x.bits.toNat % 0x10000000000000

/-- False of the infinities and of every NaN. -/
def isFinite (x : Binary64) : Bool := x.exponentField < 2047

/-- True of a pattern that stands for no number. -/
def isNaN (x : Binary64) : Bool := x.exponentField == 2047 && x.fractionField != 0

/-- The whole number that a finite value is a power of two times of. -/
def significand (x : Binary64) : Nat :=
  if x.exponentField = 0 then x.fractionField else 0x10000000000000 + x.fractionField

/-- The exponent of that power of two. -/
def scale (x : Binary64) : Int := (max 1 x.exponentField : Nat) - 1075

/-- True of both zeros. -/
def isZero (x : Binary64) : Bool := x.exponentField == 0 && x.fractionField == 0

/-- Zero without a sign. -/
def zero : Binary64 := ⟨0⟩

/-- The same number with the other sign. -/
def negate (x : Binary64) : Binary64 := ⟨x.bits ^^^ 0x8000000000000000⟩

/-- The magnitude of a finite number as a numerator and a positive denominator. -/
def ratio (x : Binary64) : Nat × Nat :=
  if 0 ≤ x.scale then (x.significand * Nat.pow 2 x.scale.toNat, 1)
  else (x.significand, Nat.pow 2 (-x.scale).toNat)

/-- The integer that a finite number is, if it is one. -/
def toInt? (x : Binary64) : Option Int :=
  if x.isFinite then
    let (num, den) := x.ratio
    if num % den = 0 then
      some (if x.isNegative then -(num / den : Nat) else (num / den : Nat))
    else none
  else none

/-! ## Rounding to the nearest double -/

/-- The quotient to the nearest whole number, a tie to the even one. -/
def roundEven (num den : Nat) : Nat :=
  let whole := num / den
  let twice := 2 * (num % den)
  if twice < den then whole
  else if den < twice then whole + 1
  else whole + whole % 2

/-- The exponent of the greatest power of two that is at most a positive quotient. -/
def ratioLog2 (num den : Nat) : Int :=
  let guess := (num.log2 : Int) - den.log2
  let reached :=
    if 0 ≤ guess then den * Nat.pow 2 guess.toNat ≤ num else den ≤ num * Nat.pow 2 (-guess).toNat
  if reached then guess else guess - 1

/-- The bits of positive infinity; they follow those of the greatest finite number. -/
def infinityBits : Nat := 0x7FF0000000000000

/-- The double nearest to a quotient. The significand keeps fifty-three digits, or
fewer where the scale would fall below -1074, and a carry out of it runs into the
exponent field as it should. What is too great becomes infinity. -/
def ofRatio (num den : Nat) : Binary64 :=
  if num = 0 then zero
  else
    let scale := max (-1074) (ratioLog2 num den - 52)
    let rounded :=
      if 0 ≤ scale then roundEven num (den * Nat.pow 2 scale.toNat)
      else roundEven (num * Nat.pow 2 (-scale).toNat) den
    ⟨UInt64.ofNat (min infinityBits ((scale + 1074).toNat * 0x10000000000000 + rounded))⟩

/-- The double nearest to a natural number. -/
def ofNat (n : Nat) : Binary64 := ofRatio n 1

/-- The double nearest to an integer. -/
def ofInt (n : Int) : Binary64 :=
  if n < 0 then (ofNat n.natAbs).negate else ofNat n.natAbs

/-- The product of two finite magnitudes. -/
def mulMagnitude (x y : Binary64) : Binary64 :=
  ofRatio (x.ratio.1 * y.ratio.1) (x.ratio.2 * y.ratio.2)

/-- The quotient of two finite magnitudes, the second not zero. -/
def divMagnitude (x y : Binary64) : Binary64 :=
  ofRatio (x.ratio.1 * y.ratio.2) (x.ratio.2 * y.ratio.1)

end Binary64

end RowFilter
