import RowFilter.Json.Basic
import RowFilter.Json.Fault

/-!
# Number literals

A literal is a sign, a whole part without a leading zero, and optionally a
fraction and an exponent. An integer literal that fits a 64-bit word, signed or
not, is kept exactly; `-0` and all others become doubles.

A literal is turned into a double by a fixed recipe, which is not correctly
rounded and is part of the format:

* digits of the whole part and then of the fraction are collected as long as the
  number they make is below `2^64`; from the first digit that does not fit, whole
  digits count as powers of ten and fraction digits not at all (`Literal.collected`);
* the collected number is rounded to a double and then multiplied or divided by a
  power of ten, itself rounded to a double, in steps of at most `10^308`, each of
  which rounds once more (`scaled`).

A result beyond the range of doubles is a fault, one below it is zero.
-/

namespace RowFilter.Json

/-- A number literal taken apart, its digits as numbers below ten. -/
structure Literal where
  negative : Bool
  whole : List Nat
  fraction : Option (List Nat)
  exponent : Option Int
  deriving DecidableEq, Repr

/-- The value of a decimal digit. -/
def digit? (c : Char) : Option Nat :=
  if '0' ≤ c ∧ c ≤ '9' then some (c.toNat - 0x30) else none

/-- The digits at the front of a text, and the rest of it. -/
def takeDigits : List Char → List Nat × List Char
  | [] => ([], [])
  | c :: rest =>
    match digit? c with
    | none => ([], c :: rest)
    | some d =>
      let (digits, rest') := takeDigits rest
      (d :: digits, rest')

/-- The number that digits make in base ten, after the ones already read. -/
def digitsValue (start : Nat) (digits : List Nat) : Nat :=
  digits.foldl (fun n d => n * 10 + d) start

theorem takeDigits_length (text : List Char) :
    (takeDigits text).1.length + (takeDigits text).2.length = text.length := by
  induction text with
  | nil => rfl
  | cons c rest ih =>
    unfold takeDigits
    split
    · simp
    · simp only [List.length_cons]; omega

theorem takeDigits_rest_le {text rest : List Char} {digits : List Nat}
    (h : takeDigits text = (digits, rest)) : rest.length ≤ text.length := by
  have hlength := takeDigits_length text
  rw [h] at hlength
  exact Nat.le.intro ((Nat.add_comm _ _).trans hlength)

/-- What is left of a text from which something was read. -/
abbrev Shorter (text : List Char) := { rest : List Char // rest.length < text.length }

/-- What is left of a text from which something may have been read. -/
abbrev NotLonger (text : List Char) := { rest : List Char // rest.length ≤ text.length }

/-- The whole part: a zero alone, or digits of which the first is not zero. -/
def wholePart (text : List Char) : Except Fault (List Nat × Shorter text) :=
  match text with
  | [] => .error ⟨.endInValue, []⟩
  | c :: rest =>
    match digit? c with
    | none => .error ⟨.badNumber, rest⟩
    | some 0 =>
      match rest with
      | [] => .ok ([0], ⟨[], by simp⟩)
      | d :: rest' =>
        if (digit? d).isSome then .error ⟨.badNumber, rest'⟩
        else .ok ([0], ⟨d :: rest', by simp⟩)
    | some n =>
      .ok (n :: (takeDigits rest).1, ⟨(takeDigits rest).2, by
        have := takeDigits_length rest
        simp only [List.length_cons]; omega⟩)

/-- The fraction, if a point follows; at least one digit follows the point. -/
def fractionPart (text : List Char) : Except Fault (Option (List Nat) × NotLonger text) :=
  match text with
  | [] => .ok (none, ⟨[], Nat.le_refl _⟩)
  | c :: rest =>
    if c = '.' then
      match h : takeDigits rest with
      | ([], []) => .error ⟨.endInValue, []⟩
      | ([], _ :: rest') => .error ⟨.badNumber, rest'⟩
      | (digits, rest') => .ok (some digits, ⟨rest', Nat.le_succ_of_le (takeDigits_rest_le h)⟩)
    else .ok (none, ⟨c :: rest, Nat.le_refl _⟩)

/-- The sign of an exponent, true for minus. -/
def exponentSign : (text : List Char) → Bool × NotLonger text
  | '+' :: rest => (false, ⟨rest, Nat.le_succ _⟩)
  | '-' :: rest => (true, ⟨rest, Nat.le_succ _⟩)
  | [] => (false, ⟨[], Nat.le_refl _⟩)
  | c :: rest => (false, ⟨c :: rest, Nat.le_refl _⟩)

/-- The exponent, if its mark follows; at least one digit follows its sign. -/
def exponentPart (text : List Char) : Except Fault (Option Int × NotLonger text) :=
  match text with
  | [] => .ok (none, ⟨[], Nat.le_refl _⟩)
  | c :: rest =>
    if c = 'e' ∨ c = 'E' then
      let (negative, ⟨unsigned, hu⟩) := exponentSign rest
      match h : takeDigits unsigned with
      | ([], []) => .error ⟨.endInValue, []⟩
      | ([], _ :: rest') => .error ⟨.badNumber, rest'⟩
      | (digits, rest') =>
        let n := digitsValue 0 digits
        .ok (some (if negative then -(n : Int) else (n : Int)), ⟨rest',
          Nat.le_succ_of_le (Nat.le_trans (takeDigits_rest_le h) hu)⟩)
    else .ok (none, ⟨c :: rest, Nat.le_refl _⟩)

/-- A literal without its sign. -/
def unsignedLiteral (negative : Bool) (text : List Char) :
    Except Fault (Literal × Shorter text) :=
  match wholePart text with
  | .error fault => .error fault
  | .ok (whole, ⟨afterWhole, h₁⟩) =>
    match fractionPart afterWhole with
    | .error fault => .error fault
    | .ok (fraction, ⟨afterFraction, h₂⟩) =>
      match exponentPart afterFraction with
      | .error fault => .error fault
      | .ok (exponent, ⟨rest, h₃⟩) =>
        .ok (⟨negative, whole, fraction, exponent⟩, ⟨rest, by omega⟩)

/-- The number literal at the front of a text. -/
def literal (text : List Char) : Except Fault (Literal × Shorter text) :=
  match text with
  | [] => .error ⟨.endInValue, []⟩
  | c :: rest =>
    if c = '-' then
      match unsignedLiteral true rest with
      | .error fault => .error fault
      | .ok (parts, ⟨rest', h⟩) => .ok (parts, ⟨rest', by simp only [List.length_cons]; omega⟩)
    else unsignedLiteral false (c :: rest)

/-! ## The value of a literal -/

/-- Collects digits behind a number as long as the result stays below `2^64`, and
gives that result and the number of digits that were left. -/
def collect (start : Nat) : List Nat → Nat × Nat
  | [] => (start, 0)
  | d :: rest =>
    if start * 10 + d < 0x10000000000000000 then collect (start * 10 + d) rest else (start, rest.length + 1)

/-- The collected digits of a literal and the power of ten they stand before. -/
def Literal.collected (parts : Literal) : Nat × Int :=
  let (whole, dropped) := collect 0 parts.whole
  let fraction := parts.fraction.getD []
  let (all, ignored) := collect whole fraction
  (all, (dropped : Int) - ((fraction.length - ignored : Nat) : Int) + parts.exponent.getD 0)

/-- A double times a power of ten, in steps of at most `10^308`; nothing if it
becomes too great. -/
def scaled (x : Binary64) (e : Int) : Option Binary64 :=
  if e.natAbs ≤ 308 then
    if 0 ≤ e then
      let product := x.mulMagnitude (.ofNat (Nat.pow 10 e.natAbs))
      if product.isFinite then some product else none
    else some (x.divMagnitude (.ofNat (Nat.pow 10 e.natAbs)))
  else if x.isZero then some x
  else if 0 < e then none
  else scaled (x.divMagnitude (.ofNat (Nat.pow 10 308))) (e + 308)
  termination_by e.natAbs
  decreasing_by omega

/-- The double that a literal stands for, without its sign. -/
def Literal.magnitude (parts : Literal) : Option Binary64 :=
  let (digits, e) := parts.collected
  scaled (.ofNat digits) e

/-- A magnitude with its sign as a number, if it is finite. -/
def signed (negative : Bool) (magnitude : Binary64) : Option Number :=
  let x := if negative then magnitude.negate else magnitude
  if h : x.isFinite = true then some (.double x h) else none

/-- An integer literal that fits a 64-bit word, signed or not; `-0` does not. -/
def Literal.exact? (parts : Literal) : Option Number :=
  if parts.fraction.isNone && parts.exponent.isNone then
    let n := digitsValue 0 parts.whole
    if parts.negative then
      if h : 0 < n ∧ n ≤ 0x8000000000000000 then some (.integer (-(n : Int)) (by omega)) else none
    else if h : n < 0x10000000000000000 then some (.integer n (by omega))
    else none
  else none

/-- The number that a literal stands for; nothing if it is too great. -/
def Literal.number? (parts : Literal) : Option Number :=
  match parts.exact? with
  | some n => some n
  | none => parts.magnitude.bind (signed parts.negative)

/-- The number at the front of a text. -/
def readNumber (text : List Char) : Except Fault (Number × Shorter text) :=
  match literal text with
  | .error fault => .error fault
  | .ok (parts, rest) =>
    match parts.number? with
    | some n => .ok (n, rest)
    | none => .error ⟨.numberTooGreat, rest⟩

end RowFilter.Json
