import RowFilter.Decimal.Binary64

/-!
# The fewest digits that read back

Between a double and each of its neighbours lies a midpoint, and every decimal
between the two midpoints reads back as that double; the midpoints themselves do
if the significand is even. The shortest decimal is found grid by grid:

> on the grid of multiples of `10 ^ e`, only the two neighbours of the value can
> be nearest to it, so the first of the grids `… 10, 1, 1/10, …` on which one of
> the two reads back gives the fewest digits.

If both read back the nearer one is taken, and a record says where a tie goes.
All comparisons are made in natural numbers: value, midpoints and grid points
are brought to the common unit `2 ^ (scale - 2) / 10 ^ e`.
-/

namespace RowFilter.Decimal

open RowFilter

/-- Which of two decimals equally near to a value is taken. -/
inductive Tie where
  /-- The one with an even last digit. -/
  | toEven
  /-- The greater one. -/
  | up
  deriving DecidableEq, Repr

/-- A decimal `digits · 10 ^ exponent`. -/
structure Scientific where
  digits : Nat
  exponent : Int
  deriving DecidableEq, Repr

/-- The decimals that read back as a given positive double, in quarters of its
last place: from `low` to `high` around `value`, ends included or not. -/
structure Interval where
  low : Nat
  value : Nat
  high : Nat
  closed : Bool

/-- The interval of a positive finite double. The lower midpoint is half as far
away where the significand is a power of two and a finer scale lies below. -/
def interval (x : Binary64) : Interval :=
  let m := x.significand
  { low := if m = 0x10000000000000 ∧ -1074 < x.scale then 4 * m - 1 else 4 * m - 2
    value := 4 * m
    high := 4 * m + 2
    closed := m % 2 == 0 }

/-- The grid point at or next to the value on the grid of step `10 ^ e` that reads
back, for an interval in units of `2 ^ scale`. -/
def onGrid (tie : Tie) (range : Interval) (scale e : Int) : Option Nat :=
  let unit := (if 0 ≤ scale then Nat.pow 2 scale.toNat else 1) * (if e < 0 then Nat.pow 10 (-e).toNat else 1)
  let step := (if scale < 0 then Nat.pow 2 (-scale).toNat else 1) * (if 0 ≤ e then Nat.pow 10 e.toNat else 1)
  let value := range.value * unit
  let reads (d : Nat) : Bool :=
    if range.closed then range.low * unit ≤ d * step && d * step ≤ range.high * unit
    else range.low * unit < d * step && d * step < range.high * unit
  let below := value / step
  let above := below + 1
  match reads below, reads above with
  | true, false => some below
  | false, true => some above
  | false, false => none
  | true, true =>
    let toBelow := value - below * step
    let toAbove := above * step - value
    if toBelow < toAbove then some below
    else if toAbove < toBelow then some above
    else
      match tie with
      | .up => some above
      | .toEven => if below % 2 = 0 then some below else some above

/-- The first grid that has a point for the interval, from a coarse one down. -/
def search (tie : Tie) (range : Interval) (scale : Int) : Nat → Int → Scientific
  | 0, e => ⟨0, e⟩
  | tries + 1, e =>
    match onGrid tie range scale e with
    | some digits => ⟨digits, e⟩
    | none => search tie range scale tries (e - 1)

/-- The shortest decimal of a positive finite double. The first grid tried has a
step above the value; a double never needs more than seventeen digits, and a
significand of few bits starts at most sixteen places lower. -/
def shortest (tie : Tie) (x : Binary64) : Scientific :=
  let start := (x.scale + 54) * 30103 / 100000 + 2
  search tie (interval x) (x.scale - 2) 40 start

end RowFilter.Decimal
