import Mathlib
import RowFilter.Decimal.Layout

/-!
# Where the shortest decimal of a double lies

The grids are tried from a coarse one down, and every grid point that is taken lies between
the midpoints next to the double. What a double is made of decides on which grids that can
be:

> `exponent_nonneg_of_toInt?`: a whole number lies on the grid of the whole numbers itself,
> so its decimal has no fraction;
> `exponent_neg_of_toInt?`: next to another number there is no whole one, so its decimal has.

Where a tie goes decides on the digits but not on the grid (`exponent_shortest`).
-/

namespace RowFilter

namespace Binary64

variable {x : Binary64}

theorem significand_lt (x : Binary64) : x.significand < 2 ^ 53 := by
  have hfraction : x.fractionField < 0x10000000000000 := Nat.mod_lt _ (by decide)
  unfold significand
  split <;> omega

theorem significand_pos (h : x.isZero = false) : 0 < x.significand := by
  unfold isZero at h
  unfold significand
  split
  next hexponent =>
    refine Nat.pos_of_ne_zero fun hfraction => ?_
    rw [hexponent, hfraction] at h
    exact absurd h (by decide)
  next => omega

theorem significand_eq_zero (h : x.isZero = true) : x.significand = 0 := by
  unfold isZero at h
  obtain ⟨hexponent, hfraction⟩ := Bool.and_eq_true_iff.mp h
  rw [significand, if_pos (beq_iff_eq.mp hexponent), beq_iff_eq.mp hfraction]

/-- A finite number is whole unless a power of two remains below the fraction stroke. -/
theorem toInt?_eq_none_iff (h : x.isFinite = true) :
    x.toInt? = none ↔ x.scale < 0 ∧ ¬2 ^ (-x.scale).toNat ∣ x.significand := by
  unfold toInt? ratio
  rw [if_pos h, Nat.dvd_iff_mod_eq_zero]
  by_cases hscale : 0 ≤ x.scale
  · rw [if_pos hscale]
    simp [Nat.mod_one, hscale]
  · rw [if_neg hscale, and_iff_right (Int.not_le.mp hscale)]
    show (if x.significand % 2 ^ (-x.scale).toNat = 0 then _ else _) = none ↔ _
    split <;> simp [*]

/-- Zero is whole. -/
theorem isZero_eq_false (hfinite : x.isFinite = true) (h : x.toInt? = none) :
    x.isZero = false := by
  obtain ⟨-, hndvd⟩ := (toInt?_eq_none_iff hfinite).mp h
  rw [← Bool.not_eq_true]
  intro hzero
  rw [significand_eq_zero hzero] at hndvd
  exact hndvd (Nat.dvd_zero _)

/-- The power of two below the fraction stroke of a whole number cancels out. -/
theorem dvd_of_toInt? {n : Int} (h : x.toInt? = some n) (hscale : x.scale < 0) :
    2 ^ (-x.scale).toNat ∣ x.significand := by
  have hfinite : x.isFinite = true := by
    by_contra hfinite
    rw [toInt?, if_neg hfinite] at h
    exact absurd h (by simp)
  by_contra hndvd
  have hnone := (toInt?_eq_none_iff hfinite).mpr ⟨hscale, hndvd⟩
  exact absurd (hnone.symm.trans h) (by simp)

end Binary64

namespace Decimal

variable {tie : Tie} {range : Interval} {scale e : Int}

/-! ## One grid -/

/-- The value of a unit of the interval, in the unit in which a grid is compared to it. -/
def gridUnit (scale e : Int) : Nat :=
  (if 0 ≤ scale then 2 ^ scale.toNat else 1) * (if e < 0 then 10 ^ (-e).toNat else 1)

/-- The step of the grid in the same unit. -/
def gridStep (scale e : Int) : Nat :=
  (if scale < 0 then 2 ^ (-scale).toNat else 1) * (if 0 ≤ e then 10 ^ e.toNat else 1)

/-- True of a place that reads back as the double of the interval. -/
def Interval.reads (range : Interval) (unit place : Nat) : Bool :=
  if range.closed then range.low * unit ≤ place && place ≤ range.high * unit
  else range.low * unit < place && place < range.high * unit

/-- The nearer one of the two points next to a value. -/
def nearer (tie : Tie) (value step below : Nat) : Option Nat :=
  if value - below * step < (below + 1) * step - value then some below
  else if (below + 1) * step - value < value - below * step then some (below + 1)
  else
    match tie with
    | .up => some (below + 1)
    | .toEven => if below % 2 = 0 then some below else some (below + 1)

theorem nearer_eq_or (tie : Tie) (value step below : Nat) :
    nearer tie value step below = some below ∨ nearer tie value step below = some (below + 1) := by
  unfold nearer
  split
  next => exact Or.inl rfl
  next =>
    split
    next => exact Or.inr rfl
    next =>
      cases tie with
      | up => exact Or.inr rfl
      | toEven =>
        by_cases heven : below % 2 = 0
        · exact Or.inl (if_pos heven)
        · exact Or.inr (if_neg heven)

theorem onGrid_eq (tie : Tie) (range : Interval) (scale e : Int) :
    onGrid tie range scale e =
      let below := range.value * gridUnit scale e / gridStep scale e
      match range.reads (gridUnit scale e) (below * gridStep scale e),
          range.reads (gridUnit scale e) ((below + 1) * gridStep scale e) with
      | true, false => some below
      | false, true => some (below + 1)
      | false, false => none
      | true, true => nearer tie (range.value * gridUnit scale e) (gridStep scale e) below := by
  rfl

/-- The point that is taken on a grid is one that reads back. -/
theorem reads_of_onGrid {digits : Nat} (h : onGrid tie range scale e = some digits) :
    range.reads (gridUnit scale e) (digits * gridStep scale e) = true := by
  rw [onGrid_eq] at h
  dsimp only at h
  split at h
  next hbelow _ => exact Option.some.inj h ▸ hbelow
  next _ habove => exact Option.some.inj h ▸ habove
  next => exact absurd h (by simp)
  next hbelow habove =>
    rcases nearer_eq_or tie (range.value * gridUnit scale e) (gridStep scale e)
      (range.value * gridUnit scale e / gridStep scale e) with hn | hn
    · exact Option.some.inj (hn.symm.trans h) ▸ hbelow
    · exact Option.some.inj (hn.symm.trans h) ▸ habove

/-- On a grid there is no point for the interval if neither one next to the value reads
back, wherever a tie goes. -/
theorem onGrid_eq_none_iff :
    onGrid tie range scale e = none ↔
      let below := range.value * gridUnit scale e / gridStep scale e
      range.reads (gridUnit scale e) (below * gridStep scale e) = false ∧
        range.reads (gridUnit scale e) ((below + 1) * gridStep scale e) = false := by
  rw [onGrid_eq]
  dsimp only
  split
  next hbelow _ => simp [hbelow]
  next _ habove => simp [habove]
  next hbelow habove => simp [hbelow, habove]
  next hbelow _ =>
    rcases nearer_eq_or tie (range.value * gridUnit scale e) (gridStep scale e)
      (range.value * gridUnit scale e / gridStep scale e) with hn | hn
    · simp [hn, hbelow]
    · simp [hn, hbelow]

theorem onGrid_eq_none_iff_of_tie (tie tie' : Tie) :
    onGrid tie range scale e = none ↔ onGrid tie' range scale e = none :=
  onGrid_eq_none_iff.trans onGrid_eq_none_iff.symm

/-- The midpoints bound whatever reads back. -/
theorem Interval.reads_iff {unit place : Nat} :
    range.reads unit place = true ↔
      if range.closed then range.low * unit ≤ place ∧ place ≤ range.high * unit
      else range.low * unit < place ∧ place < range.high * unit := by
  unfold reads
  split <;> simp [*]

theorem Interval.le_of_reads {unit place : Nat} (h : range.reads unit place = true) :
    range.low * unit ≤ place ∧ place ≤ range.high * unit := by
  rw [reads_iff] at h
  split at h
  next => exact h
  next => exact ⟨Nat.le_of_lt h.1, Nat.le_of_lt h.2⟩

/-- The value itself reads back. -/
theorem reads_interval {x : Binary64} {unit : Nat} (h : 0 < unit) :
    (interval x).reads unit ((interval x).value * unit) = true := by
  rw [Interval.reads_iff]
  unfold interval
  dsimp only
  split
  next heven =>
    refine ⟨Nat.mul_le_mul_right unit ?_, Nat.mul_le_mul_right unit (Nat.le_add_right ..)⟩
    split <;> omega
  next hodd =>
    have hpos : 0 < x.significand := by
      refine Nat.pos_of_ne_zero fun hzero => hodd ?_
      rw [hzero]
      rfl
    refine ⟨Nat.mul_lt_mul_of_pos_right ?_ h, Nat.mul_lt_mul_of_pos_right (by omega) h⟩
    split <;> omega

theorem gridUnit_pos (scale e : Int) : 0 < gridUnit scale e := by
  unfold gridUnit
  split <;> split <;> positivity

/-- A value that lies on a grid keeps the search from going on to a finer one. -/
theorem isSome_onGrid_of_dvd {x : Binary64}
    (h : gridStep scale e ∣ (interval x).value * gridUnit scale e) :
    (onGrid tie (interval x) scale e).isSome = true := by
  rw [← Option.ne_none_iff_isSome, Ne, onGrid_eq_none_iff]
  rintro ⟨hbelow, -⟩
  rw [Nat.div_mul_cancel h, reads_interval (gridUnit_pos scale e)] at hbelow
  exact absurd hbelow (by decide)

/-! ## From grid to grid -/

/-- Where the search ends: at a point that reads back, or below all grids. -/
theorem search_eq (tie : Tie) (range : Interval) (scale : Int) : ∀ (tries : Nat) (e : Int),
    onGrid tie range scale (search tie range scale tries e).exponent
        = some (search tie range scale tries e).digits ∨
      search tie range scale tries e = ⟨0, e - tries⟩
  | 0, e => Or.inr (by simp [search])
  | tries + 1, e => by
    rw [search]
    split
    next digits hdigits => exact Or.inl hdigits
    next =>
      refine (search_eq tie range scale tries (e - 1)).imp_right fun hend => ?_
      rw [hend]
      simp only [Scientific.mk.injEq, true_and]
      omega

/-- Where a tie goes does not matter to which grid the search ends on. -/
theorem exponent_search (tie tie' : Tie) (range : Interval) (scale : Int) :
    ∀ (tries : Nat) (e : Int), (search tie range scale tries e).exponent
      = (search tie' range scale tries e).exponent
  | 0, _ => rfl
  | tries + 1, e => by
    rw [search, search]
    cases h : onGrid tie range scale e with
    | none =>
      rw [(onGrid_eq_none_iff_of_tie tie tie').mp h]
      exact exponent_search tie tie' range scale tries (e - 1)
    | some digits =>
      cases h' : onGrid tie' range scale e with
      | none =>
        have hnone := (onGrid_eq_none_iff_of_tie tie tie').mpr h'
        exact absurd (hnone.symm.trans h) (by simp)
      | some digits' => rfl

/-- The search does not go below a grid that has a point. -/
theorem le_exponent_search {grid : Int} (h : (onGrid tie range scale grid).isSome = true) :
    ∀ (tries : Nat) (e : Int), grid ≤ e → grid ≤ (search tie range scale tries e).exponent
  | 0, _, he => he
  | tries + 1, e, he => by
    rw [search]
    split
    next => exact he
    next hnone =>
      have hne : grid ≠ e := by
        rintro rfl
        rw [hnone] at h
        exact absurd h (by decide)
      exact le_exponent_search h tries (e - 1) (by omega)

/-! ## The decimal of a double -/

theorem exponent_shortest (tie tie' : Tie) (x : Binary64) :
    (shortest tie x).exponent = (shortest tie' x).exponent :=
  exponent_search tie tie' ..

/-- A decimal that reads back does not lie below the lower midpoint or above the upper one. -/
theorem bounds_interval (x : Binary64) :
    4 * x.significand - 2 ≤ (interval x).low ∧ (interval x).high = 4 * x.significand + 2 := by
  unfold interval
  dsimp only
  refine ⟨?_, rfl⟩
  split <;> omega

/-- A grid of whole numbers, compared to a double with a power of two below the fraction
stroke. -/
theorem gridStep_of_nonneg {x : Binary64} (hscale : x.scale < 0) (he : 0 ≤ e) :
    gridUnit (x.scale - 2) e = 1 ∧
      gridStep (x.scale - 2) e = 4 * (2 ^ (-x.scale).toNat * 10 ^ e.toNat) := by
  have hshift : (-(x.scale - 2)).toNat = (-x.scale).toNat + 2 := by omega
  unfold gridUnit gridStep
  rw [if_neg (by omega), if_neg (by omega), if_pos (by omega), if_pos he, hshift]
  exact ⟨rfl, by ring⟩

/-- A whole number lies on the grid of whole numbers. -/
theorem gridStep_dvd_of_toInt? {x : Binary64} {n : Int} (h : x.toInt? = some n) :
    gridStep (x.scale - 2) 0 ∣ (interval x).value * gridUnit (x.scale - 2) 0 := by
  have hvalue : (interval x).value = 4 * x.significand := rfl
  rcases lt_or_ge x.scale 0 with hscale | hscale
  · obtain ⟨hunit, hstep⟩ := gridStep_of_nonneg hscale (Int.le_refl 0)
    rw [hvalue, hunit, hstep, Nat.mul_one]
    simpa using Nat.mul_dvd_mul_left 4 (Binary64.dvd_of_toInt? h hscale)
  · -- a quarter of the last place is at least a quarter, and the value is four of them
    have hstep : gridStep (x.scale - 2) 0 ∣ 4 := by
      unfold gridStep
      split
      next => simpa using Nat.pow_dvd_pow 2 (show (-(x.scale - 2)).toNat ≤ 2 by omega)
      next => simp
    exact ((hstep.mul_right _).trans (dvd_of_eq hvalue.symm)).mul_right _

/-- A whole number has no digits behind the point. -/
theorem exponent_nonneg_of_toInt? (tie : Tie) {x : Binary64} {n : Int} (h : x.toInt? = some n)
    (hzero : x.isZero = false) : 0 ≤ (shortest tie x).exponent := by
  refine le_exponent_search (isSome_onGrid_of_dvd (gridStep_dvd_of_toInt? h)) _ _ ?_
  rcases lt_or_ge x.scale 0 with hscale | hscale
  · have hle := Nat.le_of_dvd (Binary64.significand_pos hzero) (Binary64.dvd_of_toInt? h hscale)
    have hplaces : (-x.scale).toNat < 53 :=
      (Nat.pow_lt_pow_iff_right (by decide)).mp (Nat.lt_of_le_of_lt hle x.significand_lt)
    omega
  · omega

/-- The search for such a double starts less than forty grids above the grids of fractions, so
if it comes to no point it ends among them. -/
theorem shortest_found (tie : Tie) {x : Binary64} (hscale : x.scale < 0) :
    (shortest tie x).exponent < 0 ∧ (shortest tie x).digits = 0 ∨
      onGrid tie (interval x) (x.scale - 2) (shortest tie x).exponent
        = some (shortest tie x).digits := by
  rcases search_eq tie (interval x) (x.scale - 2) 40 ((x.scale + 54) * 30103 / 100000 + 2) with
    hfound | hend
  · exact Or.inr hfound
  · refine Or.inl ?_
    rw [shortest, hend]
    refine ⟨?_, rfl⟩
    show (x.scale + 54) * 30103 / 100000 + 2 - (40 : Nat) < 0
    omega

/-- A number that is not whole has digits behind the point: of the places that read back
only the value itself could be a whole number. -/
theorem exponent_neg_of_toInt? (tie : Tie) {x : Binary64} (hfinite : x.isFinite = true)
    (h : x.toInt? = none) : (shortest tie x).exponent < 0 := by
  obtain ⟨hscale, hndvd⟩ := (Binary64.toInt?_eq_none_iff hfinite).mp h
  rcases shortest_found tie hscale with hend | hfound
  · exact hend.1
  · refine Int.not_le.mp fun he => hndvd ?_
    obtain ⟨hunit, hstep⟩ := gridStep_of_nonneg hscale he
    obtain ⟨hlow, hhigh⟩ := bounds_interval x
    obtain ⟨hle, hge⟩ := Interval.le_of_reads (reads_of_onGrid hfound)
    rw [hunit, hstep] at hle hge
    -- the points of this grid are multiples of four, of which the midpoints enclose the value only
    have hvalue : x.significand = (shortest tie x).digits *
        (2 ^ (-x.scale).toNat * 10 ^ (shortest tie x).exponent.toNat) := by
      rw [Nat.mul_left_comm] at hle hge
      omega
    rw [hvalue, Nat.mul_left_comm]
    exact Nat.dvd_mul_right ..

/-- A grid of fractions, compared to such a double. -/
theorem le_gridStep_of_neg {x : Binary64} (hscale : x.scale < 0) (he : e < 0) :
    gridUnit (x.scale - 2) e = 10 ^ (-e).toNat ∧ 2 ^ 3 ≤ gridStep (x.scale - 2) e := by
  have hshift : 3 ≤ (-(x.scale - 2)).toNat := by omega
  unfold gridUnit gridStep
  rw [if_neg (by omega), if_pos he, if_pos (by omega), if_neg (by omega), Nat.one_mul, Nat.mul_one]
  exact ⟨rfl, Nat.pow_le_pow_right (by decide) hshift⟩

/-- The place of the first digit of a decimal. -/
def Scientific.first (decimal : Scientific) : Int :=
  decimal.exponent + (natural decimal.digits).length - 1

/-- A number that is not whole is below `2 ^ 52`, so at most sixteen of its digits stand
in front of the point. -/
theorem first_lt_of_toInt? (tie : Tie) {x : Binary64} (hfinite : x.isFinite = true)
    (h : x.toInt? = none) : (shortest tie x).first < 16 := by
  obtain ⟨hscale, -⟩ := (Binary64.toInt?_eq_none_iff hfinite).mp h
  have he := exponent_neg_of_toInt? tie hfinite h
  have hdigits : (shortest tie x).digits < 10 ^ (16 + (-(shortest tie x).exponent).toNat) := by
    rcases shortest_found tie hscale with ⟨-, hend⟩ | hfound
    · rw [hend]
      positivity
    · obtain ⟨-, hhigh⟩ := bounds_interval x
      obtain ⟨hunit, hstep⟩ := le_gridStep_of_neg hscale he
      obtain ⟨-, hle⟩ := Interval.le_of_reads (reads_of_onGrid hfound)
      rw [hunit, hhigh] at hle
      have hlt := x.significand_lt
      -- the upper midpoint is at most half a unit above the greatest significand
      have hbound : (shortest tie x).digits * 2 ^ 3
          ≤ 2 ^ 55 * 10 ^ (-(shortest tie x).exponent).toNat :=
        (Nat.mul_le_mul_left _ hstep).trans (hle.trans (Nat.mul_le_mul_right _ (by omega)))
      have hpos : 0 < 10 ^ (-(shortest tie x).exponent).toNat := by positivity
      rw [Nat.pow_add]
      omega
  have hlength := (Nat.length_toDigits_le_iff (by decide) (by omega)).mpr hdigits
  unfold Scientific.first natural
  omega

end Decimal

end RowFilter
