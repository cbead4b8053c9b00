import RowFilter.Proofs.Decimal.Shortest

/-!
# What a double is worth

A finite double is a whole number of at most fifty-three binary digits times a power of two,
so its value is a fraction and nothing is lost in saying which (`value`). Against it the
operations on bits are measured:

> `toInt?_eq_some_iff`: a double is read as an integer if and only if that is its value;
> `value_negate`: the sign bit changes the sign of the value and nothing else;
> `value_ofInt`: an integer below `2^53` in magnitude is rounded to a double of its own value.
-/

namespace RowFilter.Binary64

variable {x : Binary64}

/-- The exact value of a finite double. -/
def value (x : Binary64) : ℚ :=
  (if x.isNegative then -1 else 1) * (x.significand * 2 ^ x.scale)

/-- True of the two patterns that stand for a magnitude beyond all numbers. -/
def isInfinite (x : Binary64) : Bool := x.exponentField == 2047 && x.fractionField == 0

/-- What is not finite is infinite or no number at all. -/
theorem isFinite_eq_false_iff : x.isFinite = false ↔ x.isInfinite = true ∨ x.isNaN = true := by
  have hfield : x.exponentField < 2048 := Nat.mod_lt _ (by decide)
  unfold isFinite isInfinite isNaN
  by_cases hfraction : x.fractionField = 0
  · simp [hfraction]
    omega
  · simp [hfraction]
    omega

/-! ## Whole values -/

theorem ratio_pos (x : Binary64) : 0 < x.ratio.2 := by
  unfold ratio
  split
  next => exact Nat.one_pos
  next => exact Nat.two_pow_pos _

/-- The magnitude as a quotient of natural numbers. -/
theorem ratio_div (x : Binary64) : (x.ratio.1 : ℚ) / x.ratio.2 = x.significand * 2 ^ x.scale := by
  unfold ratio
  split
  next hscale =>
    have hpow : (2 : ℚ) ^ x.scale = 2 ^ x.scale.toNat := by
      rw [← zpow_natCast, Int.toNat_of_nonneg hscale]
    show ((x.significand * 2 ^ x.scale.toNat : ℕ) : ℚ) / (1 : ℕ) = _
    rw [hpow]
    push_cast
    exact div_one _
  next hscale =>
    have hpow : (2 : ℚ) ^ x.scale = (2 ^ (-x.scale).toNat)⁻¹ := by
      rw [← zpow_natCast, ← zpow_neg, Int.toNat_of_nonneg (by omega), neg_neg]
    show (x.significand : ℚ) / (2 ^ (-x.scale).toNat : ℕ) = _
    rw [hpow]
    push_cast
    exact div_eq_mul_inv _ _

/-- The value of a double that is read as an integer. -/
theorem value_of_toInt? {n : Int} (h : x.toInt? = some n) : x.isFinite = true ∧ x.value = n := by
  unfold toInt? at h
  split at h
  next hfinite =>
    refine ⟨hfinite, ?_⟩
    dsimp only at h
    split at h
    next hwhole =>
      have hdvd : x.ratio.2 ∣ x.ratio.1 := Nat.dvd_of_mod_eq_zero hwhole
      have hne : (x.ratio.2 : ℚ) ≠ 0 := Nat.cast_ne_zero.mpr (Nat.ne_of_gt x.ratio_pos)
      have hquotient : ((x.ratio.1 / x.ratio.2 : ℕ) : ℚ) = x.significand * 2 ^ x.scale := by
        rw [Nat.cast_div hdvd hne, ratio_div]
      obtain rfl := Option.some.inj h
      rw [value, ← hquotient]
      split
      next => rw [Int.cast_neg, Int.cast_natCast, neg_one_mul]
      next => rw [Int.cast_natCast, one_mul]
    next => exact absurd h (by simp)
  next => exact absurd h (by simp)

/-- A finite double whose value is an integer is read as one. -/
theorem exists_toInt?_of_value {n : Int} (hfinite : x.isFinite = true) (h : x.value = n) :
    ∃ m, x.toInt? = some m := by
  have hne : (x.ratio.2 : ℚ) ≠ 0 := Nat.cast_ne_zero.mpr (Nat.ne_of_gt x.ratio_pos)
  -- multiplied by its denominator, the equation of the value is one of integers
  have hmul : (x.ratio.1 : ℤ) = n * x.ratio.2 ∨ (x.ratio.1 : ℤ) = -n * x.ratio.2 := by
    rw [value, ← ratio_div] at h
    split at h
    next =>
      refine Or.inr ?_
      have hq : (x.ratio.1 : ℚ) = -n * x.ratio.2 := by
        rw [← h]
        field_simp
      exact_mod_cast hq
    next =>
      refine Or.inl ?_
      have hq : (x.ratio.1 : ℚ) = n * x.ratio.2 := by
        rw [← h]
        field_simp
      exact_mod_cast hq
  have hdvd : (x.ratio.2 : ℤ) ∣ x.ratio.1 := by
    rcases hmul with hmul | hmul
    · exact Dvd.intro_left _ hmul.symm
    · exact Dvd.intro_left _ hmul.symm
  have hwhole : x.ratio.1 % x.ratio.2 = 0 := Nat.mod_eq_zero_of_dvd (Int.natCast_dvd_natCast.mp hdvd)
  rw [toInt?, if_pos hfinite]
  dsimp only
  rw [if_pos hwhole]
  exact ⟨_, rfl⟩

/-- **A double is read as the integer that it is.** -/
theorem toInt?_eq_some_iff {n : Int} : x.toInt? = some n ↔ x.isFinite = true ∧ x.value = n := by
  constructor
  · exact value_of_toInt?
  · rintro ⟨hfinite, hvalue⟩
    obtain ⟨m, hm⟩ := exists_toInt?_of_value hfinite hvalue
    have hsame : (m : ℚ) = n := (value_of_toInt? hm).2.symm.trans hvalue
    rw [hm, Int.cast_injective hsame]

/-! ## The sign bit -/

/-- The number of the bits of the negated double. -/
theorem toNat_negate (x : Binary64) :
    x.negate.bits.toNat % 2 ^ 63 = x.bits.toNat % 2 ^ 63 ∧
      x.negate.bits.toNat / 2 ^ 63 = 1 - x.bits.toNat / 2 ^ 63 := by
  have hbits : x.negate.bits.toNat = x.bits.toNat ^^^ 2 ^ 63 := UInt64.toNat_xor ..
  have hlt := x.bits.toNat_lt
  rw [hbits, Nat.xor_mod_two_pow, Nat.xor_div_two_pow, Nat.mod_self, Nat.xor_zero,
    Nat.div_self (Nat.two_pow_pos 63)]
  refine ⟨rfl, ?_⟩
  -- there is only one bit above the others
  have htop : x.bits.toNat / 2 ^ 63 = 0 ∨ x.bits.toNat / 2 ^ 63 = 1 := by omega
  rcases htop with htop | htop
  · rw [htop]
    rfl
  · rw [htop]
    rfl

theorem fields_negate (x : Binary64) :
    x.negate.exponentField = x.exponentField ∧ x.negate.fractionField = x.fractionField ∧
      x.negate.isNegative = !x.isNegative := by
  obtain ⟨hlow, hhigh⟩ := toNat_negate x
  have hlt := x.bits.toNat_lt
  have hlt' := x.negate.bits.toNat_lt
  refine ⟨?_, ?_, ?_⟩
  · unfold exponentField
    omega
  · unfold fractionField
    omega
  · unfold isNegative
    rw [← decide_not, decide_eq_decide]
    omega

theorem isFinite_negate (x : Binary64) : x.negate.isFinite = x.isFinite := by
  unfold isFinite
  rw [(fields_negate x).1]

theorem value_negate (x : Binary64) : x.negate.value = -x.value := by
  obtain ⟨hexponent, hfraction, hsign⟩ := fields_negate x
  have hsignificand : x.negate.significand = x.significand := by
    unfold significand
    rw [hexponent, hfraction]
  have hscale : x.negate.scale = x.scale := by
    unfold scale
    rw [hexponent]
  unfold value
  rw [hsignificand, hscale, hsign]
  cases x.isNegative with
  | false => simp
  | true => simp

/-! ## Integers as doubles -/

/-- The double of a significand of fifty-three digits and a power of two. -/
theorem value_normal {k m : Nat} (hk : k ≤ 2045) (hlow : 2 ^ 52 ≤ m) (hhigh : m < 2 ^ 53) :
    (Binary64.mk (UInt64.ofNat (k * 0x10000000000000 + m))).isFinite = true ∧
      (Binary64.mk (UInt64.ofNat (k * 0x10000000000000 + m))).value
        = m * 2 ^ ((k : ℤ) - 1074) := by
  have hbits : (UInt64.ofNat (k * 0x10000000000000 + m)).toNat = k * 0x10000000000000 + m := by
    rw [UInt64.toNat_ofNat']
    exact Nat.mod_eq_of_lt (by omega)
  have hexponent :
      (Binary64.mk (UInt64.ofNat (k * 0x10000000000000 + m))).exponentField = k + 1 := by
    unfold exponentField
    rw [hbits]
    omega
  have hfraction :
      (Binary64.mk (UInt64.ofNat (k * 0x10000000000000 + m))).fractionField = m - 2 ^ 52 := by
    unfold fractionField
    rw [hbits]
    omega
  have hsign : (Binary64.mk (UInt64.ofNat (k * 0x10000000000000 + m))).isNegative = false := by
    unfold isNegative
    rw [hbits, decide_eq_false_iff_not]
    omega
  have hsignificand : (Binary64.mk (UInt64.ofNat (k * 0x10000000000000 + m))).significand = m := by
    unfold significand
    rw [hexponent, hfraction, if_neg (by omega)]
    omega
  have hscale :
      (Binary64.mk (UInt64.ofNat (k * 0x10000000000000 + m))).scale = (k : ℤ) - 1074 := by
    unfold scale
    rw [hexponent]
    omega
  constructor
  · unfold isFinite
    rw [hexponent, decide_eq_true_iff]
    omega
  · rw [value, hsignificand, hscale, hsign, if_neg (by decide), one_mul]

theorem roundEven_one (m : Nat) : roundEven m 1 = m := by
  unfold roundEven
  simp [Nat.mod_one]

/-- A positive natural number below `2^53`, shifted to fifty-three digits. -/
theorem shifted_bounds {n : Nat} (hpos : n ≠ 0) (hn : n < 2 ^ 53) :
    n.log2 ≤ 52 ∧ 2 ^ 52 ≤ n * 2 ^ (52 - n.log2) ∧ n * 2 ^ (52 - n.log2) < 2 ^ 53 := by
  have hlog : n.log2 ≤ 52 := Nat.le_of_lt_succ ((Nat.log2_lt hpos).mpr hn)
  have hlow := Nat.log2_self_le hpos
  have hhigh : n < 2 ^ (n.log2 + 1) := Nat.lt_log2_self
  have hsplit : 2 ^ n.log2 * 2 ^ (52 - n.log2) = 2 ^ 52 := by
    rw [← Nat.pow_add]
    congr 1
    omega
  have hpow : 0 < 2 ^ (52 - n.log2) := Nat.two_pow_pos _
  refine ⟨hlog, ?_, ?_⟩
  · rw [← hsplit]
    exact Nat.mul_le_mul_right _ hlow
  · calc n * 2 ^ (52 - n.log2)
        < 2 ^ (n.log2 + 1) * 2 ^ (52 - n.log2) := Nat.mul_lt_mul_of_pos_right hhigh hpow
      _ = 2 ^ 52 * 2 := by rw [Nat.pow_succ, Nat.mul_right_comm, hsplit]
      _ = 2 ^ 53 := by decide

theorem ratioLog2_one {n : Nat} (hpos : n ≠ 0) : ratioLog2 n 1 = n.log2 := by
  have hguess : (n.log2 : ℤ) - (Nat.log2 1 : ℕ) = n.log2 := by
    rw [show Nat.log2 1 = 0 by decide]
    omega
  have hreached : if (0 : ℤ) ≤ n.log2 then 1 * Nat.pow 2 (n.log2 : ℤ).toNat ≤ n
      else 1 ≤ n * Nat.pow 2 (-(n.log2 : ℤ)).toNat := by
    rw [if_pos (Int.natCast_nonneg _), Nat.one_mul, Int.toNat_natCast]
    exact Nat.log2_self_le hpos
  unfold ratioLog2
  dsimp only
  rw [hguess]
  exact if_pos hreached

/-- The bits of a positive natural number below `2^53`: nothing is rounded. -/
theorem ofNat_eq {n : Nat} (hpos : n ≠ 0) (hn : n < 2 ^ 53) :
    ofNat n = ⟨UInt64.ofNat ((n.log2 + 1022) * 0x10000000000000 + n * 2 ^ (52 - n.log2))⟩ := by
  obtain ⟨hlog, -, hhigh⟩ := shifted_bounds hpos hn
  have hscale : max (-1074) ((n.log2 : ℤ) - 52) = (n.log2 : ℤ) - 52 := by omega
  have hplace : ((n.log2 : ℤ) - 52 + 1074).toNat = n.log2 + 1022 := by omega
  have hrounded : (if (0 : ℤ) ≤ (n.log2 : ℤ) - 52 then
        roundEven n (1 * Nat.pow 2 ((n.log2 : ℤ) - 52).toNat)
      else roundEven (n * Nat.pow 2 (-((n.log2 : ℤ) - 52)).toNat) 1)
      = n * 2 ^ (52 - n.log2) := by
    split
    next hwhole =>
      have heq : n.log2 = 52 := by omega
      rw [heq]
      show roundEven n 1 = n * 1
      rw [roundEven_one, Nat.mul_one]
    next =>
      have hshift : (-((n.log2 : ℤ) - 52)).toNat = 52 - n.log2 := by omega
      rw [hshift, roundEven_one]
      rfl
  have hmin : min infinityBits ((n.log2 + 1022) * 0x10000000000000 + n * 2 ^ (52 - n.log2))
      = (n.log2 + 1022) * 0x10000000000000 + n * 2 ^ (52 - n.log2) := by
    refine Nat.min_eq_right ?_
    unfold infinityBits
    omega
  unfold ofNat ofRatio
  rw [if_neg hpos]
  dsimp only
  rw [ratioLog2_one hpos, hscale, hrounded, hplace, hmin]

theorem value_ofNat {n : Nat} (hn : n < 2 ^ 53) :
    (ofNat n).isFinite = true ∧ (ofNat n).value = n := by
  by_cases hpos : n = 0
  · subst hpos
    have hzero : ofNat 0 = zero := rfl
    rw [hzero]
    refine ⟨by decide, ?_⟩
    have hsignificand : zero.significand = 0 := by decide
    rw [value, hsignificand]
    simp
  · obtain ⟨hlog, hlow, hhigh⟩ := shifted_bounds hpos hn
    obtain ⟨hfinite, hvalue⟩ := value_normal (k := n.log2 + 1022) (by omega) hlow hhigh
    rw [ofNat_eq hpos hn]
    refine ⟨hfinite, ?_⟩
    rw [hvalue]
    -- the shift is undone by the power of two
    have hscale : ((n.log2 + 1022 : ℕ) : ℤ) - 1074 = -((52 - n.log2 : ℕ) : ℤ) := by omega
    rw [hscale, zpow_neg, zpow_natCast]
    push_cast
    field_simp

/-- **Small integers are exact.** Below `2^53` in magnitude an integer has a double of its
own value. -/
theorem value_ofInt {n : Int} (hn : n.natAbs < 2 ^ 53) :
    (ofInt n).isFinite = true ∧ (ofInt n).value = n := by
  obtain ⟨hfinite, hvalue⟩ := value_ofNat hn
  unfold ofInt
  split
  next hneg =>
    rw [isFinite_negate, value_negate, hvalue]
    refine ⟨hfinite, ?_⟩
    have habs : (n.natAbs : ℤ) = -n := by omega
    rw [← Int.cast_natCast, habs]
    push_cast
    ring
  next hnonneg =>
    rw [hvalue]
    refine ⟨hfinite, ?_⟩
    have habs : (n.natAbs : ℤ) = n := by omega
    rw [← Int.cast_natCast, habs]

end RowFilter.Binary64
