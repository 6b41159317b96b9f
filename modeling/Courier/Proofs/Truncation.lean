import Courier.Number.Binary64
import Mathlib.Algebra.Order.Ring.Rat
import Mathlib.Data.Rat.Floor
import Mathlib.Tactic.Linarith
import Mathlib.Tactic.NormNum

/-!
# The whole part of a floating-point number

Sixty-four bits, read as a number, are cut into a sign, an exponent and a fraction, and these make a rational
number. Its whole part is the next integer on the way to zero. What is computed from the units of a pattern
is this whole part, held inside the range of sixty-four bits, for every one of the patterns.

* `Binary64.value`: the rational number of the three fields;
* `Binary64.value_eq`: it is as many units as the pattern has;
* `towardZero_natCast_div`, `towardZero_neg`: whole parts by division, and of numbers with a sign;
* `Binary64.truncate_eq_whole`: truncation is exact, for every pattern.
-/

namespace Courier

/-! ### Towards zero -/

/-- The next integer on the way to zero. -/
def towardZero (q : ℚ) : ℤ :=
  if q < 0 then ⌈q⌉ else ⌊q⌋

/-- Division of natural numbers leaves the whole part. -/
theorem towardZero_natCast_div (n d : ℕ) : towardZero ((n : ℚ) / d) = (n / d : ℕ) := by
  have hnonneg : ¬ (n : ℚ) / d < 0 := not_lt.2 (by positivity)
  rw [towardZero, if_neg hnonneg, Rat.floor_natCast_div_natCast, Int.natCast_div]

/-- The sign has no part in the size of what is left. -/
theorem towardZero_neg (q : ℚ) : towardZero (-q) = -towardZero q := by
  unfold towardZero
  rcases lt_trichotomy q 0 with hq | rfl | hq
  · rw [if_neg (by linarith), if_pos hq, Int.floor_neg]
  · simp
  · rw [if_pos (by linarith), if_neg (by linarith), Int.ceil_neg]

/-- Nothing is left of a number that is smaller than one. -/
theorem towardZero_of_small {q : ℚ} (hlower : -1 < q) (hupper : q < 1) : towardZero q = 0 := by
  unfold towardZero
  split
  · rename_i hneg
    exact Int.ceil_eq_iff.2 ⟨by simpa using hlower, by simpa using hneg.le⟩
  · rename_i hnonneg
    exact Int.floor_eq_iff.2 ⟨by simpa using hnonneg, by simpa using hupper⟩

namespace Binary64

/-! ### The fields -/

/-- The highest bit. -/
def signField (x : Binary64) : ℕ := x.bits.toNat / 2 ^ 63

/-- The eleven bits below it. -/
def exponentField (x : Binary64) : ℕ := x.bits.toNat / 2 ^ 52 % 2 ^ 11

/-- The fifty-two bits below those. -/
def fractionField (x : Binary64) : ℕ := x.bits.toNat % 2 ^ 52

/-- The size of the number that exponent and fraction make. The lowest exponent goes without the one in
front of the fraction. -/
def magnitude (x : Binary64) : ℚ :=
  if x.exponentField = 0 then x.fractionField / 2 ^ 52 * 2 ^ (-1022 : ℤ)
  else (1 + x.fractionField / 2 ^ 52) * 2 ^ ((x.exponentField : ℤ) - 1023)

/-- The number that the three fields make. -/
def value (x : Binary64) : ℚ :=
  (-1) ^ x.signField * x.magnitude

/-- The pattern stands for a number. -/
def IsFinite (x : Binary64) : Prop := x.exponentField ≠ 2047

instance (x : Binary64) : Decidable x.IsFinite := inferInstanceAs (Decidable (_ ≠ _))

/-- The whole part of what a pattern stands for, as far as there is room for it: beyond all numbers the ends
of the range, and zero for what is no number. -/
def whole (x : Binary64) : ℤ :=
  if x.exponentField = 2047 then
    if x.fractionField ≠ 0 then 0
    else if x.signField = 0 then 2 ^ 63 - 1 else -2 ^ 63
  else max (-2 ^ 63) (min (2 ^ 63 - 1) (towardZero x.value))

theorem exponent_eq (x : Binary64) : x.exponent = x.exponentField := by
  rw [exponent, BitVec.extractLsb'_toNat, Nat.shiftRight_eq_div_pow, exponentField]

theorem fraction_eq (x : Binary64) : x.fraction = x.fractionField := by
  rw [fraction, BitVec.extractLsb'_toNat, Nat.shiftRight_eq_div_pow, pow_zero, Nat.div_one, fractionField]

theorem signField_eq (x : Binary64) : x.signField = if x.negative then 1 else 0 := by
  have hbits : x.bits.toNat < 2 ^ 64 := x.bits.isLt
  rw [negative, BitVec.msb_eq_decide, signField]
  split
  · simp_all
    omega
  · simp_all

/-! ### Units -/

theorem natCast_two_pow {m n k : ℕ} (h : k = m + n) : ((Nat.pow 2 k : ℕ) : ℚ) = 2 ^ m * 2 ^ n := by
  rw [← pow_add, ← h]
  exact Nat.cast_pow 2 k

theorem natCast_one : ((one : ℕ) : ℚ) = 2 ^ 52 * 2 ^ 1022 := by
  unfold one
  -- The exponent is made a variable, lest the power be worked out.
  generalize hexponent : 1074 = k
  exact natCast_two_pow hexponent.symm

theorem natCast_hiddenBit : ((hiddenBit : ℕ) : ℚ) = 2 ^ 52 := by
  rw [hiddenBit]
  norm_num

theorem natCast_spacing (x : Binary64) : ((x.spacing : ℕ) : ℚ) = 2 ^ (x.exponentField - 1) := by
  rw [spacing, exponent_eq]
  exact Nat.cast_pow 2 _

/-- The size of a pattern is as many units as it has, whether it has a hidden bit or not. -/
theorem magnitude_eq (x : Binary64) : x.magnitude = (x.units : ℚ) / one := by
  have htwo : (2 : ℚ) ≠ 0 := two_ne_zero
  rw [magnitude, units, exponent_eq, fraction_eq, natCast_one]
  split
  · -- Without a hidden bit the units are the fraction.
    rw [zpow_neg, zpow_ofNat, ← div_eq_mul_inv, div_div]
  · rename_i hexponent
    have hexp : (x.exponentField : ℤ) - 1023 = ((x.exponentField - 1 : ℕ) : ℤ) - (1022 : ℕ) := by omega
    have hfront : 1 + (x.fractionField : ℚ) / 2 ^ 52 = (2 ^ 52 + x.fractionField) / 2 ^ 52 := by
      rw [add_div, div_self (pow_ne_zero 52 htwo)]
    rw [hexp, hfront, zpow_sub₀ htwo, zpow_natCast, zpow_natCast, div_mul_div_comm, Nat.cast_mul,
      Nat.cast_add, natCast_hiddenBit, natCast_spacing]

/-- **The number of a pattern is as many units as it has, with its sign.** -/
theorem value_eq (x : Binary64) :
    x.value = if x.negative then -((x.units : ℚ) / one) else (x.units : ℚ) / one := by
  rw [value, signField_eq, magnitude_eq]
  split
  · rw [pow_one, neg_one_mul]
  · rw [pow_zero, one_mul]

/-! ### Truncation -/

/-- **Truncation is exact.** Every pattern of sixty-four bits is truncated to the whole part of what it stands
for, held inside the range of sixty-four bits. -/
theorem truncate_eq_whole (x : Binary64) : x.truncate = x.whole := by
  have hnumber : towardZero x.value =
      if x.negative then -((x.units / one : ℕ) : ℤ) else ((x.units / one : ℕ) : ℤ) := by
    rw [value_eq]
    split
    · rw [towardZero_neg, towardZero_natCast_div]
    · rw [towardZero_natCast_div]
  rw [truncate, decode, whole, hnumber, signField_eq, exponent_eq, fraction_eq, topExponent]
  by_cases hexponent : x.exponentField = 2047
  · rw [if_pos hexponent, if_pos hexponent]
    by_cases hfraction : x.fractionField = 0
    · rw [if_pos hfraction, if_neg (not_not.2 hfraction)]
      cases x.negative with
      | false => rfl
      | true => rfl
    · rw [if_neg hfraction, if_pos hfraction]
  · rw [if_neg hexponent, if_neg hexponent]
    cases x.negative with
    | false => rfl
    | true => rfl

/-- Of numbers between minus one and one nothing is left, not even a sign. -/
theorem whole_of_small {x : Binary64} (hfinite : x.IsFinite) (hlower : -1 < x.value)
    (hupper : x.value < 1) : x.whole = 0 := by
  rw [whole, if_neg hfinite, towardZero_of_small hlower hupper]
  rfl

end Binary64

end Courier
