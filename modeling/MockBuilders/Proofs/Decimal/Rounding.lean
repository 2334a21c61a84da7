import Mathlib.Algebra.Order.Field.Power
import Mathlib.Algebra.Order.Field.Rat
import Mathlib.Tactic.NormNum
import Mathlib.Tactic.Positivity
import Mathlib.Tactic.Ring
import MockBuilders.Decimal.Extended

/-!
Rounding depends on the rounded quotient only, not on how it is written, and leaves a number that
can be represented as it is.
Main statements: `Binary64.ofDecimal?_congr` and `Binary64.ofRatio?_of_representable`.
-/
namespace MockBuilders

theorem roundHalfEven_mul_left {k : Nat} (hk : 0 < k) (num den : Nat) :
    roundHalfEven (k * num) (k * den) = roundHalfEven num den := by
  have hleft (a b : Nat) : k * a < k * b ↔ a < b := Nat.mul_lt_mul_left hk
  simp only [roundHalfEven, Nat.mul_div_mul_left num den hk, Nat.mul_mod_mul_left,
    Nat.mul_left_comm 2 k, hleft]

theorem roundHalfEven_mul_self {den : Nat} (hden : 0 < den) (q : Nat) :
    roundHalfEven (q * den) den = q := by
  simp [roundHalfEven, Nat.mul_div_cancel q hden, hden]

namespace Binary64

theorem pow_two_pos (n : Nat) : 0 < Nat.pow 2 n := Nat.pow_pos (by decide)

theorem nearestTicks_mul_left {k : Nat} (hk : 0 < k) (num den : Nat) :
    nearestTicks (k * num) (k * den) = nearestTicks num den := by
  simp only [nearestTicks, Nat.mul_assoc, Nat.mul_div_mul_left _ den hk,
    roundHalfEven_mul_left hk]

/-- The nearest number is that of the quotient, however the quotient is written. -/
theorem nearestTicks_congr {num den num' den' : Nat} (hden : 0 < den) (hden' : 0 < den')
    (h : num * den' = num' * den) : nearestTicks num den = nearestTicks num' den' := by
  rw [← nearestTicks_mul_left hden' num den, ← nearestTicks_mul_left hden num' den',
    Nat.mul_comm den' num, h, Nat.mul_comm num' den, Nat.mul_comm den' den]

/-- A number that can be represented is its own nearest. -/
theorem nearestTicks_of_representable {ticks : Nat} (h : Representable ticks) :
    nearestTicks ticks (Nat.pow 2 places) = ticks := by
  have hpos : 0 < Nat.pow 2 places := pow_two_pos places
  obtain ⟨q, hq⟩ := h.1
  have hunit : 0 < Nat.pow 2 (excess ticks) := pow_two_pos _
  simp only [nearestTicks, Nat.mul_div_cancel ticks hpos]
  generalize Nat.pow 2 (excess ticks) = unit at hq hunit
  have hscaled : ticks * Nat.pow 2 places = q * (Nat.pow 2 places * unit) := by
    rw [hq]
    ring
  rw [hscaled, roundHalfEven_mul_self (Nat.mul_pos hpos hunit), hq, Nat.mul_comm]

theorem ofRatio?_congr {num den num' den' : Nat} (hden : 0 < den) (hden' : 0 < den')
    (h : num * den' = num' * den) (negative : Bool) :
    ofRatio? negative num den = ofRatio? negative num' den' := by
  simp only [ofRatio?, nearest, nearestTicks_congr hden hden' h]

theorem ofRatio?_of_representable {x : Binary64} (h : Representable x.ticks) :
    ofRatio? x.negative x.ticks (Nat.pow 2 places) = some x := by
  simp only [ofRatio?, nearest, nearestTicks_of_representable h, h.2, if_true]

end Binary64

namespace Decimal

/-- The number that a decimal stands for. -/
def value (d : Decimal) : ℚ := d.digits * (10 : ℚ) ^ d.exponent

/-- The decimal as a quotient of natural numbers. -/
theorem value_eq_div (d : Decimal) : d.value =
    (d.digits * Nat.pow 10 d.exponent.toNat : Nat) / (Nat.pow 10 (-d.exponent).toNat : Nat) := by
  obtain ⟨digits, exponent⟩ := d
  simp only [value, Nat.pow_eq]
  rcases exponent.eq_nat_or_neg with ⟨n, rfl | rfl⟩
  · simp
  · simp [div_eq_mul_inv]

theorem value_trim (d : Decimal) : d.trim.value = d.value := by
  fun_induction trim d with
  | case1 d h ih =>
    have hdigits : d.digits = 10 * (d.digits / 10) := by omega
    rw [ih, value, value, zpow_add_one₀ (by norm_num)]
    nth_rewrite 2 [hdigits]
    push_cast
    ring
  | case2 d h => rfl

end Decimal

namespace Binary64

theorem ofDecimal?_congr {d d' : Decimal} (h : d.value = d'.value) (negative : Bool) :
    ofDecimal? negative d.digits d.exponent = ofDecimal? negative d'.digits d'.exponent := by
  have hpos (n : Nat) : 0 < Nat.pow 10 n := Nat.pow_pos (by decide)
  refine ofRatio?_congr (hpos _) (hpos _) ?_ negative
  rw [Decimal.value_eq_div, Decimal.value_eq_div, div_eq_div_iff] at h
  · exact_mod_cast h
  · exact_mod_cast (hpos _).ne'
  · exact_mod_cast (hpos _).ne'

end Binary64

namespace Binary64

theorem excess_le_log2 (n : Nat) : excess n ≤ n.log2 := Nat.sub_le _ _

/-- What lies below half the least positive number is rounded to zero. -/
theorem nearestTicks_eq_zero {num den : Nat} (h : 2 * (num * Nat.pow 2 places) < den) :
    nearestTicks num den = 0 := by
  have hdiv : num * Nat.pow 2 places / den = 0 := Nat.div_eq_of_lt (by omega)
  have hunit : Nat.pow 2 (excess 0) = 1 := by decide
  have hround : roundHalfEven (num * Nat.pow 2 places) den = 0 := by
    simp only [roundHalfEven, hdiv, Nat.mod_eq_of_lt (show num * Nat.pow 2 places < den by omega),
      h, if_true]
  simp only [nearestTicks, hdiv, hunit, Nat.mul_one, hround]

theorem div_le_roundHalfEven (num den : Nat) : num / den ≤ roundHalfEven num den := by
  simp only [roundHalfEven]
  split
  · exact le_rfl
  · split <;> omega

/-- Rounding never goes below the greatest power of two in the number. -/
theorem two_pow_log2_le_nearestTicks {num den : Nat}
    (h : num * Nat.pow 2 places / den ≠ 0) :
    2 ^ (num * Nat.pow 2 places / den).log2 ≤ nearestTicks num den := by
  simp only [nearestTicks, Nat.pow_eq]
  generalize num * 2 ^ places = scaled at h
  have hlog := Nat.log2_self_le h
  have hexcess := excess_le_log2 (scaled / den)
  have hround := div_le_roundHalfEven scaled (den * 2 ^ excess (scaled / den))
  rw [← Nat.div_div_eq_div_mul] at hround
  generalize excess (scaled / den) = k at hexcess hround ⊢
  have hsplit : 2 ^ (scaled / den).log2 = 2 ^ ((scaled / den).log2 - k) * 2 ^ k := by
    rw [← Nat.pow_add, Nat.sub_add_cancel hexcess]
  have hquotient : 2 ^ ((scaled / den).log2 - k) ≤ scaled / den / 2 ^ k := by
    rw [Nat.le_div_iff_mul_le (Nat.two_pow_pos k), ← hsplit]
    exact hlog
  rw [hsplit]
  exact Nat.mul_le_mul_right _ (hquotient.trans hround)

theorem pow_two_le_nearestTicks {k num den : Nat}
    (h : Nat.pow 2 k ≤ num * Nat.pow 2 places / den) : Nat.pow 2 k ≤ nearestTicks num den := by
  have hne : num * Nat.pow 2 places / den ≠ 0 := (lt_of_lt_of_le (pow_two_pos k) h).ne'
  exact (Nat.pow_le_pow_right (by decide) ((Nat.le_log2 hne).mpr h)).trans
    (two_pow_log2_le_nearestTicks hne)

theorem exists_limit_eq : ∃ k, k = 1024 + places ∧ limit = Nat.pow 2 k := ⟨_, rfl, limit.eq_1⟩

theorem representable_zero : Representable 0 := by
  obtain ⟨k, -, hk⟩ := exists_limit_eq
  exact ⟨dvd_zero _, hk ▸ pow_two_pos k⟩

/-- What is not below the limit is not rounded below it. -/
theorem limit_le_nearestTicks {num den : Nat} (hden : 0 < den)
    (h : limit * den ≤ num * Nat.pow 2 places) : limit ≤ nearestTicks num den := by
  obtain ⟨k, -, hk⟩ := exists_limit_eq
  rw [hk] at h ⊢
  exact pow_two_le_nearestTicks ((Nat.le_div_iff_mul_le hden).mpr h)

end Binary64

namespace Decimal

theorem value_lt (d : Decimal) : d.value < (10 : ℚ) ^ (d.exponent + digitCount d.digits) := by
  have hdigits : d.digits < 10 ^ digitCount d.digits :=
    (Nat.length_toDigits_le_iff (by decide) Nat.length_toDigits_pos).mp le_rfl
  have hcast : (d.digits : ℚ) < (10 : ℚ) ^ digitCount d.digits := by exact_mod_cast hdigits
  rw [value, zpow_add₀ (by norm_num), mul_comm, zpow_natCast]
  exact mul_lt_mul_of_pos_left hcast (by positivity)

theorem le_value {d : Decimal} (h : d.digits ≠ 0) :
    (10 : ℚ) ^ (d.exponent + digitCount d.digits - 1) ≤ d.value := by
  have hdigits : 10 ^ (digitCount d.digits - 1) ≤ d.digits := by
    by_contra hlt
    rcases Nat.eq_zero_or_pos (digitCount d.digits - 1) with hzero | hpos
    · rw [hzero] at hlt
      omega
    · have hle := (Nat.length_toDigits_le_iff (b := 10) (by decide) hpos).mpr (not_le.mp hlt)
      rw [← digitCount] at hle
      omega
  have hcast : (10 : ℚ) ^ (digitCount d.digits - 1) ≤ d.digits := by exact_mod_cast hdigits
  have hcount : 1 ≤ digitCount d.digits := Nat.length_toDigits_pos
  have hexponent : d.exponent + digitCount d.digits - 1 =
      d.exponent + (digitCount d.digits - 1 : Nat) := by omega
  rw [value, hexponent, zpow_add₀ (by norm_num), zpow_natCast, mul_comm]
  exact mul_le_mul_of_nonneg_right hcast (by positivity)

end Decimal

namespace Extended

section Bounds
variable {num den : Nat}

theorem mul_lt_of_div_lt (hden : (0 : ℚ) < den) {a : Nat}
    (h : (num : ℚ) / den < (10 : ℚ) ^ (-(a : Int))) : num * 10 ^ a < den := by
  rw [zpow_neg, zpow_natCast, div_lt_iff₀ hden, inv_mul_eq_div, lt_div_iff₀ (by positivity)] at h
  exact_mod_cast h

theorem mul_le_of_le_div (hden : (0 : ℚ) < den) {a : Nat}
    (h : (10 : ℚ) ^ (a : Int) ≤ (num : ℚ) / den) : den * 10 ^ a ≤ num := by
  rw [zpow_natCast, le_div_iff₀ hden, mul_comm] at h
  exact_mod_cast h

end Bounds

theorem two_pow_le_ten_pow : 2 * Nat.pow 2 Binary64.places ≤ 10 ^ 330 := by
  decide +kernel

theorem limit_le_ten_pow : Binary64.limit ≤ 10 ^ 310 * Nat.pow 2 Binary64.places := by
  decide +kernel

/-- The bounds beyond which decimals are not looked at exclude no number but zero. -/
theorem ofDecimal_eq_finite {d : Decimal} {x : Binary64}
    (h : Binary64.ofDecimal? x.negative d.digits d.exponent = some x) (hx : x.ticks ≠ 0) :
    ofDecimal x.negative d.digits d.exponent = finite x := by
  obtain ⟨hticks, hlimit⟩ := Binary64.ofRatio?_eq_some h
  have hticks : x.ticks = Binary64.nearestTicks (d.digits * Nat.pow 10 d.exponent.toNat)
    (Nat.pow 10 (-d.exponent).toNat) := congrArg Binary64.ticks hticks
  have hden : 0 < Nat.pow 10 (-d.exponent).toNat := Nat.pow_pos (by decide)
  have hvalue := d.value_eq_div
  generalize d.digits * Nat.pow 10 d.exponent.toNat = num at hticks hvalue
  generalize Nat.pow 10 (-d.exponent).toNat = den at hticks hvalue hden
  have hdenq : (0 : ℚ) < den := by exact_mod_cast hden
  have hsmall : ¬ 2 * (num * Nat.pow 2 Binary64.places) < den := by
    intro hlt
    exact hx (hticks.trans (Binary64.nearestTicks_eq_zero hlt))
  have hlarge : ¬ Binary64.limit * den ≤ num * Nat.pow 2 Binary64.places := by
    intro hle
    exact absurd (Binary64.limit_le_nearestTicks hden hle) (by omega)
  have hdigits : d.digits ≠ 0 := by
    intro hzero
    have hnum : (num : ℚ) / den = 0 := by
      rw [← hvalue, Decimal.value, hzero, Nat.cast_zero, zero_mul]
    rw [div_eq_zero_iff, Nat.cast_eq_zero] at hnum
    rcases hnum with hnum | hnum
    · rw [hnum, Nat.zero_mul] at hsmall
      omega
    · exact absurd hnum hdenq.ne'
  have hleast : ¬ d.exponent + Decimal.digitCount d.digits < leastExponent := by
    intro hlt
    have hle : (10 : ℚ) ^ (d.exponent + Decimal.digitCount d.digits) ≤
        (10 : ℚ) ^ (-(330 : Nat) : Int) := zpow_le_zpow_right₀ (by norm_num) hlt.le
    have hnum := mul_lt_of_div_lt hdenq (hvalue ▸ d.value_lt.trans_le hle)
    refine hsmall (lt_of_le_of_lt ?_ hnum)
    rw [Nat.mul_left_comm]
    exact Nat.mul_le_mul_left _ two_pow_le_ten_pow
  have hgreatest : ¬ greatestExponent < d.exponent + Decimal.digitCount d.digits := by
    intro hlt
    have hle : (10 : ℚ) ^ ((310 : Nat) : Int) ≤
        (10 : ℚ) ^ (d.exponent + Decimal.digitCount d.digits - 1) :=
      zpow_le_zpow_right₀ (by norm_num) (Int.le_sub_one_of_lt hlt)
    have hnum := mul_le_of_le_div hdenq (hvalue ▸ hle.trans (Decimal.le_value hdigits))
    refine hlarge ((Nat.mul_le_mul_right den limit_le_ten_pow).trans ?_)
    rw [Nat.mul_right_comm, Nat.mul_comm _ den]
    exact Nat.mul_le_mul_right _ hnum
  simp only [ofDecimal, hdigits, hleast, hgreatest, or_self, if_false, h]

end Extended
end MockBuilders
