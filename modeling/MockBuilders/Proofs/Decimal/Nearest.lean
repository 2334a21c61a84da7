import MockBuilders.Json.Numeral
import MockBuilders.Proofs.Decimal.Rounding

/-!
What comes out of rounding can be represented, and what is not above a number that can be
represented is not rounded above it. So numerals are read as numbers that can be represented.
Main statements: `Binary64.dvd_nearestTicks` and `Numeral.representable_binary?`.
-/
namespace MockBuilders

theorem roundHalfEven_le {num den q : Nat} (hden : 0 < den) (h : num ≤ q * den) :
    roundHalfEven num den ≤ q := by
  have hdiv : num / den ≤ q := Nat.div_le_of_le_mul (by rwa [Nat.mul_comm])
  simp only [roundHalfEven]
  rcases hdiv.lt_or_eq with hlt | heq
  · split
    · exact hdiv
    · split <;> omega
  · have hmod : num % den = 0 := by
      have hsum := Nat.div_add_mod num den
      rw [heq, Nat.mul_comm] at hsum
      omega
    rw [hmod, if_pos (by omega)]
    exact hdiv

namespace Binary64

theorem excess_mono {a b : Nat} (h : a ≤ b) : excess a ≤ excess b := by
  refine Nat.sub_le_sub_right ?_ 52
  rcases Nat.eq_zero_or_pos a with rfl | ha
  · rw [Nat.log2_zero]
    exact Nat.zero_le _
  · exact (Nat.le_log2 (ha.trans_le h).ne').mpr ((Nat.log2_self_le ha.ne').trans h)

theorem pow_two_dvd {a b : Nat} (h : a ≤ b) : Nat.pow 2 a ∣ Nat.pow 2 b := Nat.pow_dvd_pow 2 h

/-- A number that can be represented bounds the rounding of all below it. -/
theorem nearestTicks_le {num den t : Nat} (hden : 0 < den) (ht : Representable t)
    (h : num * Nat.pow 2 places ≤ t * den) : nearestTicks num den ≤ t := by
  simp only [nearestTicks]
  generalize num * Nat.pow 2 places = scaled at h
  have hdiv : scaled / den ≤ t := Nat.div_le_of_le_mul (by rwa [Nat.mul_comm])
  have hunit : Nat.pow 2 (excess (scaled / den)) ∣ t :=
    (pow_two_dvd (excess_mono hdiv)).trans ht.1
  have hpos := pow_two_pos (excess (scaled / den))
  generalize Nat.pow 2 (excess (scaled / den)) = unit at hunit hpos
  obtain ⟨q, rfl⟩ := hunit
  have hround : roundHalfEven scaled (den * unit) ≤ q := by
    refine roundHalfEven_le (Nat.mul_pos hden hpos) (h.trans_eq ?_)
    ring
  rw [Nat.mul_comm unit]
  exact Nat.mul_le_mul_right unit hround

/-- The significand takes at most 53 bits, or is the power of two right above them. -/
theorem roundHalfEven_le_two_pow (scaled : Nat) {den : Nat} (hden : 0 < den) :
    roundHalfEven scaled (den * Nat.pow 2 (excess (scaled / den))) ≤ Nat.pow 2 53 := by
  apply roundHalfEven_le (Nat.mul_pos hden (pow_two_pos _))
  have hlt : scaled < den * (scaled / den + 1) := Nat.lt_mul_div_succ scaled hden
  have hlog : scaled / den + 1 ≤ 2 ^ ((scaled / den).log2 + 1) := Nat.lt_log2_self
  have hexcess : (scaled / den).log2 + 1 ≤ 53 + excess (scaled / den) := by
    rw [excess]
    omega
  calc scaled ≤ den * (scaled / den + 1) := hlt.le
    _ ≤ den * 2 ^ (53 + excess (scaled / den)) :=
      Nat.mul_le_mul_left den (hlog.trans (Nat.pow_le_pow_right (by decide) hexcess))
    _ = Nat.pow 2 53 * (den * Nat.pow 2 (excess (scaled / den))) := by
      rw [Nat.pow_eq, Nat.pow_eq, Nat.pow_add, Nat.mul_left_comm]

/-- Rounding leaves no bits behind the leading 53. -/
theorem dvd_nearestTicks {num den : Nat} (hden : 0 < den) :
    Nat.pow 2 (excess (nearestTicks num den)) ∣ nearestTicks num den := by
  have hround := roundHalfEven_le_two_pow (num * Nat.pow 2 places) hden
  simp only [nearestTicks]
  generalize excess (num * Nat.pow 2 places / den) = e at hround ⊢
  generalize roundHalfEven (num * Nat.pow 2 places) (den * Nat.pow 2 e) = m at hround ⊢
  simp only [Nat.pow_eq] at hround ⊢
  rcases hround.lt_or_eq with hlt | rfl
  · -- all bits of the significand are leading ones, or the number is zero
    rcases Nat.eq_zero_or_pos m with rfl | hm
    · simp
    · have hne : m * 2 ^ e ≠ 0 := (Nat.mul_pos hm (Nat.two_pow_pos e)).ne'
      have hlog : (m * 2 ^ e).log2 < 53 + e := by
        rw [Nat.log2_lt hne, Nat.pow_add]
        exact Nat.mul_lt_mul_of_pos_right hlt (Nat.two_pow_pos e)
      have hexcess : excess (m * 2 ^ e) ≤ e := by
        rw [excess]
        omega
      exact (Nat.pow_dvd_pow 2 hexcess).trans (Nat.dvd_mul_left _ _)
  · rw [← Nat.pow_add]
    refine Nat.pow_dvd_pow 2 ((excess_le_log2 _).trans ?_)
    rw [Nat.log2_two_pow]

theorem representable_nearest {num den : Nat} (hden : 0 < den)
    (h : nearestTicks num den < limit) (negative : Bool) :
    Representable (nearest negative num den).ticks :=
  ⟨dvd_nearestTicks hden, h⟩

theorem representable_ofRatio? {negative : Bool} {num den : Nat} {x : Binary64} (hden : 0 < den)
    (h : ofRatio? negative num den = some x) : Representable x.ticks := by
  obtain ⟨rfl, hlt⟩ := ofRatio?_eq_some h
  exact representable_nearest hden hlt negative

theorem representable_pow_two {k : Nat} (h : k < 1024 + places) : Representable (Nat.pow 2 k) := by
  constructor
  · have hlog : (Nat.pow 2 k).log2 = k := Nat.log2_two_pow
    exact pow_two_dvd ((excess_le_log2 _).trans_eq hlog)
  · obtain ⟨l, hl, hlimit⟩ := exists_limit_eq
    rw [hlimit]
    exact Nat.pow_lt_pow_right Nat.one_lt_two (h.trans_eq hl.symm)

theorem pow_two_places_le_powerOfTen (n : Nat) : Nat.pow 2 places ≤ (powerOfTen n).ticks := by
  apply pow_two_le_nearestTicks
  rw [Nat.div_one]
  exact Nat.le_mul_of_pos_left _ (Nat.pow_pos (by decide))

/-- Division by a power of ten stays below the number. -/
theorem representable_overStep {x : Binary64} (hx : Representable x.ticks) (n : Nat) :
    Representable (nearest x.negative x.ticks (powerOfTen n).ticks).ticks := by
  have hpower := pow_two_places_le_powerOfTen n
  have hpos : 0 < (powerOfTen n).ticks := (pow_two_pos places).trans_le hpower
  refine representable_nearest hpos (lt_of_le_of_lt ?_ hx.2) _
  exact nearestTicks_le hpos hx (Nat.mul_le_mul_left _ hpower)

theorem representable_overPower {x : Binary64} (hx : Representable x.ticks) (n : Nat) :
    Representable (x.overPower n).ticks := by
  fun_induction overPower x n with
  | case1 x n hzero => exact hx
  | case2 x n _ _ => exact representable_overStep hx n
  | case3 x n _ _ ih => exact ih (representable_overStep hx greatestPower)

theorem representable_scaled? {x y : Binary64} {exponent : Int} (hx : Representable x.ticks)
    (h : x.scaled? exponent = some y) : Representable y.ticks := by
  unfold scaled? at h
  split at h
  · obtain rfl := Option.some.inj h
    exact representable_overPower hx _
  · unfold timesPower? at h
    split at h
    · obtain rfl := Option.some.inj h
      exact hx
    · split at h
      · exact representable_ofRatio? (pow_two_pos _) h
      · cases h

end Binary64

namespace Numeral

theorem gather_lt {significand : Nat} (h : significand < wordLimit) (cs : List Char) :
    (gather significand cs).1 < wordLimit := by
  fun_induction gather significand cs with
  | case1 => exact h
  | case2 _ _ _ hlt ih => exact ih hlt
  | case3 => exact h

/-- A numeral that is no whole number is read as a number that can be represented. -/
theorem representable_binary? {n : Numeral} {x : Binary64} (h : n.binary? = some x) :
    Binary64.Representable x.ticks := by
  simp only [binary?] at h
  obtain ⟨y, hy, rfl⟩ := Option.map_eq_some_iff.mp h
  change Binary64.Representable y.ticks
  refine Binary64.representable_scaled? ?_ hy
  have hword := gather_lt (gather_lt (by decide : 0 < wordLimit) n.whole) (n.fraction.getD [])
  generalize (gather _ (n.fraction.getD [])).1 = significand at hword ⊢
  have hbound : Binary64.Representable (Nat.pow 2 (64 + Binary64.places)) :=
    Binary64.representable_pow_two (by omega)
  refine Binary64.representable_nearest Nat.one_pos (lt_of_le_of_lt ?_ hbound.2) _
  apply Binary64.nearestTicks_le Nat.one_pos hbound
  rw [Nat.mul_one, Nat.pow_eq, Nat.pow_eq, Nat.pow_add]
  exact Nat.mul_le_mul_right _ hword.le

end Numeral

end MockBuilders
