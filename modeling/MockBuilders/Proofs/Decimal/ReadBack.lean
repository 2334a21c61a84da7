import MockBuilders.Proofs.Decimal.Numerals
import MockBuilders.Proofs.Decimal.Rounding

/-!
The text of a number reads back as the number, in every layout.
Main statement: `Decimal.Layout.read?_chars`.
-/
namespace MockBuilders

namespace Binary64

variable {x : Binary64}

theorem reads_of_pick {reads : Decimal → Bool} {order : Ordering} {tie : Tie}
    {below above d : Decimal} (h : pick reads order tie below above = some d) : reads d = true := by
  unfold pick at h
  split at h
  · cases h
  · obtain rfl := Option.some.inj h
    assumption
  · obtain rfl := Option.some.inj h
    assumption
  · split at h
    · obtain rfl := Option.some.inj h
      assumption
    · obtain rfl := Option.some.inj h
      assumption
    · obtain rfl := Option.some.inj h
      assumption
    · obtain rfl := Option.some.inj h
      split <;> assumption

theorem readsBack_of_withDigits? {tie : Tie} {count : Nat} {d : Decimal}
    (h : x.withDigits? tie count = some d) : x.readsBack d = true := by
  unfold withDigits? at h
  exact reads_of_pick h

theorem ofDecimal?_five_pow (negative : Bool) (ticks p : Nat) :
    ofDecimal? negative (ticks * Nat.pow 5 p) (-(p : Int)) =
      ofRatio? negative ticks (Nat.pow 2 p) := by
  refine ofRatio?_congr (Nat.pow_pos (by decide)) (pow_two_pos p) ?_ negative
  have hten : (10 : Nat) ^ p = 5 ^ p * 2 ^ p := by rw [← Nat.mul_pow]
  simp only [Nat.pow_eq, neg_neg, Int.toNat_natCast, Int.toNat_neg_natCast, Nat.pow_zero,
    Nat.mul_one, hten]
  ring

theorem readsBack_exact (h : Representable x.ticks) : x.readsBack x.exact = true := by
  rw [readsBack, exact, ofDecimal?_five_pow, ofRatio?_of_representable h, beq_self_eq_true]

/-- The shortest decimal of a number reads back as the number. -/
theorem ofDecimal?_shortest (h : Representable x.ticks) (tie : Tie) :
    ofDecimal? x.negative (x.shortest tie).digits (x.shortest tie).exponent = some x := by
  have hreads (d : Decimal) (hd : x.readsBack d = true) :
      ofDecimal? x.negative d.trim.digits d.trim.exponent = some x := by
    rw [ofDecimal?_congr d.value_trim]
    exact eq_of_beq hd
  rw [shortest]
  apply hreads _
  cases hfind : (List.range 17).findSome? fun n => x.withDigits? tie (n + 1) with
  | none => exact readsBack_exact h
  | some d =>
    obtain ⟨n, -, hn⟩ := List.exists_of_findSome?_eq_some hfind
    exact readsBack_of_withDigits? hn

end Binary64

namespace Decimal

/-- A numeral of a sign that stands for a decimal. -/
structure Denotes (n : Numeral) (negative : Bool) (d : Decimal) : Prop where
  proper : n.Proper
  negative : n.negative = negative
  value : n.decimal.value = d.value

namespace Layout

variable (layout : Layout) (negative : Bool) (d : Decimal)

theorem isDigit_of_mem_zeros {k : Nat} {c : Char} (h : c ∈ zeros k) : c.isDigit = true := by
  rw [List.eq_of_mem_replicate h]
  rfl

theorem exists_numeral_point_of_nonneg (h : 0 ≤ d.exponent) : ∃ n : Numeral,
    Denotes n negative d ∧
      n.chars layout = (if negative then ['-'] else []) ++ layout.point d := by
  obtain ⟨k, hk⟩ := Int.eq_ofNat_of_zero_le h
  have hne : digitChars d.digits ≠ [] := Nat.toDigits_ne_nil
  have hdigits (c : Char) (hc : c ∈ digitChars d.digits ++ zeros k) : c.isDigit = true :=
    (List.mem_append.mp hc).elim Numeral.isDigit_of_mem_digitChars isDigit_of_mem_zeros
  have hwhole : digitsValue (digitChars d.digits ++ zeros k) = 10 ^ k * d.digits := by
    rw [Numeral.digitsValue_append, Numeral.digitsValue_zeros, Numeral.digitsValue_digitChars,
      zeros, List.length_replicate, Nat.add_zero]
  rw [point, if_pos h, hk, Int.toNat_natCast]
  cases layout.wholePoint with
  | true =>
    refine ⟨⟨negative, digitChars d.digits ++ zeros k, some ['0'], none⟩,
      ⟨⟨by simp [hne], hdigits, by simp⟩, rfl, ?_⟩, by simp [Numeral.chars]⟩
    have hzero : digitsValue ['0'] = 0 := rfl
    simp only [Numeral.decimal, value, Option.getD_some, Numeral.digitsValue_append _ ['0'],
      hwhole, hzero, hk]
    simp only [List.length_singleton, pow_one, add_zero, Nat.cast_mul, Nat.cast_ofNat,
      Nat.cast_pow, Option.getD_none, Nat.cast_one, zero_sub, zpow_neg_one, zpow_natCast]
    ring
  | false =>
    refine ⟨⟨negative, digitChars d.digits ++ zeros k, none, none⟩,
      ⟨⟨by simp [hne], hdigits, by simp⟩, rfl, ?_⟩, by simp [Numeral.chars]⟩
    simp only [Numeral.decimal, value, Option.getD_none, List.append_nil, hwhole, hk]
    simp only [Nat.cast_mul, Nat.cast_pow, Nat.cast_ofNat, List.length_nil, Nat.cast_zero,
      sub_self, zpow_zero, mul_one, zpow_natCast]
    ring

theorem exists_numeral_point_of_neg (h : ¬ 0 ≤ d.exponent) : ∃ n : Numeral,
    Denotes n negative d ∧
      n.chars layout = (if negative then ['-'] else []) ++ layout.point d := by
  obtain ⟨k, hk⟩ := Int.eq_ofNat_of_zero_le (show 0 ≤ -d.exponent by omega)
  simp only [point, h, if_false, hk, Int.toNat_natCast]
  have hdigits (c : Char)
      (hc : c ∈ zeros (k + 1 - (digitChars d.digits).length) ++ digitChars d.digits) :
      c.isDigit = true :=
    (List.mem_append.mp hc).elim isDigit_of_mem_zeros Numeral.isDigit_of_mem_digitChars
  have hlen : k + 1 ≤
      (zeros (k + 1 - (digitChars d.digits).length) ++ digitChars d.digits).length := by
    rw [List.length_append, zeros, List.length_replicate]
    omega
  have hvalue : digitsValue (zeros (k + 1 - (digitChars d.digits).length) ++
      digitChars d.digits) = d.digits := by
    rw [Numeral.digitsValue_append, Numeral.digitsValue_zeros, Numeral.digitsValue_digitChars,
      Nat.mul_zero, Nat.zero_add]
  generalize zeros (k + 1 - (digitChars d.digits).length) ++ digitChars d.digits = padded
    at hdigits hlen hvalue ⊢
  refine ⟨⟨negative, padded.take (padded.length - k), some (padded.drop (padded.length - k)),
    none⟩, ⟨⟨?_, ?_, ?_⟩, rfl, ?_⟩, by simp [Numeral.chars]⟩
  · intro hnil
    have := congrArg List.length hnil
    rw [List.length_take, List.length_nil] at this
    omega
  · exact fun c hc => hdigits c (List.mem_of_mem_take hc)
  · exact fun c hc => hdigits c (List.mem_of_mem_drop hc)
  · simp only [Numeral.decimal, value, Option.getD_some, Option.getD_none,
      List.take_append_drop, hvalue, List.length_drop]
    congr 2
    omega

theorem exists_numeral_point : ∃ n : Numeral, Denotes n negative d ∧
    n.chars layout = (if negative then ['-'] else []) ++ layout.point d := by
  by_cases h : 0 ≤ d.exponent
  · exact exists_numeral_point_of_nonneg layout negative d h
  · exact exists_numeral_point_of_neg layout negative d h

theorem exists_numeral_scientific : ∃ n : Numeral, Denotes n negative d ∧
    n.chars layout = (if negative then ['-'] else []) ++ layout.scientific d := by
  have hvalue := Numeral.digitsValue_digitChars d.digits
  have hdigits (c : Char) (hc : c ∈ digitChars d.digits) : c.isDigit = true :=
    Numeral.isDigit_of_mem_digitChars hc
  have hleading : d.leading = d.exponent + (digitChars d.digits).length - 1 := rfl
  have hne : digitChars d.digits ≠ [] := Nat.toDigits_ne_nil
  unfold scientific
  generalize digitChars d.digits = cs at hvalue hdigits hleading hne ⊢
  rcases cs with _ | ⟨first, _ | ⟨second, rest⟩⟩
  · exact absurd rfl hne
  · refine ⟨⟨negative, [first], none, some d.leading⟩, ⟨⟨hne, hdigits, by simp⟩, rfl, ?_⟩, by
      simp [Numeral.chars]⟩
    simp [Numeral.decimal, value, hvalue, hleading]
  · refine ⟨⟨negative, [first], some (second :: rest), some d.leading⟩,
      ⟨⟨by simp, ?_, ?_⟩, rfl, ?_⟩,
      by simp [Numeral.chars]⟩
    · exact fun c hc => hdigits c (List.mem_cons.mpr (.inl (List.mem_singleton.mp hc)))
    · exact fun c hc => hdigits c (List.mem_cons_of_mem _ hc)
    · simp only [Numeral.decimal, value, List.singleton_append, Option.getD_some, hvalue, hleading,
        List.length_cons]
      congr 2
      omega

/-- The text of a number is that of a numeral, which stands for the shortest decimal. -/
theorem exists_numeral_chars (x : Binary64) : ∃ n : Numeral,
    Denotes n x.negative (if x.isZero then ⟨0, 0⟩ else x.shortest layout.tie) ∧
      n.chars layout = layout.chars x := by
  rw [chars, magnitude]
  by_cases hzero : x.isZero = true
  · rw [if_pos hzero, if_pos hzero]
    exact exists_numeral_point layout x.negative ⟨0, 0⟩
  · rw [if_neg hzero, if_neg hzero]
    by_cases hpositional : layout.positional (x.shortest layout.tie).leading = true
    · rw [if_pos hpositional]
      exact exists_numeral_point layout x.negative _
    · rw [if_neg hpositional]
      exact exists_numeral_scientific layout x.negative _

/-- A number that can be represented is the one nearest to the decimal of its text. -/
theorem ofDecimal_of_denotes {x : Binary64} (hx : Binary64.Representable x.ticks) {n : Numeral}
    (h : Denotes n x.negative (if x.isZero then ⟨0, 0⟩ else x.shortest layout.tie)) :
    Extended.ofDecimal n.negative n.decimal.digits n.decimal.exponent = .finite x := by
  have hvalue := h.value
  rw [h.negative]
  split at hvalue
  · next hzero =>
    have hticks : x.ticks = 0 := eq_of_beq hzero
    have hdigits : n.decimal.digits = 0 := by
      have hten : (10 : ℚ) ^ n.decimal.exponent ≠ 0 := zpow_ne_zero _ (by norm_num)
      simpa [value, hten] using hvalue
    rw [Extended.ofDecimal, if_pos (.inl hdigits), ← hticks]
  · next hzero =>
    have hticks : x.ticks ≠ 0 := fun e => hzero (beq_of_eq e)
    refine Extended.ofDecimal_eq_finite ?_ hticks
    rw [Binary64.ofDecimal?_congr hvalue]
    exact Binary64.ofDecimal?_shortest hx layout.tie

/-- The text of a number reads back as the number. -/
theorem read?_chars (hsign : Numeral.SignsPlainly layout) {x : Binary64}
    (hx : Binary64.Representable x.ticks) :
    Extended.read? (layout.chars x) = some (.finite x) := by
  obtain ⟨n, hn, hchars⟩ := exists_numeral_chars layout x
  rw [← hchars, Extended.read?_chars hsign hn.proper, ofDecimal_of_denotes layout hx hn]

end Layout

end Decimal

end MockBuilders
