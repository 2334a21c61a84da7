import MockBuilders.Proofs.Decimal.Nearest
import MockBuilders.Proofs.Decimal.ReadBack
import MockBuilders.Proofs.Toml.Documents

/-!
Numbers of TOML documents: what is written for a number between zero and one is read as a number.
Main statement: `Toml.exists_reread_float`.
-/
namespace MockBuilders

namespace Extended

/-- Decimals up to one are no infinity. -/
theorem exists_ofDecimal_eq_finite {d : Decimal} (h : d.value ≤ 1) (negative : Bool) :
    ∃ x, ofDecimal negative d.digits d.exponent = finite x := by
  unfold ofDecimal
  dsimp only
  split
  · exact ⟨_, rfl⟩
  · next hdigits =>
    rw [not_or] at hdigits
    have hgreatest : ¬ greatestExponent < d.exponent + Decimal.digitCount d.digits := by
      intro hlt
      have hle : (10 : ℚ) ^ (309 : ℤ) ≤
          (10 : ℚ) ^ (d.exponent + Decimal.digitCount d.digits - 1) :=
        zpow_le_zpow_right₀ (by norm_num) (by unfold greatestExponent at hlt; omega)
      have hone : (1 : ℚ) < (10 : ℚ) ^ (309 : ℤ) := one_lt_zpow₀ (by norm_num) (by norm_num)
      exact absurd ((hone.trans_le hle).trans_le (Decimal.le_value hdigits.1)) (not_lt.mpr h)
    rw [if_neg hgreatest]
    have hticks : ∃ x, Binary64.ofDecimal? negative d.digits d.exponent = some x := by
      have hden : 0 < Nat.pow 10 (-d.exponent).toNat := Nat.pow_pos (by decide)
      have hdenq : (0 : ℚ) < (Nat.pow 10 (-d.exponent).toNat : Nat) := by exact_mod_cast hden
      rw [Decimal.value_eq_div, div_le_one hdenq, Nat.cast_le] at h
      have hone := Binary64.representable_pow_two
        (show Binary64.places < 1024 + Binary64.places from Nat.lt_add_of_pos_left (by decide))
      have hlt := (Binary64.nearestTicks_le hden hone
        ((Nat.mul_le_mul_right _ h).trans_eq (Nat.mul_comm _ _))).trans_lt hone.2
      exact ⟨_, by rw [Binary64.ofDecimal?, Binary64.ofRatio?, if_pos hlt]⟩
    obtain ⟨x, hx⟩ := hticks
    exact ⟨x, by rw [hx]⟩

end Extended

namespace Binary64

variable {x : Binary64} {d : Decimal}

/-- The shortest decimal reads back, or is the exact one. -/
theorem exists_shortest_eq (x : Binary64) (tie : Tie) :
    ∃ d, (x.shortest tie).value = d.value ∧ (x.readsBack d = true ∨ d = x.exact) := by
  rw [shortest]
  refine ⟨_, Decimal.value_trim _, ?_⟩
  cases hfind : (List.range 17).findSome? fun n => x.withDigits? tie (n + 1) with
  | none => exact .inr rfl
  | some d =>
    obtain ⟨n, -, hn⟩ := List.exists_of_findSome?_eq_some hfind
    exact .inl (readsBack_of_withDigits? hn)

theorem value_exact (x : Binary64) : x.exact.value = x.ticks / (Nat.pow 2 places : Nat) := by
  have hten : (10 : ℚ) ^ places = 5 ^ places * 2 ^ places := by rw [← mul_pow]; norm_num
  simp only [exact, Decimal.value, zpow_neg, zpow_natCast, Nat.pow_eq, Nat.cast_mul, Nat.cast_pow,
    Nat.cast_ofNat, hten]
  field_simp

theorem value_ne_zero_of_readsBack (hx : x.ticks ≠ 0) (h : x.readsBack d = true) :
    d.value ≠ 0 := by
  intro hzero
  have hten : (10 : ℚ) ^ d.exponent ≠ 0 := zpow_ne_zero _ (by norm_num)
  have hdigits : d.digits = 0 := by simpa [Decimal.value, hten] using hzero
  obtain ⟨hnearest, -⟩ := ofRatio?_eq_some (eq_of_beq h)
  have hticks : x.ticks = nearestTicks (d.digits * Nat.pow 10 d.exponent.toNat)
    (Nat.pow 10 (-d.exponent).toNat) := congrArg Binary64.ticks hnearest
  rw [hdigits, Nat.zero_mul] at hticks
  refine hx (hticks.trans (nearestTicks_eq_zero ?_))
  rw [Nat.zero_mul]
  exact Nat.pow_pos (by decide)

theorem digits_shortest_ne_zero (hx : x.ticks ≠ 0) (tie : Tie) : (x.shortest tie).digits ≠ 0 := by
  obtain ⟨d, hvalue, hd⟩ := exists_shortest_eq x tie
  have hne : d.value ≠ 0 := by
    rcases hd with hd | rfl
    · exact value_ne_zero_of_readsBack hx hd
    · rw [value_exact]
      have hpos : (Nat.pow 2 places : Nat) ≠ 0 := (pow_two_pos places).ne'
      exact div_ne_zero (by exact_mod_cast hx) (by exact_mod_cast hpos)
  intro hzero
  rw [← hvalue, Decimal.value, hzero, Nat.cast_zero, zero_mul] at hne
  exact hne rfl

/-- Whatever decimal has the value of the shortest one of a number up to one is finite. -/
theorem exists_ofDecimal_eq_finite (hx : x.ticks ≠ 0) (hle : x.ticks ≤ Nat.pow 2 places) {tie : Tie}
    (h : d.value = (x.shortest tie).value) :
    ∃ y, Extended.ofDecimal x.negative d.digits d.exponent = .finite y := by
  obtain ⟨d', hvalue, hd⟩ := exists_shortest_eq x tie
  rw [hvalue] at h
  rcases hd with hd | rfl
  · refine ⟨x, Extended.ofDecimal_eq_finite ?_ hx⟩
    rw [ofDecimal?_congr h]
    exact eq_of_beq hd
  · refine Extended.exists_ofDecimal_eq_finite ?_ _
    rw [h, value_exact]
    exact div_le_one_of_le₀ (by exact_mod_cast hle) (Nat.cast_nonneg _)

end Binary64

namespace Decimal

/-- A numeral begins with a zero only if that is its only digit before the point. -/
def Unpadded (cs : List Char) : Prop := cs.head? ≠ some '0' ∨ cs.length = 1

theorem head?_digitChars_ne_zero {n : Nat} (hn : n ≠ 0) : (digitChars n).head? ≠ some '0' := by
  induction n using Nat.strongRecOn with
  | ind n ih =>
    rw [digitChars, Nat.toDigits_eq_if (by decide)]
    split
    · simpa [Nat.digitChar_eq_zero] using hn
    · next hlarge =>
      have hquotient : n / 10 ≠ 0 := by omega
      have hhead := ih (n / 10) (by omega) hquotient
      rwa [List.head?_append_of_ne_nil _ Nat.toDigits_ne_nil]

/-- Digits before a point and behind it. -/
structure Parted (cs whole fraction : List Char) : Prop where
  eq : cs = whole ++ '.' :: fraction
  whole_ne_nil : whole ≠ []
  fraction_ne_nil : fraction ≠ []
  whole_digits : ∀ c ∈ whole, c.isDigit = true
  fraction_digits : ∀ c ∈ fraction, c.isDigit = true
  unpadded : Unpadded whole

namespace Layout

variable (layout : Layout) {d : Decimal}

theorem parted_point_of_nonneg (hpoint : layout.wholePoint = true)
    (hd : d.digits ≠ 0 ∨ d.exponent = 0) (hexponent : 0 ≤ d.exponent) :
    Parted (layout.point d) (digitChars d.digits ++ zeros d.exponent.toNat) ['0'] where
  eq := by rw [point, if_pos hexponent, hpoint, if_pos rfl]
  whole_ne_nil := by simp [show digitChars d.digits ≠ [] from Nat.toDigits_ne_nil]
  fraction_ne_nil := by simp
  whole_digits c hc := (List.mem_append.mp hc).elim Numeral.isDigit_of_mem_digitChars
    isDigit_of_mem_zeros
  fraction_digits := by simp
  unpadded := by
    by_cases hzero : d.digits = 0
    · rw [hzero, hd.resolve_left (not_not_intro hzero)]
      exact .inr rfl
    · have hne : digitChars d.digits ≠ [] := Nat.toDigits_ne_nil
      rw [Unpadded, List.head?_append_of_ne_nil _ hne]
      exact .inl (head?_digitChars_ne_zero hzero)

theorem exists_parted_point_of_neg (hd : d.digits ≠ 0) (hexponent : ¬ 0 ≤ d.exponent) :
    ∃ whole fraction, Parted (layout.point d) whole fraction := by
  have hhead := head?_digitChars_ne_zero hd
  have hplaces : 0 < (-d.exponent).toNat := by omega
  simp only [point, hexponent, if_false]
  generalize (-d.exponent).toNat = places at hplaces
  have hcs : ∀ c ∈ digitChars d.digits, c.isDigit = true := fun c hc =>
    Numeral.isDigit_of_mem_digitChars hc
  generalize digitChars d.digits = cs at hhead hcs
  have hpadded : ∀ c ∈ zeros (places + 1 - cs.length) ++ cs, c.isDigit = true := fun c hc =>
    (List.mem_append.mp hc).elim isDigit_of_mem_zeros (hcs c)
  have hlength : (zeros (places + 1 - cs.length) ++ cs).length =
      places + 1 - cs.length + cs.length := by
    rw [List.length_append, zeros, List.length_replicate]
  refine ⟨_, _, rfl, ?_, ?_, fun c hc => hpadded c (List.mem_of_mem_take hc),
    fun c hc => hpadded c (List.mem_of_mem_drop hc), ?_⟩
  · refine List.ne_nil_of_length_pos ?_
    rw [List.length_take, hlength]
    omega
  · refine List.ne_nil_of_length_pos ?_
    rw [List.length_drop, hlength]
    omega
  · by_cases hlong : places < cs.length
    · have hnone : places + 1 - cs.length = 0 := by omega
      rw [Unpadded, hnone, zeros, List.replicate_zero, List.nil_append, List.head?_take,
        if_neg (by omega)]
      exact .inl hhead
    · right
      rw [List.length_take, hlength]
      omega

/-- With a point, there are digits before it and behind it. -/
theorem exists_parted_point (hpoint : layout.wholePoint = true)
    (hd : d.digits ≠ 0 ∨ d.exponent = 0) :
    ∃ whole fraction, Parted (layout.point d) whole fraction := by
  by_cases hexponent : 0 ≤ d.exponent
  · exact ⟨_, _, parted_point_of_nonneg layout hpoint hd hexponent⟩
  · have hnonzero : d.digits ≠ 0 := hd.resolve_right fun h => hexponent h.ge
    exact exists_parted_point_of_neg layout hnonzero hexponent

end Layout

end Decimal

namespace Toml

variable {cs ds : List Char}

theorem ungrouped?_digits (hne : ds ≠ []) (hds : ∀ c ∈ ds, c.isDigit = true) :
    ungrouped? Char.isDigit ds = some ds := by
  induction ds with
  | nil => exact absurd rfl hne
  | cons c ds ih =>
    obtain ⟨hc, hds⟩ := List.forall_mem_cons.mp hds
    cases ds with
    | nil => rw [ungrouped?, if_pos hc]
    | cons d ds =>
      have hd : d ≠ '_' := by
        rintro rfl
        exact absurd (hds '_' List.mem_cons_self) (by decide)
      rw [ungrouped?, if_pos hc, ih (List.cons_ne_nil d ds) hds]
      · rfl
      · exact fun h => hd h

theorem ungrouped?_eq_none {c : Char} (hc : c ∈ cs) (hdigit : c.isDigit = false)
    (hgroup : c ≠ '_') : ungrouped? Char.isDigit cs = none := by
  fun_induction ungrouped? Char.isDigit cs with
  | case1 => cases hc
  | case2 d hd =>
    rw [List.mem_singleton.mp hc, hd] at hdigit
    cases hdigit
  | case3 => rfl
  | case4 d cs hd ih =>
    have hne : c ≠ d := fun e => absurd hd (by simp [← e, hdigit])
    rw [ih (by simpa [hne, hgroup] using hc)]
    rfl
  | case6 d e cs he hd ih =>
    have hne : c ≠ d := fun e => absurd hd (by simp [← e, hdigit])
    rw [ih (by simpa [hne] using hc)]
    rfl
  | _ => rfl

section Numeral
variable {n : Numeral} (layout : Decimal.Layout) {fraction : List Char}

/-- A numeral with a point and without an exponent. -/
structure Pointed (n : Numeral) (fraction : List Char) : Prop where
  proper : n.Proper
  unpadded : Decimal.Unpadded n.whole
  fraction_eq : n.fraction = some fraction
  fraction_ne_nil : fraction ≠ []
  exponent_eq : n.exponent = none

theorem Pointed.sign_chars (h : Pointed n fraction) :
    Numeral.sign (n.chars layout) = (n.negative, n.whole ++ '.' :: fraction) := by
  rw [Numeral.sign_chars h.proper, h.fraction_eq, h.exponent_eq]
  simp

theorem Pointed.digits (h : Pointed n fraction) : ∀ c ∈ fraction, c.isDigit = true := by
  have hdigits := h.proper.fraction_digits
  rwa [h.fraction_eq] at hdigits

theorem whole?_of_unpadded (hne : ds ≠ []) (hds : ∀ c ∈ ds, c.isDigit = true)
    (h : Decimal.Unpadded ds) : whole? ds = some ds := by
  rw [whole?, ungrouped?_digits hne hds, Option.filter_some, if_pos]
  rcases h with h | h <;> simp [h]

theorem isExponentMark_of_digit {c : Char} (h : c.isDigit = true) : isExponentMark c = false := by
  rw [Bool.eq_false_iff]
  intro hmark
  simp only [isExponentMark, Bool.or_eq_true, beq_iff_eq] at hmark
  rcases hmark with rfl | rfl <;> cases h

theorem decimal?_chars (h : Pointed n fraction) {x : Binary64}
    (hx : Extended.ofDecimal n.negative n.decimal.digits n.decimal.exponent = .finite x) :
    decimal? (n.chars layout) = some (.finite x) := by
  have hmarks : ∀ c ∈ n.whole ++ '.' :: fraction, (!isExponentMark c) = true := by
    intro c hc
    rcases List.mem_append.mp hc with hc | hc
    · rw [isExponentMark_of_digit (h.proper.whole_digits c hc)]
      rfl
    · rcases List.mem_cons.mp hc with rfl | hc
      · rfl
      · rw [isExponentMark_of_digit (h.digits c hc)]
        rfl
  have hpoint : ∀ c ∈ n.whole, (c != '.') = true := by
    intro c hc
    rw [bne_iff_ne]
    rintro rfl
    exact absurd (h.proper.whole_digits _ hc) (by decide)
  have hhead : ∀ c ∈ ('.' :: fraction).head?, (c != '.') = false := by simp
  have htake := List.takeWhile_eq_self_iff.mpr hmarks
  have hdrop := List.dropWhile_eq_nil_iff.mpr hmarks
  have hfractional : isFractional (n.whole ++ '.' :: fraction) = true := by simp [isFractional]
  have hvalue : Extended.ofDecimal n.negative (digitsValue (n.whole ++ fraction))
      (0 - fraction.length) = .finite x := by
    simpa [Numeral.decimal, h.fraction_eq, h.exponent_eq] using hx
  simp only [decimal?, h.sign_chars layout, htake, hdrop, takeWhile_append_of_head hpoint hhead,
    dropWhile_append_of_head hpoint hhead, fraction?, exponent?,
    whole?_of_unpadded h.proper.whole_ne_nil h.proper.whole_digits h.unpadded,
    ungrouped?_digits h.fraction_ne_nil h.digits, hfractional, Option.bind_eq_bind,
    Option.bind_some, hvalue]
  rfl

theorem Pointed.digit_or_point (h : Pointed n fraction) :
    ∀ c ∈ n.whole ++ '.' :: fraction, c.isDigit = true ∨ c = '.' := by
  intro c hc
  rcases List.mem_append.mp hc with hc | hc
  · exact .inl (h.proper.whole_digits c hc)
  · exact (List.mem_cons.mp hc).elim .inr fun hc => .inl (h.digits c hc)

/-- A point is in no whole number. -/
theorem integer?_chars (h : Pointed n fraction) : integer? (n.chars layout) = none := by
  have hsign := h.sign_chars layout
  have hbase : ∀ {c : Char} {ds : List Char}, n.chars layout = '0' :: c :: ds →
      c.isDigit = true ∨ c = '.' := by
    intro c ds heq
    rw [heq, Numeral.sign_cons_of_digit rfl] at hsign
    refine h.digit_or_point c ?_
    rw [← (Prod.mk.inj hsign).2]
    simp
  have hwhole : whole? (Numeral.sign (n.chars layout)).2 = none := by
    rw [hsign, whole?, ungrouped?_eq_none (c := '.') (by simp) (by decide) (by decide)]
    rfl
  unfold integer?
  dsimp only
  split
  · next heq => exact absurd (hbase heq) (by decide)
  · next heq => exact absurd (hbase heq) (by decide)
  · next heq => exact absurd (hbase heq) (by decide)
  · rw [hwhole]
    rfl

theorem float?_chars (h : Pointed n fraction) {x : Binary64}
    (hx : Extended.ofDecimal n.negative n.decimal.digits n.decimal.exponent = .finite x) :
    float? (n.chars layout) = some (.finite x) := by
  have hpoint : '.' ∈ (Numeral.sign (n.chars layout)).2 := by
    rw [h.sign_chars layout]
    simp
  unfold float?
  split
  · next heq =>
    rw [heq] at hpoint
    exact absurd hpoint (by decide)
  · next heq =>
    rw [heq] at hpoint
    exact absurd hpoint (by decide)
  · exact decimal?_chars layout h hx

theorem Pointed.chars_eq (h : Pointed n fraction) : n.chars layout =
    (if n.negative then ['-'] else []) ++ (n.whole ++ '.' :: fraction) := by
  rw [Numeral.chars, h.fraction_eq, h.exponent_eq]
  simp

theorem ofWord?_chars (h : Pointed n fraction) {x : Binary64}
    (hx : Extended.ofDecimal n.negative n.decimal.digits n.decimal.exponent = .finite x) :
    ofWord? (n.chars layout) = some (.float (.finite x)) := by
  have hpoint : '.' ∈ n.chars layout := by
    rw [h.chars_eq layout]
    simp
  unfold ofWord?
  split
  · next heq =>
    rw [heq] at hpoint
    exact absurd hpoint (by decide)
  · next heq =>
    rw [heq] at hpoint
    exact absurd hpoint (by decide)
  · rw [integer?_chars layout h, float?_chars layout h hx]

end Numeral

section Float
variable {x : Binary64}

/-- A decimal with its point, and with a sign if need be, is the text of a numeral. -/
theorem exists_pointed_point {d : Decimal} (hd : d.digits ≠ 0 ∨ d.exponent = 0) (negative : Bool) :
    ∃ (n : Numeral) (fraction : List Char), Pointed n fraction ∧
      n.chars layout = (if negative then ['-'] else []) ++ layout.point d := by
  obtain ⟨whole, fraction, hparted⟩ := Decimal.Layout.exists_parted_point layout rfl hd
  have hn : Pointed ⟨negative, whole, some fraction, none⟩ fraction :=
    ⟨⟨hparted.whole_ne_nil, hparted.whole_digits, hparted.fraction_digits⟩, hparted.unpadded, rfl,
      hparted.fraction_ne_nil, rfl⟩
  exact ⟨_, fraction, hn, by rw [hn.chars_eq, hparted.eq]⟩

/-- Numbers are written with a point and without an exponent. -/
theorem exists_pointed_chars (x : Binary64) : ∃ (n : Numeral) (fraction : List Char),
    Pointed n fraction ∧ n.chars layout = layout.chars x := by
  have hpositional (e : Int) : layout.positional e = true := rfl
  rw [Decimal.Layout.chars, Decimal.Layout.magnitude]
  by_cases hzero : x.isZero = true
  · rw [if_pos hzero]
    exact exists_pointed_point (Or.inr rfl) x.negative
  · have hticks : x.ticks ≠ 0 := fun e => hzero (beq_of_eq e)
    have hdigits := Binary64.digits_shortest_ne_zero hticks layout.tie
    rw [if_neg hzero]
    generalize x.shortest layout.tie = d at hdigits ⊢
    rw [if_pos (hpositional d.leading)]
    exact exists_pointed_point (Or.inl hdigits) x.negative

/-- The decimal of a number between zero and one is finite, too. -/
theorem exists_ofDecimal_of_chars (hx : x.inUnitInterval = true) {n : Numeral} (hn : n.Proper)
    (hchars : n.chars layout = layout.chars x) :
    ∃ y, Extended.ofDecimal n.negative n.decimal.digits n.decimal.exponent = .finite y := by
  have hsign : Numeral.SignsPlainly layout := .inr rfl
  obtain ⟨m, hm, hmchars⟩ := Decimal.Layout.exists_numeral_chars layout x
  have hsame := Extended.read?_chars hsign hn
  rw [hchars, ← hmchars, Extended.read?_chars hsign hm.proper] at hsame
  rw [← Option.some.inj hsame]
  have hvalue := hm.value
  rw [hm.negative]
  by_cases hzero : x.isZero = true
  · rw [if_pos hzero] at hvalue
    refine Extended.exists_ofDecimal_eq_finite ?_ x.negative
    have hvaluezero : Decimal.value ⟨0, 0⟩ = 0 := zero_mul _
    rw [hvalue, hvaluezero]
    exact zero_le_one
  · rw [if_neg hzero] at hvalue
    have hticks : x.ticks ≠ 0 := fun e => hzero (beq_of_eq e)
    have hle : x.ticks ≤ Nat.pow 2 Binary64.places := by
      unfold Binary64.inUnitInterval at hx
      rw [Bool.or_eq_true, or_iff_right hzero, Bool.and_eq_true] at hx
      exact of_decide_eq_true hx.2
    exact Binary64.exists_ofDecimal_eq_finite hticks hle hvalue

/-- A number between zero and one is read as a number. -/
theorem exists_reread_float (hx : x.inUnitInterval = true) :
    ∃ y, Reread (.float (.finite x)) (.float (.finite y)) := by
  obtain ⟨n, fraction, hn, hchars⟩ := exists_pointed_chars x
  obtain ⟨y, hy⟩ := exists_ofDecimal_of_chars hx hn.proper hchars
  have hword := ofWord?_chars layout hn hy
  have hwritten : lineChars (.float (.finite x)) = n.chars layout := by
    rw [hchars]
    exact String.toList_ofList
  have hmarks : ∀ c ∈ n.chars layout, c.isDigit = true ∨ c = '.' ∨ c = '-' := by
    intro c hc
    rw [hn.chars_eq] at hc
    rcases List.mem_append.mp hc with hc | hc
    · split at hc
      · exact .inr (.inr (List.mem_singleton.mp hc))
      · cases hc
    · exact (hn.digit_or_point c hc).imp_right .inl
  have hunbroken : '\r' ∉ n.chars layout := by
    intro h
    rcases hmarks _ h with h | h | h <;> revert h <;> decide
  have hne : n.chars layout ≠ [] := by
    rw [hn.chars_eq]
    simp
  have hplain : ∀ c ∈ n.chars layout, Token.isWordChar c = true := by
    intro c hc
    rcases hmarks c hc with hc | rfl | rfl
    · simp [Token.isWordChar, Token.isNameChar, Char.isAlphanum, hc]
    · rfl
    · rfl
  have hyields := StatementState.yields_word hne hplain hword
  exact ⟨y, ⟨0, by decide, by rwa [hwritten]⟩, by rwa [hwritten]⟩

end Float

end Toml

end MockBuilders
