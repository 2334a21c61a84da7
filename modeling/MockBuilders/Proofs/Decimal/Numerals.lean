import Mathlib
import MockBuilders.Decimal.Reading

/-!
Numerals written out: their parts are found again in the text.
Main statement: `Extended.read?_chars`.
-/
namespace MockBuilders

section Span
variable {α : Type} {p : α → Bool} {xs ys : List α}

theorem takeWhile_append_of_head (hxs : ∀ x ∈ xs, p x = true) (hys : ∀ y ∈ ys.head?, p y = false) :
    (xs ++ ys).takeWhile p = xs := by
  rw [List.takeWhile_append_of_pos hxs]
  cases ys with
  | nil => simp
  | cons y ys => simp [hys y rfl]

theorem dropWhile_append_of_head (hxs : ∀ x ∈ xs, p x = true) (hys : ∀ y ∈ ys.head?, p y = false) :
    (xs ++ ys).dropWhile p = ys := by
  rw [List.dropWhile_append_of_pos hxs]
  cases ys with
  | nil => rfl
  | cons y ys => simp [hys y rfl]

end Span

theorem digitsValue_eq (cs : List Char) : digitsValue cs = Nat.ofDigitChars 10 cs 0 := rfl

namespace Numeral

/-- What a numeral stands for, its sign apart. -/
def decimal (n : Numeral) : Decimal :=
  ⟨digitsValue (n.whole ++ n.fraction.getD []), n.exponent.getD 0 - (n.fraction.getD []).length⟩

/-- How a layout writes the parts of a numeral. -/
def chars (layout : Decimal.Layout) (n : Numeral) : List Char :=
  (if n.negative then ['-'] else []) ++
    (n.whole ++ (n.fraction.elim [] ('.' :: ·) ++ n.exponent.elim [] layout.exponent))

/-- Digits before the point, and only digits after it. -/
structure Proper (n : Numeral) : Prop where
  whole_ne_nil : n.whole ≠ []
  whole_digits : ∀ c ∈ n.whole, c.isDigit = true
  fraction_digits : ∀ c ∈ n.fraction.getD [], c.isDigit = true

theorem isDigit_of_mem_digitChars {n : Nat} {c : Char} (h : c ∈ Decimal.digitChars n) :
    c.isDigit = true :=
  Nat.isDigit_of_mem_toDigits (by decide) (by decide) h

theorem digits?_append {ds rest : List Char} (hne : ds ≠ []) (hds : ∀ c ∈ ds, c.isDigit = true)
    (hrest : ∀ c ∈ rest.head?, c.isDigit = false) : digits? (ds ++ rest) = some (ds, rest) := by
  rw [digits?, takeWhile_append_of_head hds hrest, dropWhile_append_of_head hds hrest, if_neg hne]

theorem digits?_digitChars (n : Nat) :
    digits? (Decimal.digitChars n) = some (Decimal.digitChars n, []) := by
  have hend : ∀ c ∈ ([] : List Char).head?, c.isDigit = false := by simp
  have hread := digits?_append (Nat.toDigits_ne_nil (n := n) (b := 10))
    (fun c hc => isDigit_of_mem_digitChars hc) hend
  rwa [List.append_nil] at hread

theorem digitsValue_digitChars (n : Nat) : digitsValue (Decimal.digitChars n) = n :=
  Nat.ofDigitChars_ten_toDigits

theorem digitsValue_append (xs ys : List Char) :
    digitsValue (xs ++ ys) = 10 ^ ys.length * digitsValue xs + digitsValue ys := by
  simp only [digitsValue_eq, Nat.ofDigitChars_append]
  exact Nat.ofDigitChars_eq_ofDigitChars_zero

theorem digitsValue_zeros (k : Nat) : digitsValue (Decimal.zeros k) = 0 := by
  rw [digitsValue_eq, Decimal.zeros, Nat.ofDigitChars_replicate_zero, Nat.mul_zero]

theorem sign_cons_of_digit {c : Char} (h : c.isDigit = true) (cs : List Char) :
    sign (c :: cs) = (false, c :: cs) := by
  have hplus : c ≠ '+' := by rintro rfl; cases h
  have hminus : c ≠ '-' := by rintro rfl; cases h
  simp [sign, minus, hplus, hminus]

theorem sign_digitChars (n : Nat) :
    sign (Decimal.digitChars n) = (false, Decimal.digitChars n) := by
  obtain ⟨c, cs, hc⟩ := List.exists_cons_of_ne_nil (Nat.toDigits_ne_nil (n := n) (b := 10))
  have hdigit : c.isDigit = true :=
    Nat.isDigit_of_mem_toDigits (by decide) (by decide) (hc ▸ List.mem_cons_self)
  rw [Decimal.digitChars, hc, sign_cons_of_digit hdigit]

/-- A layout signs exponents that are not negative with a plus or not at all. -/
def SignsPlainly (layout : Decimal.Layout) : Prop :=
  layout.exponentSign = [] ∨ layout.exponentSign = ['+']

theorem exponent?_exponent {layout : Decimal.Layout} (hsign : SignsPlainly layout) (e : Int) :
    exponent? (layout.exponent e) = some (some e, []) := by
  have hread (negative : Bool) (cs : List Char)
      (hcs : sign cs = (negative, Decimal.digitChars e.natAbs)) :
      exponent? ('e' :: cs) =
        some (some (if negative then -(e.natAbs : Int) else e.natAbs), []) := by
    simp only [exponent?, true_or, if_true, hcs, digits?_digitChars, Option.map_some,
      digitsValue_digitChars]
  rw [Decimal.Layout.exponent, List.cons_append]
  split
  · next he =>
    have habs : -(e.natAbs : Int) = e := by omega
    rw [hread true _ rfl, if_pos rfl, habs]
  · next he =>
    have habs : (e.natAbs : Int) = e := by omega
    rcases hsign with hnone | hplus
    · rw [hnone, List.nil_append, hread false _ (sign_digitChars _)]
      simp [habs]
    · rw [hplus, hread false _ rfl]
      simp [habs]

variable {n : Numeral}

theorem sign_chars {layout : Decimal.Layout} (hn : n.Proper) :
    sign (n.chars layout) = (n.negative,
      n.whole ++ (n.fraction.elim [] ('.' :: ·) ++ n.exponent.elim [] layout.exponent)) := by
  obtain ⟨c, cs, hc⟩ := List.exists_cons_of_ne_nil hn.whole_ne_nil
  rw [chars, hc]
  cases n.negative with
  | true => rfl
  | false => exact sign_cons_of_digit (hn.whole_digits c (hc ▸ List.mem_cons_self)) _

end Numeral

namespace Extended

/-- No word begins with a digit. -/
theorem lower_ne_of_digit {c : Char} (h : c.isDigit = true) (cs : List Char) {word : String}
    (hword : ∀ d ∈ word.toList.head?, d.isDigit = false) :
    String.ofList ((c :: cs).map Char.toLower) ≠ word := by
  have hlower : c.toLower = c := by
    have hle : c.toNat ≤ 57 := by
      simp only [Char.isDigit, Bool.and_eq_true, decide_eq_true_eq] at h
      exact h.2
    have hupper : ¬ (c.val ≥ 'A'.val ∧ c.val ≤ 'Z'.val) := by
      rintro ⟨hA, -⟩
      have : 65 ≤ c.toNat := hA
      omega
    simp only [Char.toLower, hupper, dite_false]
  rintro rfl
  rw [String.toList_ofList, List.map_cons, List.head?_cons, hlower] at hword
  exact absurd (hword c rfl) (by simp [h])

/-- A numeral is read as the decimal that it stands for. -/
theorem read?_chars {layout : Decimal.Layout} (hsign : Numeral.SignsPlainly layout) {n : Numeral}
    (hn : n.Proper) : read? (n.chars layout) =
      some (ofDecimal n.negative n.decimal.digits n.decimal.exponent) := by
  obtain ⟨c, cs, hc⟩ := List.exists_cons_of_ne_nil hn.whole_ne_nil
  have hword {word : String} (h : ∀ d ∈ word.toList.head?, d.isDigit = false) (rest : List Char) :
      String.ofList ((n.whole ++ rest).map Char.toLower) ≠ word := by
    rw [hc]
    exact lower_ne_of_digit (hn.whole_digits c (hc ▸ List.mem_cons_self)) _ h
  have hexp : ∀ c ∈ (n.exponent.elim [] layout.exponent).head?, c.isDigit = false := by
    cases n.exponent <;> simp [Decimal.Layout.exponent]
  have hread : Numeral.exponent? (n.exponent.elim [] layout.exponent) = some (n.exponent, []) := by
    cases n.exponent with
    | none => rfl
    | some e => exact Numeral.exponent?_exponent hsign e
  have hinf : ∀ d ∈ "inf".toList.head?, d.isDigit = false := by simp
  have hinfinity : ∀ d ∈ "infinity".toList.head?, d.isDigit = false := by simp
  have hnan : ∀ d ∈ "nan".toList.head?, d.isDigit = false := by simp
  simp only [read?, Numeral.sign_chars hn, hword hinf, hword hinfinity, hword hnan, or_self,
    if_false]
  have hfraction := hn.fraction_digits
  cases hf : n.fraction with
  | none =>
    have hhead : ¬ (n.exponent.elim [] layout.exponent).head? = some '.' := by
      cases n.exponent <;> simp [Decimal.Layout.exponent]
    simp only [Option.elim_none, List.nil_append, takeWhile_append_of_head hn.whole_digits hexp,
      dropWhile_append_of_head hn.whole_digits hexp, hhead, if_false, List.takeWhile_nil,
      List.append_nil, hn.whole_ne_nil, hread, Numeral.decimal, hf, Option.getD_none]
  | some fraction =>
    rw [hf, Option.getD_some] at hfraction
    have hpoint (cs : List Char) : ∀ c ∈ ('.' :: cs).head?, c.isDigit = false := by simp
    simp only [Option.elim_some, List.cons_append,
      takeWhile_append_of_head hn.whole_digits (hpoint _),
      dropWhile_append_of_head hn.whole_digits (hpoint _), List.head?_cons, if_true,
      List.drop_succ_cons, List.drop_zero, takeWhile_append_of_head hfraction hexp,
      dropWhile_append_of_head hfraction hexp, List.append_eq_nil_iff, hn.whole_ne_nil, false_and,
      if_false, hread, Numeral.decimal, hf, Option.getD_some]

end Extended

end MockBuilders
