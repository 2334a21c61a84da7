import MockBuilders.Json.Text
import MockBuilders.Proofs.Decimal.ReadBack

/-!
Texts of numbers: they end where no character of a number follows, and each is the text of one
number only. Main statement: `Number.chars_injective`.
-/
namespace MockBuilders

namespace Number

/-- The characters of numbers. -/
def isMark (c : Char) : Bool := c.isDigit || c == '-' || c == '+' || c == '.' || c == 'e'

theorem isMark_of_mem_digitChars {n : Nat} {c : Char} (h : c ∈ Decimal.digitChars n) :
    isMark c = true := by
  have hc : c.isDigit = true := Nat.isDigit_of_mem_toDigits (by decide) (by decide) h
  simp [isMark, hc]

theorem isMark_of_mem_zeros {n : Nat} {c : Char} (h : c ∈ Decimal.zeros n) : isMark c = true := by
  rw [List.eq_of_mem_replicate h]
  rfl

theorem isMark_of_mem_point {d : Decimal} {c : Char} (h : c ∈ layout.point d) :
    isMark c = true := by
  unfold Decimal.Layout.point at h
  split at h
  · simp only [List.mem_append] at h
    rcases h with (h | h) | h
    · exact isMark_of_mem_digitChars h
    · exact isMark_of_mem_zeros h
    · rcases List.mem_cons.mp h with rfl | h
      · rfl
      · rw [List.mem_singleton.mp h]; rfl
  · have hpadded {k : Nat} (h : c ∈ Decimal.zeros k ++ Decimal.digitChars d.digits) :
        isMark c = true :=
      (List.mem_append.mp h).elim isMark_of_mem_zeros isMark_of_mem_digitChars
    simp only [List.mem_append, List.mem_cons] at h
    rcases h with h | rfl | h
    · exact hpadded (List.mem_of_mem_take h)
    · rfl
    · exact hpadded (List.mem_of_mem_drop h)

theorem isMark_of_mem_scientific {d : Decimal} {c : Char} (h : c ∈ layout.scientific d) :
    isMark c = true := by
  have hexponent (h : c ∈ layout.exponent d.leading) : isMark c = true := by
    simp only [Decimal.Layout.exponent, List.cons_append, List.mem_cons, List.mem_append] at h
    rcases h with rfl | h | h
    · rfl
    · split at h
      · rw [List.mem_singleton.mp h]; rfl
      · rw [List.mem_singleton.mp h]; rfl
    · exact isMark_of_mem_digitChars h
  unfold Decimal.Layout.scientific at h
  have hdigits (h : c ∈ Decimal.digitChars d.digits) := isMark_of_mem_digitChars h
  simp only [List.mem_append] at h
  rcases h with h | h
  · split at h
    · next hd =>
      simp only [hd, List.mem_cons] at hdigits h
      rcases h with h | rfl | h | h
      · exact hdigits (.inl h)
      · rfl
      · exact hdigits (.inr (.inl h))
      · exact hdigits (.inr (.inr h))
    · exact hdigits h
  · exact hexponent h

theorem isMark_of_mem_chars {n : Number} {c : Char} (h : c ∈ n.chars) : isMark c = true := by
  have hsign {b : Prop} [Decidable b] (h : c ∈ if b then ['-'] else []) : isMark c = true := by
    split at h
    · rw [List.mem_singleton.mp h]; rfl
    · cases h
  cases n with
  | integer value =>
    rcases List.mem_append.mp h with h | h
    · exact hsign h
    · exact isMark_of_mem_digitChars h
  | binary x =>
    rcases List.mem_append.mp h with h | h
    · exact hsign h
    · simp only [Decimal.Layout.magnitude] at h
      split at h
      · exact isMark_of_mem_point h
      · split at h
        · exact isMark_of_mem_point h
        · exact isMark_of_mem_scientific h

theorem digitChars_ne_nil (n : Nat) : Decimal.digitChars n ≠ [] := Nat.toDigits_ne_nil

theorem chars_ne_nil (n : Number) : n.chars ≠ [] := by
  cases n with
  | integer value => simp [chars, digitChars_ne_nil]
  | binary x =>
    have hpoint (d : Decimal) : layout.point d ≠ [] := by
      simp only [Decimal.Layout.point]
      split <;> simp [digitChars_ne_nil]
    have hscientific (d : Decimal) : layout.scientific d ≠ [] := by
      simp [Decimal.Layout.scientific, Decimal.Layout.exponent]
    have hmagnitude : layout.magnitude x ≠ [] := by
      simp only [Decimal.Layout.magnitude]
      split
      · exact hpoint _
      · split
        · exact hpoint _
        · exact hscientific _
    simp [chars, Decimal.Layout.chars, hmagnitude]

/-- A number ends where no mark follows. -/
theorem chars_append_inj {x y : Number} {r r' : List Char} (hr : ∀ c ∈ r.head?, isMark c = false)
    (hr' : ∀ c ∈ r'.head?, isMark c = false) (h : x.chars ++ r = y.chars ++ r') :
    x.chars = y.chars ∧ r = r' := by
  have hchars := congrArg (List.takeWhile isMark) h
  rw [takeWhile_append_of_head (fun c hc => isMark_of_mem_chars hc) hr,
    takeWhile_append_of_head (fun c hc => isMark_of_mem_chars hc) hr'] at hchars
  exact ⟨hchars, List.append_cancel_left (hchars ▸ h)⟩

/-- Whole numbers are exact, and binary ones have at most 53 leading bits. -/
def Representable : Number → Prop
  | integer _ => True
  | binary x => Binary64.Representable x.ticks

theorem readInteger?_chars (value : Int) : readInteger? (integer value).chars = some value := by
  rw [chars]
  split
  · next hneg =>
    have hsign : Numeral.sign ('-' :: Decimal.digitChars value.natAbs) =
      (true, Decimal.digitChars value.natAbs) := rfl
    simp only [readInteger?, List.singleton_append, hsign, Numeral.digits?_digitChars,
      if_true,
      Numeral.digitsValue_digitChars]
    congr 1
    omega
  · next hneg =>
    simp only [readInteger?, List.nil_append, Numeral.sign_digitChars,
      Numeral.digits?_digitChars,
      Numeral.digitsValue_digitChars]
    have habs : (value.natAbs : Int) = value := by omega
    simp [habs]

/-- A binary number is written with a point or an exponent. -/
theorem exists_mem_binary_chars (x : Binary64) :
    '.' ∈ (binary x).chars ∨ 'e' ∈ (binary x).chars := by
  have hpoint (d : Decimal) : '.' ∈ layout.point d := by
    simp only [Decimal.Layout.point]
    split <;> simp [layout]
  have hscientific (d : Decimal) : 'e' ∈ layout.scientific d := by
    simp [Decimal.Layout.scientific, Decimal.Layout.exponent]
  have hmagnitude : '.' ∈ layout.magnitude x ∨ 'e' ∈ layout.magnitude x := by
    simp only [Decimal.Layout.magnitude]
    split
    · exact .inl (hpoint _)
    · split
      · exact .inl (hpoint _)
      · exact .inr (hscientific _)
  simp only [chars, Decimal.Layout.chars, List.mem_append]
  exact hmagnitude.imp .inr .inr

theorem integer_chars_ne (value : Int) (x : Binary64) :
    (integer value).chars ≠ (binary x).chars := by
  have hinteger : ∀ c ∈ (integer value).chars, c = '-' ∨ c.isDigit = true := by
    intro c hc
    rcases List.mem_append.mp hc with hc | hc
    · left
      split at hc
      · exact List.mem_singleton.mp hc
      · cases hc
    · exact .inr (Numeral.isDigit_of_mem_digitChars hc)
  intro h
  rcases exists_mem_binary_chars x with hmem | hmem
  · exact absurd (hinteger _ (h ▸ hmem)) (by decide)
  · exact absurd (hinteger _ (h ▸ hmem)) (by decide)

/-- Numbers of one text are equal. -/
theorem chars_injective {x y : Number} (hx : x.Representable) (hy : y.Representable)
    (h : x.chars = y.chars) : x = y := by
  cases x with
  | integer a =>
    cases y with
    | integer b =>
      have hread := (readInteger?_chars a).symm.trans ((congrArg _ h).trans (readInteger?_chars b))
      rw [Option.some.inj hread]
    | binary y => exact absurd h (integer_chars_ne a y)
  | binary x =>
    cases y with
    | integer b => exact absurd h.symm (integer_chars_ne b x)
    | binary y =>
      have hread := (layout.read?_chars (.inr rfl) hx).symm.trans
        ((congrArg _ h).trans (layout.read?_chars (.inr rfl) hy))
      rw [Extended.finite.inj (Option.some.inj hread)]

end Number

end MockBuilders
