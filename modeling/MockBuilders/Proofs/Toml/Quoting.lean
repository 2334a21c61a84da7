import Mathlib.Data.List.Basic
import MockBuilders.Toml.Quoted

/-!
Quoted strings of TOML read back, in each of the four styles: what stands between the quotes is
read as the string, and the reading ends where the writing did.
Main statement: `Toml.string?_quoted`.
-/
namespace MockBuilders.Toml

variable {c d : Char} {cs rest : List Char}

theorem ofCodePoint?_control : ∀ n < 128, (n < 32 ∨ n = 127) →
    Text.ofCodePoint? ['0', '0', upperHex (n / 16), upperHex (n % 16)] = some (Char.ofNat n) := by
  decide

theorem toNat_of_isControl (h : isControl c = true) : c.toNat < 32 ∨ c.toNat = 127 := by
  unfold isControl at h
  simp only [Bool.or_eq_true, Bool.and_eq_true, decide_eq_true_eq, beq_iff_eq] at h
  exact h.imp_left And.left

/-- A character other than a double quote is written as an escape of one letter, as its code point
if it is a control character, or as it is. -/
inductive Written (lines : Bool) (c : Char) : Prop
  | letter (e : Char) : escaped lines c = ['\\', e] → unescape? e = some c →
      e ∉ ['u', 'U', ' ', '\t', '\n'] → Written lines c
  | code (a b : Char) : escaped lines c = ['\\', 'u', '0', '0', a, b] →
      Text.ofCodePoint? ['0', '0', a, b] = some c → Written lines c
  | plain : escaped lines c = [c] → c ≠ '\\' →
      isControl c = false ∨ lines = true ∧ c = '\n' → Written lines c

theorem written (lines : Bool) (c : Char) : Written lines c := by
  by_cases hspecial : c = '\\' ∨ c = '\r' ∨ c = '\t' ∨ c = '\x08' ∨ c = '\x0c'
  · rcases hspecial with rfl | rfl | rfl | rfl | rfl
    all_goals exact .letter _ rfl rfl (by decide)
  · simp only [not_or] at hspecial
    obtain ⟨hslash, hr, ht, hb, hf⟩ := hspecial
    by_cases hn : c = '\n'
    · subst hn
      cases lines with
      | false => exact .letter _ rfl rfl (by decide)
      | true => exact .plain rfl (by decide) (.inr ⟨rfl, rfl⟩)
    · cases hcontrol : isControl c with
      | false =>
        refine .plain ?_ hslash (.inl hcontrol)
        simp [escaped, hslash, hr, ht, hb, hf, hn, hcontrol]
      | true =>
        refine .code (upperHex (c.toNat / 16)) (upperHex (c.toNat % 16)) ?_ ?_
        · simp [escaped, hslash, hr, ht, hb, hf, hn, hcontrol]
        · have hn := toNat_of_isControl hcontrol
          rw [ofCodePoint?_control _ (by omega) hn, Char.ofNat_toNat]

theorem basic?_letter {e : Char} (he : unescape? e = some c)
    (hmark : e ∉ ['u', 'U', ' ', '\t', '\n']) (cs : List Char) :
    basic? ('\\' :: e :: cs) = prepend? (some c) (basic? cs) := by
  rw [basic?, he]
  · rintro _ _ _ _ _ rfl
    simp at hmark
  · rintro _ _ _ _ _ _ _ _ _ rfl
    simp at hmark

theorem basic?_escaped (hc : c ≠ '"') (cs : List Char) :
    basic? (escaped false c ++ cs) = prepend? (some c) (basic? cs) := by
  cases written false c with
  | letter e hwritten he hmark =>
    rw [hwritten]
    exact basic?_letter he hmark cs
  | code a b hwritten hcode =>
    rw [hwritten, ← hcode]
    exact basic?.eq_3 ..
  | plain hwritten hslash hcontrol =>
    have hcontrol : isControl c = false := hcontrol.resolve_right fun h => Bool.false_ne_true h.1
    rw [hwritten, List.singleton_append, basic?]
    · simp [hcontrol]
    all_goals simp [hc, hslash]

theorem basic?_escapedChars (row : Nat) (cs rest : List Char) :
    basic? (escapedChars .basic row cs ++ '"' :: rest) = some (cs, rest) := by
  induction cs generalizing row with
  | nil => rw [escapedChars, List.nil_append, basic?]
  | cons c cs ih =>
    rw [escapedChars]
    split
    · next hc =>
      subst hc
      have hrow : ¬ row < QuoteStyle.basic.quotesInRow := Nat.not_lt_zero row
      rw [if_neg hrow, List.cons_append, List.cons_append, basic?_letter rfl (by decide), ih]
      rfl
    · next hc =>
      have hlines : (QuoteStyle.basic == QuoteStyle.basicLines) = false := rfl
      rw [hlines, List.append_assoc, basic?_escaped hc, ih]
      rfl

theorem literal?_append (h : ∀ c ∈ cs, isControl c = false ∧ c ≠ '\'') (rest : List Char) :
    literal? (cs ++ '\'' :: rest) = some (cs, rest) := by
  induction cs with
  | nil => rw [List.nil_append, literal?]
  | cons c cs ih =>
    obtain ⟨⟨hcontrol, hquote⟩, hcs⟩ := List.forall_mem_cons.mp h
    rw [List.cons_append, literal?, hcontrol, ih hcs]
    · rfl
    · exact hquote

/-- What may follow a quote that is no part of three closing ones. -/
inductive FreesQuote (q : Char) : List Char → Prop
  | other {d : Char} {cs : List Char} : d ≠ q → FreesQuote q (d :: cs)
  | quote {d : Char} {cs : List Char} : d ≠ q → FreesQuote q (q :: d :: cs)
  | closing {cs : List Char} : (∀ d ∈ cs.head?, d ≠ q) → FreesQuote q (q :: q :: q :: cs)
  | quoteClosing {cs : List Char} : (∀ d ∈ cs.head?, d ≠ q) →
      FreesQuote q (q :: q :: q :: q :: cs)

theorem ne_cons_of_head? {q : Char} (h : ∀ d ∈ cs.head?, d ≠ q) (ds : List Char) :
    cs = q :: ds → False := by
  rintro rfl
  exact h q rfl rfl

theorem literalLines?_closing (h : ∀ d ∈ cs.head?, d ≠ '\'') :
    literalLines? ('\'' :: '\'' :: '\'' :: cs) = some ([], cs) :=
  literalLines?.eq_4 cs (fun _ => ne_cons_of_head? h _) (ne_cons_of_head? h)

theorem literalLines?_quote (h : FreesQuote '\'' cs) :
    literalLines? ('\'' :: cs) = prepend? (some '\'') (literalLines? cs) := by
  cases h with
  | other hd | quote hd =>
    rw [literalLines?]
    · rfl
    all_goals simp [hd]
  | closing hcs =>
    rw [literalLines?.eq_3 _ (ne_cons_of_head? hcs), literalLines?_closing hcs]
    rfl
  | quoteClosing hcs =>
    rw [literalLines?.eq_2, literalLines?.eq_3 _ (ne_cons_of_head? hcs)]
    rfl

theorem basicLines?_closing (h : ∀ d ∈ cs.head?, d ≠ '"') :
    basicLines? false ('"' :: '"' :: '"' :: cs) = some ([], cs) :=
  basicLines?.eq_4 false cs (fun _ => ne_cons_of_head? h _) (ne_cons_of_head? h)

theorem basicLines?_quote (h : FreesQuote '"' cs) :
    basicLines? false ('"' :: cs) = prepend? (some '"') (basicLines? false cs) := by
  cases h with
  | other hd | quote hd =>
    rw [basicLines?]
    · rfl
    all_goals simp [hd]
  | closing hcs =>
    rw [basicLines?.eq_3 _ _ (ne_cons_of_head? hcs), basicLines?_closing hcs]
    rfl
  | quoteClosing hcs =>
    rw [basicLines?.eq_2, basicLines?.eq_3 _ _ (ne_cons_of_head? hcs)]
    rfl

namespace QuoteStyle

theorem le_longestRow (q : Char) (row : Nat) (cs : List Char) : row ≤ longestRow q row cs := by
  induction cs generalizing row with
  | nil => exact Nat.le_refl row
  | cons c cs ih =>
    rw [longestRow]
    split
    · exact Nat.le_trans (Nat.le_succ row) (ih (row + 1))
    · exact Nat.le_max_left _ _

/-- Two quotes in a row at most may end a string. -/
theorem freesQuote_of_longestRow {q : Char} {row : Nat} (hrow : longestRow q (row + 1) cs ≤ 2)
    (hrest : ∀ d ∈ rest.head?, d ≠ q) : FreesQuote q (cs ++ q :: q :: q :: rest) := by
  cases cs with
  | nil => exact .closing hrest
  | cons c cs =>
    by_cases hc : c = q
    · subst hc
      rw [longestRow, if_pos rfl] at hrow
      cases cs with
      | nil => exact .quoteClosing hrest
      | cons d cs =>
        refine .quote fun hd => ?_
        rw [longestRow, if_pos hd] at hrow
        have := le_longestRow c (row + 1 + 1 + 1) cs
        omega
    · exact .other hc

end QuoteStyle

theorem literalLines?_append {row : Nat} (h : ∀ c ∈ cs, isControl c = false ∨ c = '\n')
    (hrow : QuoteStyle.longestRow '\'' row cs ≤ 2) (hrest : ∀ d ∈ rest.head?, d ≠ '\'') :
    literalLines? (cs ++ '\'' :: '\'' :: '\'' :: rest) = some (cs, rest) := by
  induction cs generalizing row with
  | nil => exact literalLines?_closing hrest
  | cons c cs ih =>
    obtain ⟨hc, hcs⟩ := List.forall_mem_cons.mp h
    rw [QuoteStyle.longestRow] at hrow
    by_cases hquote : c = '\''
    · subst hquote
      rw [if_pos rfl] at hrow
      rw [List.cons_append, literalLines?_quote (QuoteStyle.freesQuote_of_longestRow hrow hrest),
        ih hcs hrow]
      rfl
    · rw [if_neg hquote] at hrow
      have hcontrol : (isControl c && c != '\n') = false := by
        rcases hc with hc | hc <;> simp [hc]
      rw [List.cons_append, literalLines?, hcontrol,
        ih hcs (Nat.le_trans (Nat.le_max_right _ _) hrow)]
      · rfl
      all_goals exact fun _ h => absurd h hquote

theorem endsLine_of_letter {e : Char} (he : e ∉ ['u', 'U', ' ', '\t', '\n']) (cs : List Char) :
    endsLine (e :: cs) = false := by
  simp only [List.mem_cons, not_or] at he
  simp [endsLine, he]

theorem basicLines?_letter {e : Char} (he : unescape? e = some c)
    (hmark : e ∉ ['u', 'U', ' ', '\t', '\n']) (cs : List Char) :
    basicLines? false ('\\' :: e :: cs) = prepend? (some c) (basicLines? false cs) := by
  rw [basicLines?, he, endsLine_of_letter hmark]
  · rfl
  · rintro _ _ _ _ _ rfl
    simp at hmark
  · rintro _ _ _ _ _ _ _ _ _ rfl
    simp at hmark

theorem basicLines?_escaped (hc : c ≠ '"') (cs : List Char) :
    basicLines? false (escaped true c ++ cs) = prepend? (some c) (basicLines? false cs) := by
  cases written true c with
  | letter e hwritten he hmark =>
    rw [hwritten]
    exact basicLines?_letter he hmark cs
  | code a b hwritten hcode =>
    rw [hwritten, ← hcode]
    exact basicLines?.eq_5 ..
  | plain hwritten hslash hcontrol =>
    have hcontrol : (isControl c && c != '\n') = false := by
      rcases hcontrol with hcontrol | ⟨-, hcontrol⟩ <;> simp [hcontrol]
    rw [hwritten, List.singleton_append, basicLines?]
    · simp [hcontrol]
    all_goals simp [hc, hslash]

/-- Written characters begin with a backslash or as the string does. -/
theorem exists_escapedChars_cons (style : QuoteStyle) (row : Nat) (c : Char) (cs : List Char) :
    ∃ d ds, escapedChars style row (c :: cs) = d :: ds ∧
      (d = '\\' ∨ d = c ∧ (c = '"' → row < style.quotesInRow)) := by
  rw [escapedChars]
  split
  · next hc =>
    split
    · next hrow => exact ⟨_, _, rfl, .inr ⟨hc.symm, fun _ => hrow⟩⟩
    · exact ⟨_, _, rfl, .inl rfl⟩
  · next hc =>
    cases written (style == .basicLines) c with
    | letter e hwritten => exact ⟨_, _, by rw [hwritten, List.cons_append], .inl rfl⟩
    | code a b hwritten => exact ⟨_, _, by rw [hwritten, List.cons_append], .inl rfl⟩
    | plain hwritten =>
      exact ⟨_, _, by rw [hwritten, List.cons_append], .inr ⟨rfl, fun h => absurd h hc⟩⟩

theorem freesQuote_escapedChars (row : Nat) (cs : List Char)
    (hrest : ∀ d ∈ rest.head?, d ≠ '"') :
    FreesQuote '"' (escapedChars .basicLines (row + 1) cs ++ '"' :: '"' :: '"' :: rest) := by
  have hslash : '\\' ≠ '"' := by decide
  cases cs with
  | nil => exact .closing hrest
  | cons c cs =>
    by_cases hc : c = '"'
    · rw [escapedChars, if_pos hc]
      split
      · next hlt =>
        -- the second quote of a row: the next one would be escaped
        have hlt : ¬ row + 1 + 1 < QuoteStyle.basicLines.quotesInRow :=
          Nat.not_lt.mpr (Nat.succ_le_succ (Nat.succ_le_succ (Nat.zero_le row)))
        cases cs with
        | nil => exact .quoteClosing hrest
        | cons d cs =>
          obtain ⟨e, es, hcons, he⟩ := exists_escapedChars_cons .basicLines (row + 1 + 1) d cs
          rw [hcons]
          refine .quote ?_
          rcases he with rfl | ⟨rfl, he⟩
          · exact hslash
          · exact fun h => hlt (he h)
      · exact .other hslash
    · obtain ⟨e, es, hcons, he⟩ := exists_escapedChars_cons .basicLines (row + 1) c cs
      rw [hcons]
      refine .other ?_
      rcases he with rfl | ⟨rfl, -⟩
      · exact hslash
      · exact hc

theorem basicLines?_escapedChars (row : Nat) (cs : List Char) (hrest : ∀ d ∈ rest.head?, d ≠ '"') :
    basicLines? false (escapedChars .basicLines row cs ++ '"' :: '"' :: '"' :: rest) =
      some (cs, rest) := by
  induction cs generalizing row with
  | nil => exact basicLines?_closing hrest
  | cons c cs ih =>
    rw [escapedChars]
    by_cases hc : c = '"'
    · subst hc
      rw [if_pos rfl]
      split
      · rw [List.cons_append, basicLines?_quote (freesQuote_escapedChars row cs hrest), ih]
        rfl
      · rw [List.cons_append, List.cons_append, basicLines?_letter rfl (by decide), ih]
        rfl
    · have hlines : (QuoteStyle.basicLines == QuoteStyle.basicLines) = true := rfl
      rw [if_neg hc, hlines, List.append_assoc, basicLines?_escaped hc, ih]
      rfl

namespace QuoteStyle

/-- What a style can show as it is. -/
def Fits : QuoteStyle → List Char → Prop
  | basic, _ | basicLines, _ => True
  | literal, cs => cs ≠ [] ∧ ∀ c ∈ cs, isControl c = false ∧ c ≠ '\''
  | literalLines, cs => (∀ c ∈ cs, isControl c = false ∨ c = '\n') ∧ longestRow '\'' 0 cs ≤ 2

theorem forall_ne_of_longestRow {q : Char} (h : longestRow q 0 cs = 0) : ∀ c ∈ cs, c ≠ q := by
  induction cs with
  | nil => simp
  | cons c cs ih =>
    rw [longestRow] at h
    split at h
    · have := le_longestRow q (0 + 1) cs
      omega
    · next hc =>
      rw [Nat.zero_max] at h
      exact List.forall_mem_cons.mpr ⟨hc, ih h⟩

/-- A string is written in a style that shows it. -/
theorem fits_ofChars (cs : List Char) : (ofChars cs).Fits cs := by
  have hplain : needsEscape cs = false → ∀ c ∈ cs, isControl c = false ∨ c = '\n' := by
    intro h c hc
    have := List.any_eq_false.mp h c hc
    simpa [or_iff_not_imp_left] using this
  unfold ofChars
  cases hescape : needsEscape cs with
  | true =>
    cases cs.contains '\n' <;> trivial
  | false =>
    simp only [Bool.false_eq_true, if_false]
    split
    · trivial
    · next hbasic =>
      split
      · next hliteral =>
        simp only [Bool.and_eq_true, Bool.not_eq_true', beq_iff_eq] at hliteral
        have hbreak : '\n' ∉ cs := by simpa using hliteral.1
        refine ⟨?_, fun c hc => ⟨?_, forall_ne_of_longestRow hliteral.2 c hc⟩⟩
        · rintro rfl
          exact hbasic rfl
        · exact (hplain hescape c hc).resolve_right fun h => hbreak (h ▸ hc)
      · split
        · trivial
        · split
          · next hrow => exact ⟨hplain hescape, hrow⟩
          · split <;> trivial

end QuoteStyle

theorem afterOpening_of_head? (h : ∀ d ∈ cs.head?, d ≠ '\n') : afterOpening cs = cs := by
  unfold afterOpening
  split
  · exact absurd rfl (h _ rfl)
  · rfl

/-- The line break that is added behind the opening quotes is dropped. -/
theorem afterOpening_append {body : List Char} (h : ∀ d ∈ body.head?, d = '\n' → '\n' ∈ cs) :
    afterOpening ((if cs.contains '\n' then ['\n'] else []) ++ body) = body := by
  split
  · rfl
  · next hbreak =>
    rw [List.nil_append]
    refine afterOpening_of_head? fun d hd hn => hbreak ?_
    simpa using h d hd hn

theorem head?_escapedChars_append (style : QuoteStyle) {behind : List Char}
    (hbehind : ∀ d ∈ behind.head?, d ≠ '\n') :
    ∀ d ∈ (escapedChars style 0 cs ++ behind).head?, d = '\n' → '\n' ∈ cs := by
  intro d hd hn
  cases cs with
  | nil => exact absurd hn (hbehind d hd)
  | cons c cs =>
    obtain ⟨e, es, hcons, he⟩ := exists_escapedChars_cons style 0 c cs
    rw [hcons] at hd
    obtain rfl := Option.some.inj hd
    rcases he with rfl | ⟨rfl, -⟩
    · cases hn
    · exact hn ▸ List.mem_cons_self

/-- A string in a style that shows it is read as the string. -/
theorem string?_quotedIn {style : QuoteStyle} (hfits : style.Fits cs)
    (hrest : ∀ d ∈ rest.head?, d ≠ '"' ∧ d ≠ '\'') :
    ∃ lines, string? (quotedIn style cs ++ rest) = some (cs, lines, rest) := by
  have hdouble : ∀ d ∈ rest.head?, d ≠ '"' := fun d hd => (hrest d hd).1
  have hsingle : ∀ d ∈ rest.head?, d ≠ '\'' := fun d hd => (hrest d hd).2
  unfold quotedIn
  cases style with
  | basic =>
    have hread := basic?_escapedChars 0 cs rest
    refine ⟨false, ?_⟩
    simp only [QuoteStyle.delimiter, List.cons_append, List.nil_append, List.append_assoc]
    cases cs with
    | nil =>
      rw [escapedChars, List.nil_append] at hread ⊢
      rw [string?, hread]
      · rfl
      · rintro _ ⟨⟩
        exact hdouble _ rfl rfl
    | cons c cs =>
      obtain ⟨e, es, hcons, he⟩ := exists_escapedChars_cons .basic 0 c cs
      rw [hcons, List.cons_append] at hread ⊢
      rw [string?, hread]
      · rfl
      · intro _ h
        obtain ⟨rfl, -⟩ := List.cons.inj h
        rcases he with he | ⟨rfl, he⟩
        · cases he
        · exact Nat.not_lt_zero 0 (he rfl)
  | literal =>
    obtain ⟨hne, hcs⟩ := hfits
    refine ⟨false, ?_⟩
    simp only [QuoteStyle.delimiter, List.cons_append, List.nil_append, List.append_assoc]
    rw [string?, literal?_append hcs]
    · rfl
    · obtain ⟨c, cs, rfl⟩ := List.exists_cons_of_ne_nil hne
      intro _ h
      exact (hcs c List.mem_cons_self).2 (List.cons.inj h).1
  | basicLines =>
    refine ⟨true, ?_⟩
    simp only [QuoteStyle.delimiter, List.cons_append, List.nil_append, List.append_assoc, string?]
    rw [afterOpening_append (head?_escapedChars_append _ (by simp)),
      basicLines?_escapedChars 0 cs hdouble]
    rfl
  | literalLines =>
    refine ⟨true, ?_⟩
    simp only [QuoteStyle.delimiter, List.cons_append, List.nil_append, List.append_assoc, string?]
    rw [afterOpening_append, literalLines?_append hfits.1 hfits.2 hsingle]
    · rfl
    · intro d hd hn
      cases cs with
      | nil =>
        obtain rfl := Option.some.inj hd
        cases hn
      | cons c cs =>
        obtain rfl := Option.some.inj hd
        exact hn ▸ List.mem_cons_self

theorem return_not_mem_escaped (lines : Bool) (c : Char) : '\r' ∉ escaped lines c := by
  cases written lines c with
  | letter e hwritten he =>
    have hreturn : e ≠ '\r' := by
      rintro rfl
      cases he
    simp [hwritten, hreturn.symm]
  | code a b hwritten hcode =>
    have hdigits : Text.isHexDigit a = true ∧ Text.isHexDigit b = true := by
      unfold Text.ofCodePoint? at hcode
      dsimp only at hcode
      split at hcode
      · next h =>
        have hall := List.all_eq_true.mp h.1
        exact ⟨hall a (by simp), hall b (by simp)⟩
      · cases hcode
    have ha : a ≠ '\r' := by
      rintro rfl
      exact absurd hdigits.1 (by decide)
    have hb : b ≠ '\r' := by
      rintro rfl
      exact absurd hdigits.2 (by decide)
    simp [hwritten, ha.symm, hb.symm]
  | plain hwritten =>
    rw [hwritten, List.mem_singleton]
    rintro rfl
    revert hwritten
    cases lines <;> decide

theorem return_not_mem_escapedChars (style : QuoteStyle) (row : Nat) (cs : List Char) :
    '\r' ∉ escapedChars style row cs := by
  induction cs generalizing row with
  | nil => exact List.not_mem_nil
  | cons c cs ih =>
    rw [escapedChars]
    split
    · split <;> simp [ih]
    · exact fun h => (List.mem_append.mp h).elim (return_not_mem_escaped _ c) (ih 0)

/-- No quoted string has a carriage return in it. -/
theorem return_not_mem_quoted (s : String) : '\r' ∉ quoted s := by
  have hfits := QuoteStyle.fits_ofChars s.toList
  have hreturn : isControl '\r' = true := rfl
  unfold quoted quotedIn
  generalize QuoteStyle.ofChars s.toList = style at hfits
  cases style with
  | basic => simp [QuoteStyle.delimiter, return_not_mem_escapedChars]
  | literal =>
    have hnot : '\r' ∉ s.toList := fun h => by simpa [hreturn] using hfits.2 _ h
    simpa [QuoteStyle.delimiter] using hnot
  | basicLines =>
    simp only [QuoteStyle.delimiter]
    split <;> simp [return_not_mem_escapedChars]
  | literalLines =>
    have hnot : '\r' ∉ s.toList := fun h => by simpa [hreturn] using hfits.1 _ h
    simp only [QuoteStyle.delimiter]
    split <;> simpa using hnot

/-- A quoted string is read as the string, before text that does not begin with a quote. -/
theorem string?_quoted (s : String) (hrest : ∀ d ∈ rest.head?, d ≠ '"' ∧ d ≠ '\'') :
    ∃ lines, string? (quoted s ++ rest) = some (s.toList, lines, rest) :=
  string?_quotedIn (QuoteStyle.fits_ofChars s.toList) hrest

end MockBuilders.Toml
