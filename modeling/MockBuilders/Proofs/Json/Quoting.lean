import MockBuilders.Json.Lexeme
import MockBuilders.Json.Text

/-!
Quoted strings read back: what is written between quotes is read as the string it was written for,
and the reading ends where the writing did. Main statement: `Lexeme.string?_quoted`.
-/
namespace MockBuilders.Lexeme

theorem join?_unit {u : Nat} (hl : isLeading u = false) (ht : isTrailing u = false)
    (ps : List Piece) : join? (.unit u :: ps) = (join? ps).map (Char.ofNat u :: ·) := by
  rcases ps with _ | ⟨_ | v, ps⟩ <;> simp [join?, hl, ht]

theorem unit?_hexDigits : ∀ n < 16,
    hexDigits n = [n.digitChar] ∧ unit? '0' '0' '0' n.digitChar = some n := by
  decide

theorem unit?_hexDigits_of_le : ∀ n < 32, 16 ≤ n →
    hexDigits n = ['1', (n - 16).digitChar] ∧ unit? '0' '0' '1' (n - 16).digitChar = some n := by
  decide

/-- A control character is read as a unit of its own. -/
theorem pieces?_control {n : Nat} (h : n < 32) {cs rest : List Char} {ps : List Piece}
    (hcs : pieces? cs = some (ps, rest)) :
    pieces? ((if n < 16 then ['\\', 'u', '0', '0', '0'] ++ hexDigits n
      else ['\\', 'u', '0', '0'] ++ hexDigits n) ++ cs) = some (.unit n :: ps, rest) := by
  split
  · next hn =>
    obtain ⟨hdigits, hunit⟩ := unit?_hexDigits n hn
    simp [hdigits, pieces?, hunit, hcs]
  · next hn =>
    obtain ⟨hdigits, hunit⟩ := unit?_hexDigits_of_le n h (by omega)
    simp [hdigits, pieces?, hunit, hcs]

theorem pieces?_escape {e c : Char} (he : unescape? e = some c) (hu : e ≠ 'u')
    {cs rest : List Char} {ps : List Piece} (hcs : pieces? cs = some (ps, rest)) :
    pieces? ('\\' :: e :: cs) = some (.char c :: ps, rest) := by
  rw [pieces?, he, hcs]
  intro _ _ _ _ _ h
  exact absurd h hu

/-- A character is written as an escape of one letter, as its unit, or as it is. -/
theorem escaped_cases (c : Char) :
    (∃ e, Json.escaped c = ['\\', e] ∧ unescape? e = some c ∧ e ≠ 'u') ∨
    (c.toNat < 32 ∧ Json.escaped c = if c.toNat < 16 then
      ['\\', 'u', '0', '0', '0'] ++ hexDigits c.toNat
      else ['\\', 'u', '0', '0'] ++ hexDigits c.toNat) ∨
    (Json.escaped c = [c] ∧ c ≠ '"' ∧ c ≠ '\\' ∧ ¬ c.toNat < 32) := by
  by_cases hspecial : c = '"' ∨ c = '\\' ∨ c = '\n' ∨ c = '\r' ∨ c = '\t' ∨ c = '\x08' ∨
      c = '\x0c'
  · left
    rcases hspecial with rfl | rfl | rfl | rfl | rfl | rfl | rfl
    all_goals exact ⟨_, rfl, rfl, by decide⟩
  · right
    simp only [not_or] at hspecial
    obtain ⟨hquote, hslash, hn, hr, ht, hb, hf⟩ := hspecial
    simp only [Json.escaped, hquote, hslash, hn, hr, ht, hb, hf, if_false]
    by_cases hcontrol : c.toNat < 32
    · left
      simp [hcontrol]
    · right
      have hlow : ¬ c.toNat < 16 := by omega
      simp [hlow, hcontrol, hquote, hslash]

theorem pieces?_escaped (c : Char) {cs rest : List Char} {ps : List Piece}
    (hcs : pieces? cs = some (ps, rest)) :
    ∃ p, pieces? (Json.escaped c ++ cs) = some (p :: ps, rest) ∧
      join? (p :: ps) = (join? ps).map (c :: ·) := by
  rcases escaped_cases c with ⟨e, he, hc, hu⟩ | ⟨hlt, he⟩ | ⟨he, hquote, hslash, hlt⟩
  · exact ⟨.char c, by rw [he]; exact pieces?_escape hc hu hcs, rfl⟩
  · have hleading : isLeading c.toNat = false := by simp [isLeading]; omega
    have htrailing : isTrailing c.toNat = false := by simp [isTrailing]; omega
    refine ⟨.unit c.toNat, by rw [he]; exact pieces?_control hlt hcs, ?_⟩
    rw [join?_unit hleading htrailing, Char.ofNat_toNat]
  · refine ⟨.char c, ?_, rfl⟩
    rw [he, List.singleton_append, pieces?, if_neg hlt, hcs]
    all_goals simp [hquote, hslash]

theorem pieces?_flatMap_escaped (cs rest : List Char) :
    ∃ ps, pieces? (cs.flatMap Json.escaped ++ '"' :: rest) = some (ps, rest) ∧
      join? ps = some cs := by
  induction cs with
  | nil => exact ⟨[], by simp [pieces?], rfl⟩
  | cons c cs ih =>
    obtain ⟨ps, hps, hjoin⟩ := ih
    obtain ⟨p, hp, hjoin'⟩ := pieces?_escaped c hps
    refine ⟨p :: ps, ?_, by rw [hjoin', hjoin]; rfl⟩
    rw [List.flatMap_cons, List.append_assoc, hp]

/-- After its opening quote, a quoted string is read as the string. -/
theorem string?_quoted (s : String) (rest : List Char) :
    string? (s.toList.flatMap Json.escaped ++ '"' :: rest) = some (.string s, rest) := by
  obtain ⟨ps, hps, hjoin⟩ := pieces?_flatMap_escaped s.toList rest
  simp [string?, hps, hjoin]

end MockBuilders.Lexeme

namespace MockBuilders.Json

/-- No quoted string begins another one. -/
theorem quoted_append_inj {s t : String} {r r' : List Char} (h : quoted s ++ r = quoted t ++ r') :
    s = t ∧ r = r' := by
  simp only [quoted, List.cons_append, List.append_assoc, List.cons.injEq, true_and] at h
  have hread := (Lexeme.string?_quoted s r).symm.trans
    ((congrArg Lexeme.string? h).trans (Lexeme.string?_quoted t r'))
  simpa using hread

end MockBuilders.Json
