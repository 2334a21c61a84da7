import MockBuilders.Toml.Quoted

/-! The tokens of a TOML document. -/
namespace MockBuilders.Toml

inductive Token where
  | lineBreak
  | blank
  /-- A bracket, a brace, a comma or an equals sign. -/
  | mark (c : Char)
  /-- Bare names, numbers, dates and the points between them. -/
  | word (cs : List Char)
  | string (value : List Char) (lines : Bool)
  deriving DecidableEq, Repr

namespace Token

def isMark (c : Char) : Bool :=
  c == '[' || c == ']' || c == '\x7b' || c == '\x7d' || c == ',' || c == '='

def isNameChar (c : Char) : Bool := c.isAlphanum || c == '_' || c == '-'

def isWordChar (c : Char) : Bool := isNameChar c || c == '+' || c == '.' || c == ':'

/-- Whether ten characters have the form of a date. -/
def looksLikeDate (cs : List Char) : Bool :=
  match cs with
  | [a, b, c, d, '-', e, f, '-', g, h] => [a, b, c, d, e, f, g, h].all Char.isDigit
  | _ => false

/-- A word, and the text after it. A date takes one blank and the digits after it with it. -/
def word? (cs : List Char) : List Char × List Char :=
  let first := cs.takeWhile isWordChar
  match cs.dropWhile isWordChar with
  | ' ' :: d :: rest =>
      if looksLikeDate first && d.isDigit then
        (first ++ ' ' :: (d :: rest).takeWhile isWordChar, (d :: rest).dropWhile isWordChar)
      else (first, ' ' :: d :: rest)
  | rest => (first, rest)

def isCommentChar (c : Char) : Bool := c != '\n'

/-- The first token; a comment up to the end of its line counts as a blank. -/
def first? : List Char → Option (Token × List Char)
  | [] => none
  | c :: cs =>
      if c = '\n' then some (lineBreak, cs)
      else if c = ' ' ∨ c = '\t' then some (blank, cs)
      else if c = '#' then
        if (cs.takeWhile isCommentChar).any isControl then none
        else some (blank, cs.dropWhile isCommentChar)
      else if isMark c then some (mark c, cs)
      else if isWordChar c then
        some (word (word? (c :: cs)).1, (word? (c :: cs)).2)
      else (string? (c :: cs)).map fun r => (string r.1 r.2.1, r.2.2)

theorem word?_shorter {c : Char} (cs : List Char) (h : isWordChar c = true) :
    (word? (c :: cs)).2.length < (c :: cs).length := by
  have first : (c :: cs).dropWhile isWordChar = cs.dropWhile isWordChar := by
    simp [h]
  have le := (List.dropWhile_suffix (l := cs) isWordChar).length_le
  unfold word?
  simp only [first]
  split
  · next d rest hd =>
    rw [hd] at le
    simp only [List.length_cons] at le ⊢
    split
    · exact Nat.lt_of_le_of_lt (List.dropWhile_suffix _).length_le
        (by simp only [List.length_cons]; omega)
    · simp only [List.length_cons]
      omega
  · simp only [List.length_cons]
    omega

theorem first?_shorter {cs rest : List Char} {t : Token} (h : first? cs = some (t, rest)) :
    rest.length < cs.length := by
  unfold first? at h
  split at h
  · simp at h
  · next c cs =>
    split at h
    · obtain ⟨-, rfl⟩ := Prod.mk.inj (Option.some.inj h)
      exact Nat.lt_succ_self _
    · split at h
      · obtain ⟨-, rfl⟩ := Prod.mk.inj (Option.some.inj h)
        exact Nat.lt_succ_self _
      · split at h
        · split at h
          · simp at h
          · obtain ⟨-, rfl⟩ := Prod.mk.inj (Option.some.inj h)
            exact Nat.lt_succ_of_le (List.dropWhile_suffix _).length_le
        · split at h
          · obtain ⟨-, rfl⟩ := Prod.mk.inj (Option.some.inj h)
            exact Nat.lt_succ_self _
          · split at h
            · next hw =>
              obtain ⟨-, rfl⟩ := Prod.mk.inj (Option.some.inj h)
              exact word?_shorter cs hw
            · obtain ⟨r, hr, e⟩ := Option.map_eq_some_iff.1 h
              obtain ⟨-, rfl⟩ := Prod.mk.inj e
              exact string?_shorter hr

/-- All tokens of a text; none where a part of it is no token. -/
def all? (cs : List Char) : Option (List Token) :=
  match cs with
  | [] => some []
  | c :: cs =>
      match _h : first? (c :: cs) with
      | none => none
      | some (t, rest) => (all? rest).map (t :: ·)
termination_by cs.length
decreasing_by exact first?_shorter ‹_›

end Token

end MockBuilders.Toml
