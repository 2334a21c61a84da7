import MockBuilders.Json.Numeral
import MockBuilders.Text.Digits

/-! The lexemes of JSON text: marks, names of constants, numerals and quoted strings. -/
namespace MockBuilders

inductive Lexeme where
  | openBrace
  | closeBrace
  | openBracket
  | closeBracket
  | colon
  | comma
  | string (value : String)
  /-- A constant or a number. -/
  | scalar (value : Json)

namespace Lexeme

/-- A part of a quoted string: a character, or a 16-bit unit written as an escape. -/
inductive Piece where
  | char (c : Char)
  | unit (value : Nat)

/-- The unit of four digits. -/
def unit? (a b c d : Char) : Option Nat :=
  if [a, b, c, d].all Text.isHexDigit then some (Text.ofDigits 16 [a, b, c, d]) else none

def unescape? (c : Char) : Option Char :=
  match c with
  | '"' => some '"'
  | '\\' => some '\\'
  | '/' => some '/'
  | 'b' => some '\x08'
  | 'f' => some '\x0c'
  | 'n' => some '\n'
  | 'r' => some '\r'
  | 't' => some '\t'
  | _ => none

/-- The parts up to the closing quote, and the text after it. -/
def pieces? : List Char → Option (List Piece × List Char)
  | [] => none
  | '"' :: cs => some ([], cs)
  | '\\' :: 'u' :: a :: b :: c :: d :: cs =>
      match unit? a b c d, pieces? cs with
      | some u, some (ps, rest) => some (.unit u :: ps, rest)
      | _, _ => none
  | '\\' :: c :: cs =>
      match unescape? c, pieces? cs with
      | some e, some (ps, rest) => some (.char e :: ps, rest)
      | _, _ => none
  | c :: cs =>
      if c.toNat < 32 then none
      else
        match pieces? cs with
        | some (ps, rest) => some (.char c :: ps, rest)
        | none => none

def isLeading (u : Nat) : Bool := decide (0xD800 ≤ u ∧ u < 0xDC00)

def isTrailing (u : Nat) : Bool := decide (0xDC00 ≤ u ∧ u < 0xE000)

/-- Joins units to characters; a leading unit needs a trailing one right after it. -/
def join? : List Piece → Option (List Char)
  | [] => some []
  | .char c :: ps => (join? ps).map (c :: ·)
  | .unit u :: .unit v :: ps =>
      if isLeading u then
        if isTrailing v then
          (join? ps).map (Char.ofNat (0x10000 + 1024 * (u - 0xD800) + (v - 0xDC00)) :: ·)
        else none
      else if isTrailing u then none
      else (join? (.unit v :: ps)).map (Char.ofNat u :: ·)
  | .unit u :: ps =>
      if isLeading u || isTrailing u then none else (join? ps).map (Char.ofNat u :: ·)

/-- The string after an opening quote. -/
def string? (cs : List Char) : Option (Lexeme × List Char) :=
  match pieces? cs with
  | none => none
  | some (ps, rest) => (join? ps).map fun value => (string (String.ofList value), rest)

def number? (cs : List Char) : Option (Lexeme × List Char) :=
  match Numeral.scan? cs with
  | none => none
  | some (n, rest) => n.value?.map fun value => (scalar (.number value), rest)

/-- The first lexeme of a text that does not begin with a blank. -/
def first? : List Char → Option (Lexeme × List Char)
  | '\x7b' :: cs => some (openBrace, cs)
  | '\x7d' :: cs => some (closeBrace, cs)
  | '[' :: cs => some (openBracket, cs)
  | ']' :: cs => some (closeBracket, cs)
  | ':' :: cs => some (colon, cs)
  | ',' :: cs => some (comma, cs)
  | '"' :: cs => string? cs
  | 'n' :: 'u' :: 'l' :: 'l' :: cs => some (scalar .null, cs)
  | 't' :: 'r' :: 'u' :: 'e' :: cs => some (scalar (.bool true), cs)
  | 'f' :: 'a' :: 'l' :: 's' :: 'e' :: cs => some (scalar (.bool false), cs)
  | cs => number? cs

theorem pieces?_shorter {cs rest : List Char} {ps : List Piece}
    (h : pieces? cs = some (ps, rest)) : rest.length < cs.length := by
  fun_induction pieces? cs generalizing ps with
  | case1 => simp at h
  | case2 cs =>
    obtain ⟨-, rfl⟩ := Prod.mk.inj (Option.some.inj h)
    exact Nat.lt_succ_self _
  | case3 =>
    rename_i ih
    obtain ⟨-, rfl⟩ := Prod.mk.inj (Option.some.inj h)
    have := ih (by assumption)
    simp only [List.length_cons]
    omega
  | case4 => simp at h
  | case5 =>
    rename_i ih
    obtain ⟨-, rfl⟩ := Prod.mk.inj (Option.some.inj h)
    have := ih (by assumption)
    simp only [List.length_cons]
    omega
  | case6 => simp at h
  | case7 => simp at h
  | case8 =>
    rename_i ih
    obtain ⟨-, rfl⟩ := Prod.mk.inj (Option.some.inj h)
    exact Nat.lt_succ_of_lt (ih (by assumption))
  | case9 => simp at h

theorem string?_shorter {cs rest : List Char} {l : Lexeme} (h : string? cs = some (l, rest)) :
    rest.length < cs.length := by
  unfold string? at h
  split at h
  · simp at h
  · next hp =>
    obtain ⟨_, _, e⟩ := Option.map_eq_some_iff.1 h
    obtain ⟨-, rfl⟩ := Prod.mk.inj e
    exact pieces?_shorter hp

theorem number?_shorter {cs rest : List Char} {l : Lexeme} (h : number? cs = some (l, rest)) :
    rest.length < cs.length := by
  unfold number? at h
  split at h
  · simp at h
  · next hn =>
    obtain ⟨_, _, e⟩ := Option.map_eq_some_iff.1 h
    obtain ⟨-, rfl⟩ := Prod.mk.inj e
    exact Numeral.scan?_shorter hn

theorem first?_shorter {cs rest : List Char} {l : Lexeme} (h : first? cs = some (l, rest)) :
    rest.length < cs.length := by
  unfold first? at h
  split at h
  case h_7 => exact Nat.lt_succ_of_lt (string?_shorter h)
  case h_11 => exact number?_shorter h
  all_goals
    obtain ⟨-, rfl⟩ := Prod.mk.inj (Option.some.inj h)
    simp only [List.length_cons]
    omega

def isBlank (c : Char) : Bool := c == ' ' || c == '\t' || c == '\n' || c == '\r'

/-- All lexemes of a text; none where it has a part that is no lexeme. -/
def all? : List Char → Option (List Lexeme)
  | [] => some []
  | c :: cs =>
      if isBlank c then all? cs
      else
        match _h : first? (c :: cs) with
        | none => none
        | some (l, rest) => (all? rest).map (l :: ·)
termination_by cs => cs.length
decreasing_by
  · exact Nat.lt_succ_self _
  · exact first?_shorter ‹_›

end Lexeme

end MockBuilders
