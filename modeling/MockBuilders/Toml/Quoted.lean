import MockBuilders.Text.Digits

/-!
Quoted strings of TOML. Double quotes allow escapes, single quotes do not; three quotes allow
line breaks. A string is written in the first style that shows it as it is, if there is one.
-/
namespace MockBuilders.Toml

inductive QuoteStyle where
  | basic
  | literal
  | basicLines
  | literalLines
  deriving DecidableEq, Repr

/-- Characters that no string holds as they are; line breaks are told apart where they matter. -/
def isControl (c : Char) : Bool := (decide (c.toNat < 32) && c != '\t') || c.toNat == 127

namespace QuoteStyle

/-- Length of the longest row of a character, given the length of the row that precedes. -/
def longestRow (q : Char) : Nat → List Char → Nat
  | row, [] => row
  | row, c :: cs => if c = q then longestRow q (row + 1) cs else max row (longestRow q 0 cs)

/-- Whether some character other than a line break has to be escaped. -/
def needsEscape (cs : List Char) : Bool := cs.any fun c => isControl c && c != '\n'

def ofChars (cs : List Char) : QuoteStyle :=
  let breaks := cs.contains '\n'
  let backslash := cs.contains '\\'
  if needsEscape cs then (if breaks then basicLines else basic)
  else if !backslash && !breaks && longestRow '"' 0 cs == 0 then basic
  else if !breaks && longestRow '\'' 0 cs == 0 then literal
  else if !backslash && longestRow '"' 0 cs ≤ 2 then basicLines
  else if longestRow '\'' 0 cs ≤ 2 then literalLines
  else if breaks then basicLines
  else basic

/-- The quotes at both ends. -/
def delimiter : QuoteStyle → List Char
  | basic => ['"']
  | literal => ['\'']
  | basicLines => ['"', '"', '"']
  | literalLines => ['\'', '\'', '\'']

/-- Double quotes that may stand in a row without an escape. -/
def quotesInRow : QuoteStyle → Nat
  | basicLines => 2
  | _ => 0

end QuoteStyle

def upperHex (n : Nat) : Char := if n < 10 then Char.ofNat (48 + n) else Char.ofNat (55 + n)

/-- How a character other than a double quote stands between double quotes. -/
def escaped (lines : Bool) (c : Char) : List Char :=
  if c = '\\' then ['\\', '\\']
  else if c = '\n' then (if lines then ['\n'] else ['\\', 'n'])
  else if c = '\r' then ['\\', 'r']
  else if c = '\t' then ['\\', 't']
  else if c = '\x08' then ['\\', 'b']
  else if c = '\x0c' then ['\\', 'f']
  else if isControl c then
    ['\\', 'u', '0', '0', upperHex (c.toNat / 16), upperHex (c.toNat % 16)]
  else [c]

/-- Escapes what has to be; every double quote after a row of the allowed length is escaped. -/
def escapedChars (style : QuoteStyle) : Nat → List Char → List Char
  | _, [] => []
  | row, c :: cs =>
      if c = '"' then
        if row < style.quotesInRow then '"' :: escapedChars style (row + 1) cs
        else '\\' :: '"' :: escapedChars style 0 cs
      else escaped (style == .basicLines) c ++ escapedChars style 0 cs

/-- The string in a style. A line break right after three quotes is no part of the string, so one
is added where the string has line breaks. -/
def quotedIn (style : QuoteStyle) (cs : List Char) : List Char :=
  let body :=
    match style with
    | .basic | .basicLines => escapedChars style 0 cs
    | .literal | .literalLines => cs
  let opening :=
    match style with
    | .basicLines | .literalLines => if cs.contains '\n' then ['\n'] else []
    | .basic | .literal => []
  style.delimiter ++ opening ++ body ++ style.delimiter

def quoted (s : String) : List Char := quotedIn (.ofChars s.toList) s.toList

/-! Reading: from behind the opening quotes to behind the closing ones. -/

def prepend? (c : Option Char) (r : Option (List Char × List Char)) :
    Option (List Char × List Char) :=
  match c, r with
  | some c, some (cs, rest) => some (c :: cs, rest)
  | _, _ => none

def unescape? (c : Char) : Option Char :=
  match c with
  | '"' => some '"'
  | '\\' => some '\\'
  | 'b' => some '\x08'
  | 'f' => some '\x0c'
  | 'n' => some '\n'
  | 'r' => some '\r'
  | 't' => some '\t'
  | _ => none

def isGap (c : Char) : Bool := c == ' ' || c == '\t' || c == '\n'

/-- Whether a line ends here but for blanks. -/
def endsLine (cs : List Char) : Bool :=
  (cs.dropWhile fun c => c == ' ' || c == '\t').head? == some '\n'

def basic? : List Char → Option (List Char × List Char)
  | [] => none
  | '"' :: cs => some ([], cs)
  | '\\' :: 'u' :: a :: b :: c :: d :: cs => prepend? (Text.ofCodePoint? [a, b, c, d]) (basic? cs)
  | '\\' :: 'U' :: a :: b :: c :: d :: e :: f :: g :: h :: cs =>
      prepend? (Text.ofCodePoint? [a, b, c, d, e, f, g, h]) (basic? cs)
  | '\\' :: c :: cs => prepend? (unescape? c) (basic? cs)
  | c :: cs => if isControl c then none else prepend? (some c) (basic? cs)

def literal? : List Char → Option (List Char × List Char)
  | [] => none
  | '\'' :: cs => some ([], cs)
  | c :: cs => if isControl c then none else prepend? (some c) (literal? cs)

/-- A backslash at the end of a line drops all blanks and line breaks up to the next character;
while they are dropped, `joining` holds. -/
def basicLines? (joining : Bool) : List Char → Option (List Char × List Char)
  | [] => none
  | '"' :: '"' :: '"' :: '"' :: '"' :: cs => some (['"', '"'], cs)
  | '"' :: '"' :: '"' :: '"' :: cs => some (['"'], cs)
  | '"' :: '"' :: '"' :: cs => some ([], cs)
  | '\\' :: 'u' :: a :: b :: c :: d :: cs =>
      prepend? (Text.ofCodePoint? [a, b, c, d]) (basicLines? false cs)
  | '\\' :: 'U' :: a :: b :: c :: d :: e :: f :: g :: h :: cs =>
      prepend? (Text.ofCodePoint? [a, b, c, d, e, f, g, h]) (basicLines? false cs)
  | '\\' :: c :: cs =>
      if endsLine (c :: cs) then basicLines? true cs
      else prepend? (unescape? c) (basicLines? false cs)
  | c :: cs =>
      if joining && isGap c then basicLines? true cs
      else if isControl c && c != '\n' then none
      else prepend? (some c) (basicLines? false cs)

def literalLines? : List Char → Option (List Char × List Char)
  | [] => none
  | '\'' :: '\'' :: '\'' :: '\'' :: '\'' :: cs => some (['\'', '\''], cs)
  | '\'' :: '\'' :: '\'' :: '\'' :: cs => some (['\''], cs)
  | '\'' :: '\'' :: '\'' :: cs => some ([], cs)
  | c :: cs =>
      if isControl c && c != '\n' then none else prepend? (some c) (literalLines? cs)

/-- Drops a line break right after the opening quotes. -/
def afterOpening : List Char → List Char
  | '\n' :: cs => cs
  | cs => cs

/-- A string from its opening quotes on, whether it is of the kind with line breaks, and the text
after it. -/
def string? : List Char → Option (List Char × Bool × List Char)
  | '"' :: '"' :: '"' :: cs => (basicLines? false (afterOpening cs)).map fun r => (r.1, true, r.2)
  | '\'' :: '\'' :: '\'' :: cs => (literalLines? (afterOpening cs)).map fun r => (r.1, true, r.2)
  | '"' :: cs => (basic? cs).map fun r => (r.1, false, r.2)
  | '\'' :: cs => (literal? cs).map fun r => (r.1, false, r.2)
  | _ => none

theorem prepend?_eq_some {c : Option Char} {r : Option (List Char × List Char)}
    {cs rest : List Char} (h : prepend? c r = some (cs, rest)) : ∃ ds, r = some (ds, rest) := by
  unfold prepend? at h
  split at h
  · obtain ⟨-, rfl⟩ := Prod.mk.inj (Option.some.inj h)
    exact ⟨_, rfl⟩
  · simp at h

theorem basic?_shorter {cs value rest : List Char} (h : basic? cs = some (value, rest)) :
    rest.length < cs.length := by
  fun_induction basic? cs generalizing value with
  | case1 => simp at h
  | case2 => obtain ⟨-, rfl⟩ := Prod.mk.inj (Option.some.inj h); exact Nat.lt_succ_self _
  | case6 => simp at h
  | _ =>
    rename_i ih
    obtain ⟨ds, hd⟩ := prepend?_eq_some h
    have := ih hd
    simp only [List.length_cons]
    omega

theorem literal?_shorter {cs value rest : List Char} (h : literal? cs = some (value, rest)) :
    rest.length < cs.length := by
  fun_induction literal? cs generalizing value with
  | case1 => simp at h
  | case2 => obtain ⟨-, rfl⟩ := Prod.mk.inj (Option.some.inj h); exact Nat.lt_succ_self _
  | case3 => simp at h
  | case4 =>
    rename_i ih
    obtain ⟨ds, hd⟩ := prepend?_eq_some h
    exact Nat.lt_succ_of_lt (ih hd)

theorem literalLines?_shorter {cs value rest : List Char}
    (h : literalLines? cs = some (value, rest)) : rest.length < cs.length := by
  fun_induction literalLines? cs generalizing value with
  | case1 => simp at h
  | case5 => simp at h
  | case6 =>
    rename_i ih
    obtain ⟨ds, hd⟩ := prepend?_eq_some h
    exact Nat.lt_succ_of_lt (ih hd)
  | _ =>
    obtain ⟨-, rfl⟩ := Prod.mk.inj (Option.some.inj h)
    simp only [List.length_cons]
    omega

theorem basicLines?_shorter {joining : Bool} {cs value rest : List Char}
    (h : basicLines? joining cs = some (value, rest)) : rest.length < cs.length := by
  fun_induction basicLines? joining cs generalizing value with
  | case1 => simp at h
  | case2 | case3 | case4 =>
    obtain ⟨-, rfl⟩ := Prod.mk.inj (Option.some.inj h)
    simp only [List.length_cons]
    omega
  | case7 | case9 =>
    rename_i ih
    have := ih h
    simp only [List.length_cons]
    omega
  | case10 => simp at h
  | _ =>
    rename_i ih
    obtain ⟨ds, hd⟩ := prepend?_eq_some h
    have := ih hd
    simp only [List.length_cons]
    omega

theorem afterOpening_shorter (cs : List Char) : (afterOpening cs).length ≤ cs.length := by
  unfold afterOpening
  split <;> simp

/-- A string takes at least one character. -/
theorem string?_shorter {cs value rest : List Char} {lines : Bool}
    (h : string? cs = some (value, lines, rest)) : rest.length < cs.length := by
  unfold string? at h
  split at h
  case h_5 => simp at h
  all_goals
    obtain ⟨r, hr, e⟩ := Option.map_eq_some_iff.1 h
    simp only [Prod.mk.injEq] at e
    obtain ⟨-, -, rfl⟩ := e
  · have := basicLines?_shorter hr
    have := afterOpening_shorter ‹_›
    simp only [List.length_cons]
    omega
  · have := literalLines?_shorter hr
    have := afterOpening_shorter ‹_›
    simp only [List.length_cons]
    omega
  · exact Nat.lt_succ_of_lt (basic?_shorter hr)
  · exact Nat.lt_succ_of_lt (literal?_shorter hr)

end MockBuilders.Toml
