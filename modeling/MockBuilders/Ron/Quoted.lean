import MockBuilders.Text.Digits

/-! Strings and characters of RON. A string without escapes may have hash signs around its quotes,
as many at its end as at its start. -/
namespace MockBuilders.Ron

def unescape? (c : Char) : Option Char :=
  match c with
  | '"' => some '"'
  | '\'' => some '\''
  | '\\' => some '\\'
  | 'n' => some '\n'
  | 'r' => some '\r'
  | 't' => some '\t'
  | '0' => some '\x00'
  | _ => none

/-- The character of digits in braces behind their opening, and what follows. There are up to six
digits. -/
def code? (cs : List Char) : Option (Char × List Char) :=
  let digits := cs.takeWhile Text.isHexDigit
  match cs.drop digits.length with
  | '\x7d' :: rest =>
      if digits ≠ [] ∧ digits.length ≤ 6 then (Text.ofCodePoint? digits).map fun c => (c, rest)
      else none
  | _ => none

/-- The character that an escape behind a backslash stands for, and what follows. -/
def escape? : List Char → Option (Char × List Char)
  | 'x' :: a :: b :: rest => (Text.ofCodePoint? [a, b]).map fun c => (c, rest)
  | 'u' :: '\x7b' :: rest => code? rest
  | c :: rest => (unescape? c).map fun e => (e, rest)
  | [] => none

/-- Text up to its closing quote, and what follows. -/
def quoted? : Nat → List Char → Option (List Char × List Char)
  | 0, _ | _, [] => none
  | _ + 1, '"' :: rest => some ([], rest)
  | n + 1, '\\' :: cs =>
      (escape? cs).bind fun (c, rest) => (quoted? n rest).map fun (text, rest) => (c :: text, rest)
  | n + 1, c :: cs => (quoted? n cs).map fun (text, rest) => (c :: text, rest)

/-- Text up to its ending, and what follows. -/
def upTo? (ending : List Char) : List Char → Option (List Char × List Char)
  | [] => none
  | c :: cs =>
      if ending.isPrefixOf (c :: cs) then some ([], (c :: cs).drop ending.length)
      else (upTo? ending cs).map fun (text, rest) => (c :: text, rest)

/-- A string, and what follows. -/
def string? : List Char → Option (List Char × List Char)
  | '"' :: cs => quoted? (cs.length + 1) cs
  | 'r' :: cs =>
      let hashes := cs.takeWhile (· == '#')
      match cs.drop hashes.length with
      | '"' :: rest => upTo? ('"' :: hashes) rest
      | _ => none
  | _ => none

/-- A character in single quotes, and what follows. -/
def character? : List Char → Option (Char × List Char)
  | '\'' :: '\\' :: cs =>
      match escape? cs with
      | some (c, '\'' :: rest) => some (c, rest)
      | _ => none
  | '\'' :: c :: '\'' :: rest => if c = '\'' then none else some (c, rest)
  | _ => none

end MockBuilders.Ron
