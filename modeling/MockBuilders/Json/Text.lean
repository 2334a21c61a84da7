import MockBuilders.Decimal.Layout
import MockBuilders.Json.Basic

/-! JSON text, on one line without blanks or indented by two. -/
namespace MockBuilders

def hexDigits (n : Nat) : List Char := Nat.toDigits 16 n

namespace Number

/-- JSON numbers take the even one of two nearest decimals, have no exponent from `1e-5` up to
`1e16`, and sign every exponent. -/
def layout : Decimal.Layout where
  tie := .toEven
  positional e := decide (-5 ≤ e ∧ e < 16)
  wholePoint := true
  exponentSign := ['+']

def chars : Number → List Char
  | integer value => (if value < 0 then ['-'] else []) ++ Decimal.digitChars value.natAbs
  | binary value => layout.chars value

end Number

namespace Json

/-- How a character stands inside quotes. -/
def escaped (c : Char) : List Char :=
  if c = '"' then ['\\', '"']
  else if c = '\\' then ['\\', '\\']
  else if c = '\n' then ['\\', 'n']
  else if c = '\r' then ['\\', 'r']
  else if c = '\t' then ['\\', 't']
  else if c = '\x08' then ['\\', 'b']
  else if c = '\x0c' then ['\\', 'f']
  else if c.toNat < 16 then ['\\', 'u', '0', '0', '0'] ++ hexDigits c.toNat
  else if c.toNat < 32 then ['\\', 'u', '0', '0'] ++ hexDigits c.toNat
  else [c]

def quoted (s : String) : List Char := '"' :: s.toList.flatMap escaped ++ ['"']

mutual

/-- The text without blanks. -/
def chars : Json → List Char
  | null => ['n', 'u', 'l', 'l']
  | bool true => ['t', 'r', 'u', 'e']
  | bool false => ['f', 'a', 'l', 's', 'e']
  | number value => value.chars
  | string value => quoted value
  | array items => '[' :: itemChars items ++ [']']
  | object members => '\x7b' :: memberChars members ++ ['\x7d']

def itemChars : List Json → List Char
  | [] => []
  | [item] => item.chars
  | item :: next :: items => item.chars ++ ',' :: itemChars (next :: items)

def memberChars : List (String × Json) → List Char
  | [] => []
  | [(key, value)] => quoted key ++ ':' :: value.chars
  | (key, value) :: next :: members =>
      quoted key ++ ':' :: value.chars ++ ',' :: memberChars (next :: members)

end

def text (value : Json) : String := String.ofList value.chars

def newline (depth : Nat) : List Char := '\n' :: List.replicate (2 * depth) ' '

mutual

/-- The text with each item on a line of its own, two blanks deeper than its container. -/
def indentedChars (depth : Nat) : Json → List Char
  | array [] => ['[', ']']
  | array (item :: items) =>
      '[' :: indentedItems (depth + 1) (item :: items) ++ newline depth ++ [']']
  | object [] => ['\x7b', '\x7d']
  | object (first :: members) =>
      '\x7b' :: indentedMembers (depth + 1) (first :: members) ++ newline depth ++ ['\x7d']
  | value => value.chars

def indentedItems (depth : Nat) : List Json → List Char
  | [] => []
  | [item] => newline depth ++ item.indentedChars depth
  | item :: next :: items =>
      newline depth ++ item.indentedChars depth ++ ',' :: indentedItems depth (next :: items)

def indentedMembers (depth : Nat) : List (String × Json) → List Char
  | [] => []
  | [(key, value)] =>
      newline depth ++ quoted key ++ ':' :: ' ' :: value.indentedChars depth
  | (key, value) :: next :: members =>
      newline depth ++ quoted key ++ ':' :: ' ' :: value.indentedChars depth ++
        ',' :: indentedMembers depth (next :: members)

end

def indentedText (value : Json) : String := String.ofList (value.indentedChars 0)

end Json

end MockBuilders
