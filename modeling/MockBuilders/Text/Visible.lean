import MockBuilders.Text.GraphemeExtend
import MockBuilders.Text.Unprintable

/-! Text in quotes in which nothing is invisible: characters that print nothing or are put on the
one before them are written by code point. -/
namespace MockBuilders.Text

def isVisible (c : Char) : Bool :=
  c == ' ' || !(unprintable.holds c || graphemeExtend.holds c)

def visible (c : Char) : List Char :=
  if c = '"' then ['\\', '"']
  else if c = '\\' then ['\\', '\\']
  else if c = '\n' then ['\\', 'n']
  else if c = '\r' then ['\\', 'r']
  else if c = '\t' then ['\\', 't']
  else if c = '\x00' then ['\\', '0']
  else if isVisible c then [c]
  else ['\\', 'u', '\x7b'] ++ Nat.toDigits 16 c.toNat ++ ['\x7d']

def quotedVisible (s : String) : String :=
  String.ofList ('"' :: s.toList.flatMap visible ++ ['"'])

end MockBuilders.Text
