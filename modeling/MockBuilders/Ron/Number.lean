import MockBuilders.Decimal.Reading
import MockBuilders.Ron.Word
import MockBuilders.Text.Digits

/-!
Numbers of RON. A number that looks whole and is no word of 64 bits, or has digits that its base
does not have, is read as a decimal.
-/
namespace MockBuilders.Ron

def isWholeChar (c : Char) : Bool := Text.isHexDigit c || c == '_'

def isDecimalChar (c : Char) : Bool :=
  c.isDigit || c == 'e' || c == 'E' || c == '.' || c == '+' || c == '-' || c == '_'

/-- The base of digits, and the digits with what follows. -/
def takeBase : List Char → Nat × List Char
  | '0' :: 'x' :: cs => (16, cs)
  | '0' :: 'o' :: cs => (8, cs)
  | '0' :: 'b' :: cs => (2, cs)
  | cs => (10, cs)

/-- Digits, with underscores between them, and what follows. -/
def magnitude? (cs : List Char) : Option (Nat × List Char) :=
  let (base, cs) := takeBase cs
  let digits := cs.takeWhile isWholeChar
  let ds := digits.filter fun c => c != '_'
  if digits.head?.all (· == '_') || !ds.all fun c => (Text.hexValue? c).any (· < base) then none
  else some (Text.ofDigits base ds, cs.dropWhile isWholeChar)

/-- A word of 64 bits, which has a sign bit only if a sign is written. -/
def whole? (cs : List Char) : Option (Datum × List Char) :=
  match cs with
  | '-' :: ds => (magnitude? ds).bind fun (n, rest) => signed (-n) rest
  | '+' :: ds => (magnitude? ds).bind fun (n, rest) => signed n rest
  | ds =>
      (magnitude? ds).bind fun (n, rest) =>
        if Numeral.isWord n then some (.integer n, rest)
        else if n < Numeral.wordLimit then some (.float (.ofInt n), rest)
        else none
where
  signed (n : Int) (rest : List Char) : Option (Datum × List Char) :=
    if Numeral.isWord n then some (.integer n, rest) else none

/-- The words for numbers that are not finite, which have signs here. -/
def unboundedWords : List (String × Extended) :=
  [("+inf", .infinite false), ("-inf", .infinite true), ("+NaN", .undefined),
    ("-NaN", .undefined)]

/-- A decimal, which no underscore may stand in. -/
def decimal? (cs : List Char) : Option (Datum × List Char) :=
  match unboundedWords.findSome? fun w => (afterWord? w.1 cs).map fun rest => (w.2, rest) with
  | some (value, rest) => some (.float value, rest)
  | none =>
      let text := cs.takeWhile isDecimalChar
      if text.contains '_' then none
      else (Extended.read? text).map fun value => (.float value, cs.dropWhile isDecimalChar)

/-- Whether a number goes on as a decimal where a whole number would end. -/
def looksDecimal (cs : List Char) : Bool :=
  let digits := (Numeral.sign cs).2
  (digits.takeWhile isWholeChar).length < (digits.takeWhile isDecimalChar).length

/-- The number that comes next, and what follows. -/
def number? (cs : List Char) : Option (Datum × List Char) :=
  if looksDecimal cs then decimal? cs else (whole? cs).or (decimal? cs)

end MockBuilders.Ron
