import MockBuilders.Decimal.Reading
import MockBuilders.Json5.Token
import MockBuilders.Text.Letters
import MockBuilders.Text.NameMarks

/-! Reading JSON5: bare names, strings in either quotes, comments, commas behind the last item, and
further ways to write numbers. -/
namespace MockBuilders.Json5

/-- Whether a bare name may start with a character. -/
def startsName (c : Char) : Bool := Text.letters.holds c || c == '_' || c == '$'

/-- Whether a bare name may hold a character; two that join or part letters are among them. -/
def isNameChar (c : Char) : Bool :=
  startsName c || Text.nameMarks.holds c || c == '\u200c' || c == '\u200d'

/-- The parts of a bare name, in which characters may be written by their units. -/
def namePieces? : List Char → Option (List Lexeme.Piece)
  | [] => some []
  | '\\' :: 'u' :: a :: b :: c :: d :: cs =>
      match Lexeme.unit? a b c d, namePieces? cs with
      | some u, some ps => some (.unit u :: ps)
      | _, _ => none
  | c :: cs => if isNameChar c then (namePieces? cs).map (.char c :: ·) else none

def name? (cs : List Char) : Option String :=
  if cs.head?.any fun c => startsName c || c == '\\' then
    ((namePieces? cs).bind Lexeme.join?).map String.ofList
  else none

/-- The first number that takes more than 32 bits. -/
def hexLimit : Nat := 0x100000000

/-- Whether digits with a point and an exponent are a number: no zero before another digit, and a
digit at one side of the point. -/
def isDecimal (cs : List Char) : Bool :=
  let whole := cs.takeWhile Char.isDigit
  (whole.head? != some '0' || whole.length == 1) && (whole != [] || cs.head? == some '.')

def isFractional (cs : List Char) : Bool := cs.any fun c => c == '.' || c == 'e' || c == 'E'

def finite? : Extended → Option Datum
  | .finite value => some (.float (.finite value))
  | _ => none

/-- The number that a word is. Numbers to the base 16 have no sign, and take 32 bits; whole ones to
the base ten take 64; the others are finite. -/
def number? (cs : List Char) : Option Datum :=
  match cs with
  | '0' :: x :: d :: ds =>
      if x = 'x' ∨ x = 'X' then
        let n := Text.ofDigits 16 (d :: ds)
        if (d :: ds).all Text.isHexDigit ∧ n < hexLimit then some (.integer n) else none
      else decimal? cs
  | _ => decimal? cs
where
  decimal? (cs : List Char) : Option Datum :=
    if !isDecimal (Numeral.sign cs).2 then none
    else if isFractional cs then (Extended.read? cs).bind finite?
    else ((readInteger? cs).filter Numeral.isWord).map .integer

/-- The value of a word. -/
def value? (cs : List Char) : Option Datum :=
  let word := String.ofList cs
  if word = "null" then some .nothing
  else if word = "true" then some (.boolean true)
  else if word = "false" then some (.boolean false)
  else if word = "Infinity" then some (.float (.infinite false))
  else if word = "-Infinity" then some (.float (.infinite true))
  else if word = "NaN" ∨ word = "-NaN" then some (.float .undefined)
  else number? cs

def sign? (c : Char) : Option Sign :=
  match c with
  | '[' => some (.opening .array)
  | '\x7b' => some (.opening .table)
  | ']' => some (.closing .array)
  | '\x7d' => some (.closing .table)
  | ':' => some .colon
  | ',' => some .comma
  | _ => none

/-- The signs of a document; a word before a colon is a name. -/
def signs? : List BracketedToken → Option (List Sign)
  | [] => some []
  | .word cs :: .mark ':' :: tokens =>
      match name? cs, signs? tokens with
      | some key, some signs => some (.name key :: .colon :: signs)
      | _, _ => none
  | .word cs :: tokens =>
      match value? cs, signs? tokens with
      | some v, some signs => some (.value v :: signs)
      | _, _ => none
  | .text s :: tokens => (signs? tokens).map (.text s :: ·)
  | .mark c :: tokens =>
      match sign? c, signs? tokens with
      | some sign, some signs => some (sign :: signs)
      | _, _ => none

/-- The value of a document; none if the text is not JSON5. -/
def read? (text : String) : Option Datum :=
  (tokens? text.toList).bind fun tokens => (signs? tokens).bind Bracketed.read?

end MockBuilders.Json5
