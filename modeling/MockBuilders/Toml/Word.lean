import MockBuilders.Text.Digits
import MockBuilders.Toml.Moment
import MockBuilders.Toml.Value

/-! Words of TOML: truth values, numbers, dates and times of day. -/
namespace MockBuilders.Toml

/-- Digits without the single underscores that part them; an underscore stands between digits. -/
def ungrouped? (isDigit : Char → Bool) : List Char → Option (List Char)
  | [] => none
  | [c] => if isDigit c then some [c] else none
  | c :: '_' :: cs => if isDigit c then (ungrouped? isDigit cs).map (c :: ·) else none
  | c :: d :: cs => if isDigit c then (ungrouped? isDigit (d :: cs)).map (c :: ·) else none

/-- Digits to the base ten, the first of them zero only if it is alone. -/
def whole? (cs : List Char) : Option (List Char) :=
  (ungrouped? Char.isDigit cs).filter fun ds => ds.head? != some '0' || ds.length == 1

/-- A whole number: to the base ten with a sign, or to the base 16, 8 or 2 without. -/
def integer? (cs : List Char) : Option Int :=
  let magnitude? : Option Int :=
    match cs with
    | '0' :: 'x' :: ds => (ungrouped? Text.isHexDigit ds).map fun ds => Text.ofDigits 16 ds
    | '0' :: 'o' :: ds => (ungrouped? Text.isOctalDigit ds).map fun ds => Text.ofDigits 8 ds
    | '0' :: 'b' :: ds => (ungrouped? Text.isBinaryDigit ds).map fun ds => Text.ofDigits 2 ds
    | cs =>
        (whole? (Numeral.sign cs).2).map fun ds =>
          if (Numeral.sign cs).1 then -(digitsValue ds : Int) else digitsValue ds
  magnitude?.filter Numeral.isWord

/-- The digits after a point, if there is one; at least one digit follows it. -/
def fraction? : List Char → Option (List Char)
  | [] => some []
  | '.' :: cs => ungrouped? Char.isDigit cs
  | _ => none

/-- The exponent after its mark, if there is one. -/
def exponent? : List Char → Option Int
  | [] => some 0
  | _ :: cs =>
      (ungrouped? Char.isDigit (Numeral.sign cs).2).map fun ds =>
        if (Numeral.sign cs).1 then -(digitsValue ds : Int) else digitsValue ds

def isExponentMark (c : Char) : Bool := c == 'e' || c == 'E'

/-- Whether there is a point or an exponent, which whole numbers do not have. -/
def isFractional (cs : List Char) : Bool := cs.any fun c => c == '.' || isExponentMark c

/-- A number with a point or an exponent. Too large ones are refused, too small ones are the
infinity below all numbers. -/
def decimal? (cs : List Char) : Option Extended := do
  let body := (Numeral.sign cs).2
  let mantissa := body.takeWhile fun c => !isExponentMark c
  let whole ← whole? (mantissa.takeWhile fun c => c != '.')
  let fraction ← fraction? (mantissa.dropWhile fun c => c != '.')
  let exponent ← exponent? (body.dropWhile fun c => !isExponentMark c)
  let value :=
    Extended.ofDecimal (Numeral.sign cs).1 (digitsValue (whole ++ fraction))
      (exponent - fraction.length)
  if !isFractional body || value == .infinite false then none else some value

def float? (cs : List Char) : Option Extended :=
  match (Numeral.sign cs).2 with
  | ['i', 'n', 'f'] => some (.infinite (Numeral.sign cs).1)
  | ['n', 'a', 'n'] => some .undefined
  | _ => decimal? cs

/-- The value of a word. -/
def ofWord? (cs : List Char) : Option Toml :=
  match cs with
  | ['t', 'r', 'u', 'e'] => some (.boolean true)
  | ['f', 'a', 'l', 's', 'e'] => some (.boolean false)
  | cs =>
      match integer? cs, float? cs with
      | some n, _ => some (.integer n)
      | none, some x => some (.float x)
      | none, none => (Moment.text? .strict cs).map fun t => .moment (String.ofList t)

end MockBuilders.Toml
