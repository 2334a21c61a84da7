import MockBuilders.Decimal.Extended
import MockBuilders.Json.Numeral

/-! Reading numbers from plain text. -/
namespace MockBuilders

/-- A whole number with or without a sign. -/
def readInteger? (cs : List Char) : Option Int :=
  match Numeral.digits? (Numeral.sign cs).2 with
  | some (digits, []) =>
      some (if (Numeral.sign cs).1 then -(digitsValue digits : Int) else digitsValue digits)
  | _ => none

namespace Extended

/-- A number with or without a sign, a point and an exponent, which has a digit before or after the
point; or the name of an infinity or of the undefined number, in any case. -/
def read? (cs : List Char) : Option Extended :=
  let negative := (Numeral.sign cs).1
  let body := (Numeral.sign cs).2
  let word := String.ofList (body.map Char.toLower)
  if word = "inf" ∨ word = "infinity" then some (infinite negative)
  else if word = "nan" then some undefined
  else
    let whole := body.takeWhile Char.isDigit
    let afterWhole := body.dropWhile Char.isDigit
    let afterPoint := if afterWhole.head? = some '.' then afterWhole.drop 1 else []
    let fraction := afterPoint.takeWhile Char.isDigit
    let rest :=
      if afterWhole.head? = some '.' then afterPoint.dropWhile Char.isDigit else afterWhole
    if whole ++ fraction = [] then none
    else
      match Numeral.exponent? rest with
      | some (exponent, []) =>
          some (ofDecimal negative (digitsValue (whole ++ fraction))
            (exponent.getD 0 - fraction.length))
      | _ => none

end Extended

end MockBuilders
