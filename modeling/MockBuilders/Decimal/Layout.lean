import MockBuilders.Decimal.Shortest

/-!
Texts of binary64 numbers: the shortest digits, laid out with a point or with an exponent.
-/
namespace MockBuilders.Decimal

/-- The decisions of one number format. -/
structure Layout where
  tie : Tie
  /-- Whether a number with this leading exponent is written without an exponent. -/
  positional : Int → Bool
  /-- Whether a whole number written without an exponent ends in `.0`. -/
  wholePoint : Bool
  /-- Sign written before an exponent that is not negative. -/
  exponentSign : List Char

def digitChars (n : Nat) : List Char := Nat.toDigits 10 n

def zeros (n : Nat) : List Char := List.replicate n '0'

namespace Layout

/-- The digits with a point at the place of the units. -/
def point (layout : Layout) (d : Decimal) : List Char :=
  let digits := digitChars d.digits
  if 0 ≤ d.exponent then
    digits ++ zeros d.exponent.toNat ++ (if layout.wholePoint then ['.', '0'] else [])
  else
    let places := (-d.exponent).toNat
    let padded := zeros (places + 1 - digits.length) ++ digits
    padded.take (padded.length - places) ++ '.' :: padded.drop (padded.length - places)

def exponent (layout : Layout) (e : Int) : List Char :=
  'e' :: (if e < 0 then ['-'] else layout.exponentSign) ++ digitChars e.natAbs

/-- One digit before the point, the others after it, and the exponent. -/
def scientific (layout : Layout) (d : Decimal) : List Char :=
  let mantissa :=
    match digitChars d.digits with
    | first :: second :: rest => first :: '.' :: second :: rest
    | digits => digits
  mantissa ++ layout.exponent d.leading

def magnitude (layout : Layout) (x : Binary64) : List Char :=
  if x.isZero then layout.point ⟨0, 0⟩
  else
    let d := x.shortest layout.tie
    if layout.positional d.leading then layout.point d else layout.scientific d

def chars (layout : Layout) (x : Binary64) : List Char :=
  (if x.negative then ['-'] else []) ++ layout.magnitude x

def text (layout : Layout) (x : Binary64) : String := String.ofList (layout.chars x)

end Layout

end MockBuilders.Decimal
