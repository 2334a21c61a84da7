import MockBuilders.Decimal.Layout

/-! Binary64 numbers together with the two infinities and the undefined number. -/
namespace MockBuilders

inductive Extended where
  | finite (value : Binary64)
  | infinite (negative : Bool)
  | undefined
  deriving DecidableEq, Repr

namespace Extended

/-- The nearest number; whole numbers of 64 bits are all in range. -/
def ofInt (value : Int) : Extended := finite (.nearest (decide (value < 0)) value.natAbs 1)

/-- Decimals from `1e310` on are infinite, whatever their digits. -/
def greatestExponent : Int := 310

/-- Decimals below `1e-330` are zero, whatever their digits. -/
def leastExponent : Int := -330

/-- The number nearest to `digits * 10 ^ exponent`; an infinity if that is out of range. -/
def ofDecimal (negative : Bool) (digits : Nat) (exponent : Int) : Extended :=
  let leading := exponent + Decimal.digitCount digits
  if digits = 0 ∨ leading < leastExponent then finite ⟨negative, 0⟩
  else if greatestExponent < leading then infinite negative
  else
    match Binary64.ofDecimal? negative digits exponent with
    | some value => finite value
    | none => infinite negative

def isZero : Extended → Bool
  | finite value => value.isZero
  | infinite _ | undefined => false

/-- Whether the number lies between zero and one, both included. -/
def inUnitInterval : Extended → Bool
  | finite value => value.inUnitInterval
  | infinite _ | undefined => false

def text (layout : Decimal.Layout) : Extended → String
  | finite value => layout.text value
  | infinite negative => if negative then "-inf" else "inf"
  | undefined => "NaN"

end Extended

end MockBuilders
