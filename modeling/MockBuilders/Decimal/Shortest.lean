import MockBuilders.Decimal.Binary64

/-!
The shortest decimal that reads back to a binary64 number: the fewest digits for which one of
the number's two neighbours on the decimal grid reads back, and of two such the nearer.
-/
namespace MockBuilders

/-- The number `digits * 10 ^ exponent`. -/
structure Decimal where
  digits : Nat
  exponent : Int
  deriving DecidableEq, Repr

/-- Which of two equally near decimals is taken. -/
inductive Tie where
  | toEven
  | up
  deriving DecidableEq, Repr

namespace Decimal

def digitCount (n : Nat) : Nat := (Nat.toDigits 10 n).length

/-- Moves trailing zeros of the digits into the exponent. -/
def trim (d : Decimal) : Decimal :=
  if h : d.digits ≠ 0 ∧ d.digits % 10 = 0 then trim ⟨d.digits / 10, d.exponent + 1⟩ else d
termination_by d.digits
decreasing_by exact Nat.div_lt_self (Nat.pos_of_ne_zero h.1) (by decide)

/-- Exponent of the leading digit. -/
def leading (d : Decimal) : Int := d.exponent + digitCount d.digits - 1

end Decimal

namespace Binary64

/-- Decimal places at which every positive number has a digit before the point. -/
def decimalPlaces : Nat := 324

/-- Exponent of the leading decimal digit of a nonzero number. -/
def leadingExponent (x : Binary64) : Int :=
  Decimal.digitCount (x.ticks * Nat.pow 10 decimalPlaces / Nat.pow 2 places) - 1 - decimalPlaces

def readsBack (x : Binary64) (d : Decimal) : Bool :=
  ofDecimal? x.negative d.digits d.exponent == some x

/-- The exact decimal value, with all its digits. -/
def exact (x : Binary64) : Decimal := ⟨x.ticks * Nat.pow 5 places, -(places : Int)⟩

/-- Of two neighbours on the decimal grid the one that reads back; the nearer one if both do, as
the order of the distances from below and from above tells. -/
def pick (reads : Decimal → Bool) (order : Ordering) (tie : Tie) (below above : Decimal) :
    Option Decimal :=
  match reads below, reads above with
  | false, false => none
  | true, false => some below
  | false, true => some above
  | true, true =>
      match order, tie with
      | .lt, _ => some below
      | .gt, _ => some above
      | .eq, .up => some above
      | .eq, .toEven => some (if below.digits % 2 = 0 then below else above)

/-- The decimal of `count` digits that reads back, if one does. -/
def withDigits? (tie : Tie) (x : Binary64) (count : Nat) : Option Decimal :=
  let exponent := x.leadingExponent - count + 1
  let num := x.ticks * Nat.pow 10 (-exponent).toNat
  let den := Nat.pow 2 places * Nat.pow 10 exponent.toNat
  pick x.readsBack (compare (2 * (num % den)) den) tie ⟨num / den, exponent⟩
    ⟨num / den + 1, exponent⟩

/-- The shortest decimal that reads back to a nonzero number. -/
def shortest (tie : Tie) (x : Binary64) : Decimal :=
  (((List.range 17).findSome? fun n => x.withDigits? tie (n + 1)).getD x.exact).trim

end Binary64

end MockBuilders
