/-!
Finite binary64 numbers as whole multiples of the least positive one, and their arithmetic:
an exact quotient of natural numbers, rounded once to nearest with halves to even.
-/
namespace MockBuilders

/-- The number `ticks / 2 ^ 1074`, negated when `negative`; zero keeps its sign. -/
structure Binary64 where
  negative : Bool
  ticks : Nat
  deriving DecidableEq, Repr

/-- The quotient `num / den` to the nearest natural number, a half to the even neighbour. -/
def roundHalfEven (num den : Nat) : Nat :=
  let q := num / den
  let r := num % den
  if 2 * r < den then q else if den < 2 * r then q + 1 else q + q % 2

namespace Binary64

/-- Binary places below the point of the least positive number. -/
def places : Nat := 1074

/-- Every finite number lies below `2 ^ 1024`. -/
def limit : Nat := Nat.pow 2 (1024 + places)

/-- Low bits that do not fit into a significand of 53 bits. -/
def excess (ticks : Nat) : Nat := ticks.log2 - 52

/-- A number of ticks whose bits below the leading 53 are all zero. -/
def Representable (ticks : Nat) : Prop := Nat.pow 2 (excess ticks) ∣ ticks ∧ ticks < limit

/-- Ticks of the number nearest to `num / den`, whatever its size. -/
def nearestTicks (num den : Nat) : Nat :=
  let scaled := num * Nat.pow 2 places
  let unit := Nat.pow 2 (excess (scaled / den))
  roundHalfEven scaled (den * unit) * unit

/-- The number nearest to `num / den`, for a quotient below `2 ^ 1024`. -/
def nearest (negative : Bool) (num den : Nat) : Binary64 := ⟨negative, nearestTicks num den⟩

/-- The number nearest to `num / den`; none from `2 ^ 1024` on. -/
def ofRatio? (negative : Bool) (num den : Nat) : Option Binary64 :=
  if nearestTicks num den < limit then some (nearest negative num den) else none

/-- The number nearest to `digits * 10 ^ exponent`. -/
def ofDecimal? (negative : Bool) (digits : Nat) (exponent : Int) : Option Binary64 :=
  ofRatio? negative (digits * Nat.pow 10 exponent.toNat) (Nat.pow 10 (-exponent).toNat)

def isZero (x : Binary64) : Bool := x.ticks == 0

def withSign (negative : Bool) (x : Binary64) : Binary64 := { x with negative }

/-- Whether the number lies between zero and one, both included. -/
def inUnitInterval (x : Binary64) : Bool :=
  x.isZero || (!x.negative && decide (x.ticks ≤ Nat.pow 2 places))

theorem ofRatio?_eq_some {negative : Bool} {num den : Nat} {x : Binary64}
    (h : ofRatio? negative num den = some x) :
    x = nearest negative num den ∧ x.ticks < limit := by
  unfold ofRatio? at h
  split at h
  · next hlt => obtain rfl := Option.some.inj h; exact ⟨rfl, hlt⟩
  · exact absurd h (by simp)

end Binary64

end MockBuilders
