import MockBuilders.Decimal.Extended
import MockBuilders.Members

/-! What a document says, whatever the format that it is written in. -/
namespace MockBuilders

inductive Scalar where
  | nothing
  | string (value : String)
  /-- A whole number of 64 bits with a sign. -/
  | integer (value : Int)
  | float (value : Extended)
  | boolean (value : Bool)
  deriving DecidableEq, Repr

namespace Scalar

def integerText (n : Int) : String := (if n < 0 then "-" else "") ++ Nat.repr n.natAbs

def booleanText (b : Bool) : String := if b then "true" else "false"

end Scalar

inductive Datum where
  | scalar (value : Scalar)
  | array (items : List Datum)
  | table (members : List (String × Datum))
  deriving BEq, Repr

namespace Datum

def nothing : Datum := scalar .nothing

def string (value : String) : Datum := scalar (.string value)

def integer (value : Int) : Datum := scalar (.integer value)

def float (value : Extended) : Datum := scalar (.float value)

def boolean (value : Bool) : Datum := scalar (.boolean value)

/-- The members of a table. -/
def table? : Datum → Option (Members Datum)
  | table members => some members
  | _ => none

/-- The name that a value is, if it can be one. -/
def name? : Datum → Option String
  | scalar (.string value) => some value
  | scalar (.integer value) => some (Scalar.integerText value)
  | scalar (.boolean value) => some (Scalar.booleanText value)
  | _ => none

end Datum

end MockBuilders
