import MockBuilders.Decimal.Extended
import MockBuilders.Members

/-! TOML values. -/
namespace MockBuilders

inductive Toml where
  | string (value : String)
  /-- A whole number of 64 bits with a sign. -/
  | integer (value : Int)
  | float (value : Extended)
  | boolean (value : Bool)
  /-- A date, a time of day or both, in the one text that it is written with. -/
  | moment (text : String)
  | array (items : List Toml)
  | table (members : List (String × Toml))
  deriving BEq, Repr

end MockBuilders
