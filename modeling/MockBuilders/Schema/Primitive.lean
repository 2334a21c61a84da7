import MockBuilders.FirstSeen
import MockBuilders.Json.Basic

/-! The primitive types of JSON values, and type keywords made of them only. -/
namespace MockBuilders

inductive Primitive where
  | string
  | number
  | integer
  | boolean
  | null
  deriving DecidableEq, Repr

namespace Primitive

def name : Primitive → String
  | string => "string"
  | number => "number"
  | integer => "integer"
  | boolean => "boolean"
  | null => "null"

def ofName? (name : String) : Option Primitive :=
  if name = "string" then some string
  else if name = "number" then some number
  else if name = "integer" then some integer
  else if name = "boolean" then some boolean
  else if name = "null" then some null
  else none

/-- The type of a constant; every number counts as `number`. -/
def ofConstant? : Json → Option Primitive
  | .string _ => some string
  | .number _ => some number
  | .bool _ => some boolean
  | .null => some null
  | .array _ | .object _ => none

@[simp] theorem ofName?_name (p : Primitive) : ofName? p.name = some p := by
  cases p <;> rfl

end Primitive

/-- The types that a `type` keyword names, each once; empty if there is no such keyword. -/
abbrev TypeTag := List Primitive

namespace TypeTag

/-- A single name, or a list of at least one; none if any member is no primitive type. -/
def ofJson? : Json → Option TypeTag
  | .string name => (Primitive.ofName? name).map fun p => [p]
  | .array (item :: items) =>
      ((item :: items).mapM fun (v : Json) => v.asString?.bind Primitive.ofName?).map firstSeen
  | _ => none

def toJson : TypeTag → Json
  | [p] => .string p.name
  | ps => .array (ps.map fun p => .string p.name)

/-- The type, if there is exactly one. -/
def single? : TypeTag → Option Primitive
  | [p] => some p
  | _ => none

end TypeTag

end MockBuilders
