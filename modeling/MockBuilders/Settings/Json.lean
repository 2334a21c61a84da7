import MockBuilders.Settings.Reading

/-! Settings given as JSON, where every value has to be of its field's type. -/
namespace MockBuilders

namespace Json

/-- A value that does not have the type that is asked for. -/
structure Mistyped where

def orMistyped {α : Type} (o : Option α) : Except Mistyped α :=
  match o with
  | some a => .ok a
  | none => .error ⟨⟩

def asBool? : Json → Option Bool
  | bool value => some value
  | _ => none

def asProbability? : Json → Option Probability
  | bool value => some (.flag value)
  | number value => some (.ratio (.finite value.toBinary))
  | _ => none

/-- Fields of an object, or of an array that is not too long. -/
def record? (count : Nat) : Json → Option (Record Json)
  | object members => some (.named members)
  | array items => if items.length ≤ count then some (.ordered items) else none
  | _ => none

def isNull : Json → Bool
  | null => true
  | _ => false

def reader : ValueReader Json Mistyped where
  record _ count v := orMistyped (v.record? count)
  repeated _ := ⟨⟩
  isNull := isNull
  string _ v := orMistyped v.asString?
  boolean _ v := orMistyped v.asBool?
  strings _ v := orMistyped (v.asArray?.bind fun items => items.mapM asString?)
  probability _ v := orMistyped v.asProbability?

end Json

end MockBuilders
