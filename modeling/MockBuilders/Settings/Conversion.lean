import MockBuilders.Settings.Failure
import MockBuilders.Settings.Reading
import MockBuilders.Settings.Stored
import MockBuilders.Text.Visible

/-! Reading settings from stored values, each of which is turned into the type that is asked for
where that makes sense. -/
namespace MockBuilders

/-- Numbers as text are written without exponents, whole ones without a point. -/
def Scalar.layout : Decimal.Layout where
  tie := .up
  positional _ := true
  wholePoint := false
  exponentSign := []

/-- Numbers in messages always have a point. -/
def Scalar.pointLayout : Decimal.Layout where
  tie := .up
  positional _ := true
  wholePoint := true
  exponentSign := []

namespace Scalar

/-- What a value is called in messages. -/
def described : Scalar → String
  | nothing => "unit value"
  | string value => "string " ++ Text.quotedVisible value
  | integer value => "integer `" ++ integerText value ++ "`"
  | float value => "floating point `" ++ value.text pointLayout ++ "`"
  | boolean value => "boolean `" ++ booleanText value ++ "`"

/-- The text of a value, if it has one. -/
def text? : Scalar → Option String
  | nothing => none
  | string value => some value
  | integer value => some (integerText value)
  | float value => some (value.text layout)
  | boolean value => some (booleanText value)

/-- The truth value that a word stands for. -/
def truth? (word : String) : Option Bool :=
  if word ∈ ["1", "true", "on", "yes"] then some true
  else if word ∈ ["0", "false", "off", "no"] then some false
  else none

/-- The truth value of a value. Numbers other than zero are true, and words count in any case; what
comes with a refusal is the value that was looked at. -/
def truth : Scalar → Except Scalar Bool
  | nothing => .error nothing
  | boolean value => .ok value
  | integer value => .ok (value != 0)
  | float value => .ok !value.isZero
  | string value =>
      match truth? (Text.lower value) with
      | some b => .ok b
      | none => .error (string (Text.lower value))

end Scalar

namespace Stored

/-- What a value is called in messages. -/
def described : Stored → String
  | scalar _ value => value.described
  | array _ _ => "sequence"
  | table _ _ => "map"

def unexpected {α : Type} (v : Stored) (expected : String) : Except SettingsFailure α :=
  .error (.refused ("invalid type: " ++ v.described ++ ", expected " ++ expected))

def inconvertible {α : Type} (v : Stored) (expected key : String) : Except SettingsFailure α :=
  .error (.inconvertible v.described expected key v.source?)

def asString (key : String) (v : Stored) : Except SettingsFailure String :=
  match v with
  | scalar _ value =>
      match value.text? with
      | some text => .ok text
      | none => v.inconvertible "a string" key
  | v => v.inconvertible "a string" key

def asBoolean (key : String) (v : Stored) : Except SettingsFailure Bool :=
  match v with
  | scalar source value =>
      match value.truth with
      | .ok b => .ok b
      | .error found => (scalar source found).inconvertible "a boolean" key
  | v => v.inconvertible "a boolean" key

def asStrings (key : String) : Stored → Except SettingsFailure (List String)
  | array _ items =>
      (items.zip (List.range items.length)).mapM fun p =>
        asString (Record.below key ("[" ++ Nat.repr p.2 ++ "]")) p.1
  | v => v.unexpected "a sequence"

/-- A probability is taken as it stands; text is none. -/
def asProbability (_key : String) : Stored → Except SettingsFailure Probability
  | scalar _ (.boolean value) => .ok (.flag value)
  | scalar _ (.integer value) => .ok (.ratio (.ofInt value))
  | scalar _ (.float value) => .ok (.ratio value)
  | _ => .error (.refused "data did not match any variant of untagged enum OptionalsProbability")

def asRecord (group : String) : Stored → Except SettingsFailure (Record Stored)
  | table _ members => .ok (.named members)
  | array _ items => .ok (.ordered items)
  | v => v.unexpected ("struct " ++ group)

def isNothing : Stored → Bool
  | scalar _ .nothing => true
  | _ => false

def reader : ValueReader Stored SettingsFailure where
  record group _ v := asRecord group v
  repeated field := .refused ("duplicate field `" ++ field ++ "`")
  isNull := isNothing
  string := asString
  boolean := asBoolean
  strings := asStrings
  probability := asProbability

end Stored

end MockBuilders
