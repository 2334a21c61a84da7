import MockBuilders.Decimal.Extended
import MockBuilders.Json.Text

/-! Options of a builder: how the mocks that it builds are generated. -/
namespace MockBuilders

/-- How likely it is that an optional property is there: a ratio, or `false` for no choice. -/
inductive Probability where
  | ratio (value : Extended)
  | flag (value : Bool)
  deriving DecidableEq, Repr

namespace Probability

/-- A ratio lies between zero and one; of the flags only `false` means anything. -/
def isValid : Probability → Bool
  | ratio value => value.inUnitInterval
  | flag value => !value

/-- Ratios in messages have no exponent from `1e-4` up to `1e16`. -/
def layout : Decimal.Layout where
  tie := .up
  positional e := decide (-4 ≤ e ∧ e < 16)
  wholePoint := true
  exponentSign := []

def text : Probability → String
  | ratio value => "Ratio(" ++ value.text layout ++ ")"
  | flag value => "Flag(" ++ (if value then "true" else "false") ++ ")"

/-- A ratio that is no finite number is written as null. -/
def toJson : Probability → Json
  | ratio (.finite value) => .number (.binary value)
  | ratio _ => .null
  | flag value => .bool value

end Probability

/-- The options, in the order in which they are written. -/
inductive OptionName where
  | useDefault
  | useExamples
  | alwaysIncludeOptionals
  | optionalsProbability
  | omitNulls
  deriving DecidableEq, Repr

namespace OptionName

def all : List OptionName :=
  [useDefault, useExamples, alwaysIncludeOptionals, optionalsProbability, omitNulls]

/-- The name on a builder. -/
def key : OptionName → String
  | useDefault => "useDefault"
  | useExamples => "useExamples"
  | alwaysIncludeOptionals => "alwaysIncludeOptionals"
  | optionalsProbability => "optionalsProbability"
  | omitNulls => "omitNulls"

/-- The name in lower case, which settings may use as well. -/
def lowerKey : OptionName → String
  | useDefault => "use_default"
  | useExamples => "use_examples"
  | alwaysIncludeOptionals => "always_include_optionals"
  | optionalsProbability => "optionals_probability"
  | omitNulls => "omit_nulls"

/-- The name that the mock generator knows. -/
def generatorKey : OptionName → String
  | useDefault => "useDefaultValue"
  | useExamples => "useExamplesValue"
  | alwaysIncludeOptionals => "alwaysFakeOptionals"
  | optionalsProbability => "optionalsProbability"
  | omitNulls => "omitNulls"

/-- The type in the generated module. -/
def type : OptionName → String
  | optionalsProbability => "number | false"
  | _ => "boolean"

end OptionName

/-- Options that are set; the mock generator decides on the others. -/
structure BuilderOptions where
  useDefault : Option Bool
  useExamples : Option Bool
  alwaysIncludeOptionals : Option Bool
  optionalsProbability : Option Probability
  omitNulls : Option Bool
  deriving DecidableEq, Repr

namespace BuilderOptions

def unset : BuilderOptions := ⟨none, none, none, none, none⟩

def isUnset (o : BuilderOptions) : Bool := o == unset

def value? (o : BuilderOptions) : OptionName → Option Json
  | .useDefault => o.useDefault.map .bool
  | .useExamples => o.useExamples.map .bool
  | .alwaysIncludeOptionals => o.alwaysIncludeOptionals.map .bool
  | .optionalsProbability => o.optionalsProbability.map Probability.toJson
  | .omitNulls => o.omitNulls.map .bool

/-- The options that are set, by their names on a builder. -/
def toJson (o : BuilderOptions) : Json :=
  .object (OptionName.all.filterMap fun name => (o.value? name).map fun value => (name.key, value))

/-- What is wrong with the options: a probability that the generated module cannot hold. -/
def fault? (o : BuilderOptions) : Option String :=
  (o.optionalsProbability.filter fun p => !p.isValid).map fun p =>
    "optionalsProbability must be a number in [0, 1] or false, got " ++ p.text

end BuilderOptions

end MockBuilders
