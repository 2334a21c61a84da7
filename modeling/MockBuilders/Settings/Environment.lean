import MockBuilders.Decimal.Reading
import MockBuilders.Settings.KeyPath

/-! Settings from variables of the environment. -/
namespace MockBuilders

namespace Environment

/-- How the environment is called as a source. -/
def sourceName : String := "the environment"

/-- How the names of variables about settings start. -/
def start : List Char := "builders__".toList

/-- Two underscores part the names of a path. -/
def pointed : List Char → List Char
  | [] => []
  | '_' :: '_' :: cs => '.' :: pointed cs
  | c :: cs => c :: pointed cs

/-- Where the value of a variable goes; none if the variable is not about settings. -/
def key? (name : String) : Option String :=
  let cs := (Text.lower name).toList
  if start.isPrefixOf cs then some (String.ofList (pointed (cs.drop start.length))) else none

/-- The value of a variable: a truth value, a whole number of 64 bits, a number, or else text. -/
def value (text : String) : Datum :=
  let word := Text.lower text
  if word = "true" then .boolean true
  else if word = "false" then .boolean false
  else
    match (readInteger? text.toList).filter Numeral.isWord with
    | some n => .integer n
    | none =>
        match Extended.read? text.toList with
        | some x => .float x
        | none => .string text

def stored (environment : List (String × String)) : Members Stored :=
  Stored.ofMembers sourceName
    (environment.filterMap fun p => (key? p.1).map fun key => (key, value p.2))

end Environment

end MockBuilders
