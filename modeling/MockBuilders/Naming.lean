import MockBuilders.Text.Blank

/-!
Names in the generated module: types from entry names, classes and functions from types, and
setters from property names.
-/
namespace MockBuilders.Naming

/-- Ending of entry names that types go without. -/
def schemaSuffix : List Char := ['S', 'c', 'h', 'e', 'm', 'a']

def dropSuffix (suffix cs : List Char) : List Char :=
  if suffix.isSuffixOf cs then cs.take (cs.length - suffix.length) else cs

/-- The entry name without blanks around it and without a final `Schema`. -/
def typeName (entry : String) : String :=
  String.ofList (Text.trim (dropSuffix schemaSuffix (Text.trim entry.toList)))

def className (type : String) : String := type ++ "Builder"

def factoryName (className : String) : String := "create" ++ className

/-- Key of a type in the table of shared schemas. -/
def constantName (type : String) : String := type ++ String.ofList schemaSuffix

/-- A property name with brackets has no setter. -/
def isExpressible (property : String) : Bool :=
  !property.toList.contains '[' && !property.toList.contains ']'

/-- Keeps ASCII letters and digits; the first one and each one after a gap is raised. -/
def raised (raise : Bool) : List Char → List Char
  | [] => []
  | c :: cs =>
      if c.isAlphanum then (if raise then c.toUpper else c) :: raised false cs else raised true cs

def methodSuffix (property : String) : String := String.ofList (raised true property.toList)

/-- The setter of a property, if it has letters or digits to name it by. -/
def methodName? (property : String) : Option String :=
  if isExpressible property ∧ methodSuffix property ≠ "" then some ("with" ++ methodSuffix property)
  else none

end MockBuilders.Naming
