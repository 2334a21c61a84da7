import MockBuilders.Schema.References

/-! Diagnostics: what a run reports without stopping. -/
namespace MockBuilders

inductive Severity where
  | info
  | warning
  | error
  deriving DecidableEq, Repr

def Severity.name : Severity → String
  | info => "info"
  | warning => "warning"
  | error => "error"

inductive DiagnosticCode where
  | unresolvedReference
  | cyclicSchema
  /-- A property name with brackets. -/
  | bracketedProperty
  /-- A property name without letters or digits. -/
  | emptyMethodName
  /-- Two properties of one setter name. -/
  | methodNameCollision
  /-- Two entries of one type name. -/
  | typeNameCollision
  deriving DecidableEq, Repr

namespace DiagnosticCode

def name : DiagnosticCode → String
  | unresolvedReference => "W001"
  | cyclicSchema => "E001"
  | bracketedProperty => "I001"
  | emptyMethodName => "W002"
  | methodNameCollision => "W003"
  | typeNameCollision => "W004"

def all : List DiagnosticCode :=
  [unresolvedReference, cyclicSchema, bracketedProperty, emptyMethodName, methodNameCollision,
    typeNameCollision]

def ofName? (name : String) : Option DiagnosticCode := all.find? fun code => code.name == name

def severity : DiagnosticCode → Severity
  | cyclicSchema => .error
  | bracketedProperty => .info
  | _ => .warning

end DiagnosticCode

structure Diagnostic where
  entry : String
  code : DiagnosticCode
  message : String
  context : List String
  deriving DecidableEq, Repr

namespace Diagnostic

def severity (d : Diagnostic) : Severity := d.code.severity

def text (d : Diagnostic) : String :=
  "[" ++ d.code.name ++ "] " ++ d.severity.name ++ ": " ++ d.message ++ " (" ++ d.entry ++ ")" ++
    String.join (d.context.map ("\n  - " ++ ·))

/-- A reference that leads to no entry. -/
def missing (entry pointer : String) : Diagnostic :=
  ⟨entry, .unresolvedReference, "Reference not found for " ++ pointer, []⟩

/-- A reference under a keyword that is not followed. -/
def unfollowed (entry : String) (u : Unfollowed) : Diagnostic :=
  ⟨entry, .unresolvedReference,
    "Reference under " ++ u.keyword ++ " left in place: " ++ u.pointer, ["Keyword: " ++ u.keyword]⟩

/-- A property without a setter. -/
def skipped (entry : String) (code : DiagnosticCode) (property : String) : Diagnostic :=
  ⟨entry, code, "No override method generated for property '" ++ property ++ "'",
    ["Property: " ++ property]⟩

end Diagnostic

abbrev Diagnostics := List Diagnostic

namespace Diagnostics

def hasErrors (ds : Diagnostics) : Bool := ds.any fun d => d.severity == .error

def warningCount (ds : Diagnostics) : Nat := ds.countP fun d => d.severity == .warning

def count (ds : Diagnostics) (code : DiagnosticCode) : Nat := ds.countP fun d => d.code == code

/-- One diagnostic after the other, and the number of warnings below them. -/
def report (ds : Diagnostics) : String :=
  String.join (ds.map fun d => d.text ++ "\n") ++
    if ds = [] then "" else "\n" ++ Nat.repr (warningCount ds) ++ " warning(s)\n"

end Diagnostics

end MockBuilders
