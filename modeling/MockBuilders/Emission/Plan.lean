import MockBuilders.CanonicalEntry
import MockBuilders.Diagnostic

/-!
What a module is made of: one constant for each fingerprint, and one builder for each entry whose
type name is not taken. Entries are decided one after the other; constants, builders, diagnostics
and events are read off the decisions.
-/
namespace MockBuilders

/-- What becomes of a property of an object. -/
inductive PropertyPlan where
  | setter (property method : String)
  /-- The name has brackets. -/
  | bracketed (property : String)
  /-- The name has no letters or digits. -/
  | unnamed (property : String)
  /-- An earlier property of the object has the setter name. -/
  | taken (property method : String)
  deriving DecidableEq, Repr

namespace PropertyPlan

def property : PropertyPlan → String
  | setter p _ | bracketed p | unnamed p | taken p _ => p

def setter? : PropertyPlan → Option (String × String)
  | setter p m => some (p, m)
  | _ => none

/-- The code under which a property without a setter is reported. -/
def code? : PropertyPlan → Option DiagnosticCode
  | setter _ _ => none
  | bracketed _ => some .bracketedProperty
  | unnamed _ => some .emptyMethodName
  | taken _ _ => some .methodNameCollision

def diagnostics (entry : String) (p : PropertyPlan) : Diagnostics :=
  p.code?.toList.map fun code => .skipped entry code p.property

def events (entry : String) : PropertyPlan → List Event
  | setter _ _ => []
  | bracketed p =>
      [⟨.debug, "bracketed property, no setter", [("schema", entry), ("property", p)]⟩]
  | unnamed p =>
      [⟨.warn, "Property has no usable method name", [("schema", entry), ("property", p)]⟩]
  | taken p m =>
      [⟨.warn, "Duplicate override method",
        [("schema", entry), ("property", p), ("method", m)]⟩]

/-- Plans properties in order; each setter name goes to the first property that asks for it. -/
def all (used : List String) : List String → List PropertyPlan
  | [] => []
  | p :: ps =>
      if !Naming.isExpressible p then bracketed p :: all used ps
      else
        match Naming.methodName? p with
        | none => unnamed p :: all used ps
        | some m =>
            if m ∈ used then taken p m :: all used ps else setter p m :: all (used ++ [m]) ps

end PropertyPlan

/-- The class shape of a builder; only objects have setters. -/
inductive BuilderShape where
  | enumeration
  | object (properties : List PropertyPlan)
  | value
  deriving DecidableEq, Repr

namespace BuilderShape

def ofSchema (s : Schema) : BuilderShape :=
  match s.kind with
  | .enumeration _ _ => enumeration
  | .object shape => object (PropertyPlan.all [] (Members.keys shape.properties))
  | _ => value

def properties : BuilderShape → List PropertyPlan
  | object ps => ps
  | enumeration | value => []

def isObject : BuilderShape → Bool
  | object _ => true
  | _ => false

end BuilderShape

structure Builder where
  entry : String
  type : String
  /-- Name of the constant that the builder shares with all of its fingerprint. -/
  constant : String
  shape : BuilderShape
  deriving DecidableEq, Repr

namespace Builder

def className (b : Builder) : String := Naming.className b.type

def factoryName (b : Builder) : String := Naming.factoryName b.className

/-- Properties with setters, and the names of their setters. -/
def setters (b : Builder) : List (String × String) :=
  b.shape.properties.filterMap PropertyPlan.setter?

end Builder

structure Constant where
  name : String
  fingerprint : Fingerprint
  schema : Schema

/-- What becomes of an entry. -/
inductive Decision where
  /-- An earlier entry owns the type name. -/
  | skipped (entry type owner : String)
  | built (builder : Builder) (reused : Bool)
  deriving DecidableEq, Repr

namespace Decision

def builder? : Decision → Option Builder
  | skipped _ _ _ => none
  | built b _ => some b

def diagnostics : Decision → Diagnostics
  | skipped entry type owner =>
      [⟨entry, .typeNameCollision, "Type name " ++ type ++ " is already used by " ++ owner,
        ["Kept: " ++ owner]⟩]
  | built b _ => b.shape.properties.flatMap fun p => p.diagnostics b.entry

def events : Decision → List Event
  | skipped entry type owner =>
      [⟨.warn, "Type name already taken, entry skipped",
        [("schema", entry), ("type_name", type), ("first", owner)]⟩]
  | built b reused =>
      (if reused then
        [⟨.debug, "reusing schema constant", [("schema", b.entry), ("constant", b.constant)]⟩]
      else []) ++ b.shape.properties.flatMap fun p => p.events b.entry

end Decision

structure Plan where
  /-- The first entry of each type name. -/
  owners : Members String
  /-- Constants in the order in which their fingerprints were first seen. -/
  constants : List Constant
  /-- One decision for each entry, in order. -/
  decisions : List Decision

namespace Plan

def empty : Plan := ⟨[], [], []⟩

/-- The constant of a fingerprint. -/
def constant? (p : Plan) (f : Fingerprint) : Option Constant :=
  p.constants.find? fun c => c.fingerprint = f

/-- Decides one more entry. -/
def add (p : Plan) (e : CanonicalEntry) : Plan :=
  match p.owners.get? e.typeName with
  | some owner => { p with decisions := p.decisions ++ [.skipped e.name e.typeName owner] }
  | none =>
      let owners := p.owners ++ [(e.typeName, e.name)]
      let build (constant : String) : Builder :=
        ⟨e.name, e.typeName, constant, .ofSchema e.schema⟩
      match p.constant? e.fingerprint with
      | some c => ⟨owners, p.constants, p.decisions ++ [.built (build c.name) true]⟩
      | none =>
          let name := Naming.constantName e.typeName
          ⟨owners, p.constants ++ [⟨name, e.fingerprint, e.schema⟩],
            p.decisions ++ [.built (build name) false]⟩

def ofEntries (entries : List CanonicalEntry) : Plan := entries.foldl add empty

def builders (p : Plan) : List Builder := p.decisions.filterMap Decision.builder?

def diagnostics (p : Plan) : Diagnostics := p.decisions.flatMap Decision.diagnostics

def events (p : Plan) : List Event := p.decisions.flatMap Decision.events

end Plan

end MockBuilders
