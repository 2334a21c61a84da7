import MockBuilders.Event
import MockBuilders.Fingerprint
import MockBuilders.Naming
import MockBuilders.Schema.Canonical

/-! Entries in canonical form, ready for emission. -/
namespace MockBuilders

structure CanonicalEntry where
  name : String
  schema : Schema

namespace CanonicalEntry

def ofSchema (name : String) (s : Schema) : CanonicalEntry := ⟨name, s.canonical⟩

def typeName (e : CanonicalEntry) : String := Naming.typeName e.name

def fingerprint (e : CanonicalEntry) : Fingerprint := .ofSchema e.schema

def isEnumeration (e : CanonicalEntry) : Bool :=
  match e.schema.kind with
  | .enumeration _ _ => true
  | _ => false

def event (e : CanonicalEntry) : Event :=
  ⟨.debug, "canonicalized", [("schema", e.name), ("fingerprint", e.fingerprint.short)]⟩

end CanonicalEntry

end MockBuilders
