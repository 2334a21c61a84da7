import MockBuilders.Inlining

/-!
A resolver inlines one schema after the other over the same entries. It keeps the names of the
entries that are open, within a call and from one call to the next: a call that meets a cycle leaves
them as they stand, and the next call begins with names of its own.
-/
namespace MockBuilders

structure Resolver where
  entries : Members Schema
  /-- The one that is told of in reports and failures. -/
  owner : String
  /-- Entries that are being inlined, the latest last. -/
  opened : List String
  diagnostics : Diagnostics

/-- Something for a resolver to do. It may fail, keeping what it did until then, and it need not
come to an end. -/
abbrev Resolving := ExceptT Failure (StateT Resolver Option)

namespace Resolver

/-- How something ends and how it leaves the resolver, if it comes to an end. -/
def perform {α : Type} (r : Resolver) (m : Resolving α) : Option (Except Failure α × Resolver) :=
  m.run.run r

def start (entries : Members Schema) : Resolver := ⟨entries, "", [], []⟩

def report (r : Resolver) (d : Diagnostic) : Resolver :=
  { r with diagnostics := r.diagnostics ++ [d] }

/-- Opens an entry. -/
def enter (r : Resolver) (key : String) : Resolver := { r with opened := r.opened ++ [key] }

/-- Closes the entry that was opened last. -/
def leave (r : Resolver) : Resolver := { r with opened := r.opened.dropLast }

/-- Turns to a schema while the given entries are open, and reports what it does not follow. -/
def turnTo (r : Resolver) (owner : String) (opened : List String) (s : Schema) : Resolver :=
  { r with
    owner := owner
    opened := opened
    diagnostics := r.diagnostics ++ s.unfollowed.map (.unfollowed owner) }

/-- What is done with a schema. -/
abbrev Visitor := Schema → Resolving Schema

namespace Visitor

/-- Visits schemas one after the other. -/
abbrev each (visitor : Visitor) (ss : List Schema) : Resolving (List Schema) := ss.mapM visitor

/-- Visits an entry, which is open meanwhile. -/
abbrev inside (visitor : Visitor) (key : String) (target : Schema) : Resolving Schema := do
  modify (enter · key)
  let t ← visitor target
  modify leave
  return t

end Visitor

/-- Inlines a schema. What it refers to is opened, inlined and closed again in its place. -/
def visit : Visitor := fun s =>
  match s.kind.pointer? with
  | some pointer => do
      let r ← get
      match Pointer.lookup? r.entries pointer with
      | none =>
          modify (report · (.missing r.owner pointer))
          return s
      | some (key, target) =>
          if key ∈ r.opened then throw (.cyclic r.owner (cycleOf r.opened key))
          else visit.inside key target
  | none => do
      let children ← visit.each s.children
      return .mk (s.kind.withChildren children) s.extensions
partial_fixpoint

def call : InliningCall → Resolving Schema
  | .entry name s => do
      modify (turnTo · name [name] s)
      let t ← visit s
      modify fun r => { r with opened := [] }
      return t
  | .schema s => do
      modify (turnTo · Inlined.anonymous [] s)
      visit s

end Resolver

end MockBuilders
