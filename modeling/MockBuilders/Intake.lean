import MockBuilders.Event
import MockBuilders.Failure
import MockBuilders.Schema.Reading

/-! Intake: raw entries on their way in, before anything is read as a schema. -/
namespace MockBuilders

/-- Entries taken in so far. Only objects are taken in; a repeated name replaces in place. -/
structure Intake where
  /-- Members of each entry's object. -/
  entries : Members (Members Json)

namespace Json

/-- What a value is called in events. -/
def kindName : Json → String
  | null => "null"
  | bool _ => "boolean"
  | number _ => "number"
  | string _ => "string"
  | array _ => "array"
  | object _ => "object"

end Json

namespace Intake

def empty : Intake := ⟨[]⟩

def names (i : Intake) : List String := i.entries.keys

/-- Takes in an entry, if its payload is an object. -/
def add (i : Intake) (name : String) (payload : Option Json) : Intake :=
  match payload with
  | some (.object members) => ⟨i.entries.put name members⟩
  | _ => i

/-- What is noted when an entry is offered. -/
def events (name : String) : Option Json → List Event
  | some (.object _) => []
  | some payload =>
      [⟨.debug, "ignoring non-object schema", [("schema", name), ("kind", payload.kindName)]⟩]
  | none => [⟨.debug, "ignoring empty schema", [("schema", name)]⟩]

def addAll (i : Intake) (entries : List (String × Json)) : Intake :=
  entries.foldl (fun i e => i.add e.1 (some e.2)) i

def allEvents (entries : List (String × Json)) : List Event :=
  entries.flatMap fun e => events e.1 (some e.2)

/-- Reads an entry's payload as a schema. -/
def readEntry (name : String) (payload : Json) : Except Failure Schema :=
  (Schema.ofJson payload).mapError fun m => .malformed name m.reason

def readAll : Members (Members Json) → Except Failure (Members Schema)
  | [] => .ok []
  | (name, members) :: rest => do
      let s ← readEntry name (.object members)
      return (name, s) :: (← readAll rest)

/-- Reads all entries as schemas; the first that is none is refused. -/
def schemas (i : Intake) : Except Failure (Members Schema) := readAll i.entries

theorem readAll_keys {entries : Members (Members Json)} {schemas : Members Schema}
    (h : readAll entries = .ok schemas) : schemas.keys = entries.keys := by
  induction entries generalizing schemas with
  | nil => obtain rfl := Except.ok.inj h; rfl
  | cons e rest ih =>
    obtain ⟨name, members⟩ := e
    rw [readAll] at h
    cases hs : readEntry name (.object members) with
    | error f => simp [hs, bind, Except.bind] at h
    | ok s =>
      cases hr : readAll rest with
      | error f => simp [hs, hr, bind, Except.bind] at h
      | ok ss =>
        simp only [hs, hr, bind, Except.bind, pure, Except.pure, Except.ok.injEq] at h
        simp [← h, ih hr]

end Intake

end MockBuilders
