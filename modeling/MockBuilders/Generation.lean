import MockBuilders.Emission.TypeScript
import MockBuilders.Graph.Cycles
import MockBuilders.Inlining
import MockBuilders.Intake

/-!
Generation: from the entries taken in to one module. Entries are read, refused if they lead in
circles, inlined, brought into canonical form and planned; then the module is written.
-/
namespace MockBuilders

/-- A module to be written, under the name of what generated it. -/
structure GeneratedFile where
  generator : String
  path : String
  content : String
  deriving DecidableEq, Repr

/-- The files that a host has been handed, in the order of their making. -/
structure Sink where
  files : List GeneratedFile

namespace Sink

def empty : Sink := ⟨[]⟩

/-- Makes a file without content. -/
def create (s : Sink) (generator path : String) : Sink := ⟨s.files ++ [⟨generator, path, ""⟩]⟩

/-- Adds text to the file that was made last. -/
def append (s : Sink) (text : String) : Sink :=
  ⟨s.files.dropLast ++
    (s.files.getLast?.toList.map fun f => { f with content := f.content ++ text })⟩

theorem append_create (s : Sink) (generator path text : String) :
    (s.create generator path).append text = ⟨s.files ++ [⟨generator, path, text⟩]⟩ := by
  simp [create, append]

end Sink

/-- What a generation came to. -/
structure Generated where
  file : GeneratedFile
  schemaCount : Nat
  plan : Plan
  diagnostics : Diagnostics

/-- The events of a run and what came of it. -/
structure Run (α : Type) where
  events : List Event
  result : Except Failure α

namespace Generation

/-- Inlines entries one after the other and brings each into canonical form. -/
def canonicalEntries :
    Members Schema → InliningSession → Except Failure (List CanonicalEntry) × InliningSession
  | [], session => (.ok [], session)
  | (name, s) :: rest, session =>
      match session.call (.entry name s) with
      | (.error f, session) => (.error f, session)
      | (.ok s, session) =>
          let e := CanonicalEntry.ofSchema name s
          let noted := { session with events := session.events ++ [e.event] }
          match canonicalEntries rest noted with
          | (.error f, session) => (.error f, session)
          | (.ok es, session) => (.ok (e :: es), session)

/-- What is noted at the end of a generation. -/
def closing (path : String) (schemaCount : Nat) (plan : Plan) (ds : Diagnostics) : List Event :=
  (if 0 < ds.warningCount then
    [⟨.warn, "generation finished with warnings", [("count", Nat.repr ds.warningCount)]⟩]
  else []) ++
  [⟨.info, "generated builders",
    [("schemas", Nat.repr schemaCount), ("builders", Nat.repr plan.builders.length),
      ("constants", Nat.repr plan.constants.length), ("path", path)]⟩]

/-- Generates the module of schemas that lead in no circle. -/
def ofSchemas (generator path : String) (defaults : BuilderOptions) (schemas : Members Schema) :
    Run Generated :=
  match canonicalEntries schemas (.start schemas) with
  | (.error f, session) => ⟨session.events, .error f⟩
  | (.ok entries, session) =>
      let plan := Plan.ofEntries entries
      let diagnostics := session.diagnostics ++ plan.diagnostics
      let file : GeneratedFile := ⟨generator, path, TypeScript.moduleText plan defaults⟩
      ⟨session.events ++ plan.events ++ closing path schemas.length plan diagnostics,
        .ok ⟨file, schemas.length, plan, diagnostics⟩⟩

end Generation

/-- Generates the module of all entries taken in. -/
def Intake.generate (i : Intake) (generator path : String) (defaults : BuilderOptions) :
    Run Generated :=
  match i.schemas with
  | .error f => ⟨[], .error f⟩
  | .ok schemas =>
      match (ReferenceGraph.ofEntries schemas).checkAcyclic with
      | .error f => ⟨[], .error f⟩
      | .ok () => Generation.ofSchemas generator path defaults schemas

/-- Generates the module and hands it to a host; if it is refused, the host is handed nothing. -/
def Intake.generateInto (i : Intake) (generator path : String) (defaults : BuilderOptions)
    (sink : Sink) : Run Generated × Sink :=
  let run := i.generate generator path defaults
  match run.result with
  | .error _ => (run, sink)
  | .ok g => (run, (sink.create generator path).append g.file.content)

end MockBuilders
