import MockBuilders.CommandLine.Arguments
import MockBuilders.Generation
import MockBuilders.Graph.Dot
import MockBuilders.Settings.Sources
import MockBuilders.Text.Visible

/-! What a command line does: the files that it writes, what it prints, and how it ends. -/
namespace MockBuilders

inductive CommandFailure where
  | settings (failure : SettingsFailure)
  | loading (failure : LoadFailure)
  | generation (failure : Failure)
  /-- A generation that succeeded without handing over a file. -/
  | noFile
  | unmade (folder : String) (error : FileError)
  | unwritten (path : String) (error : FileError)
  /-- An index that is there but cannot be read. -/
  | unread (path : String) (error : FileError)
  deriving DecidableEq, Repr

def CommandFailure.message : CommandFailure → String
  | settings failure => "Failed to load configuration: " ++ failure.message
  | loading failure => failure.message
  | generation failure => failure.message
  | noFile => "Generator produced no file"
  | unmade folder error => "Failed to create " ++ folder ++ ": " ++ error.message
  | unwritten path error => "Failed to write " ++ path ++ ": " ++ error.message
  | unread path error => "Failed to read " ++ path ++ ": " ++ error.message

/-- Files as they stand, and what has been printed. -/
structure Console where
  files : FileTree
  printed : String

/-- A step that may fail; what was written and printed before stays. -/
abbrev Step := ExceptT CommandFailure (StateM Console)

namespace Step

def print (text : String) : Step Unit := modify fun c => { c with printed := c.printed ++ text }

def ofExcept {ε α : Type} (cause : ε → CommandFailure) (x : Except ε α) : Step α :=
  match x with
  | .ok a => pure a
  | .error e => throw (cause e)

/-- Replaces the files by what a change makes of them. -/
def change (cause : FileError → CommandFailure) (f : FileTree → Except FileError FileTree) :
    Step Unit := do
  let changed ← ofExcept cause (f (← get).files)
  modify fun c => { c with files := changed }

def write (path text : String) : Step Unit :=
  change (.unwritten path) fun t => t.write path text

end Step

/-! The index of an output folder. -/
namespace Index

/-- Whether a line stands in a text, apart from blanks around it. -/
def hasLine (text line : String) : Bool :=
  (Text.split '\n' text.toList).any fun l => Text.trim l == Text.trim line.toList

/-- The text with a line put at its end. -/
def append (text line : String) : String :=
  if text.isEmpty || text.toList.getLast? == some '\n' then text ++ line else text ++ "\n" ++ line

/-- The text that an index gets; none if the line stands in it already. -/
def updated? (text line : String) : Option String :=
  if hasLine text line then none else some (append text line)

/-- The text of an index; an index that is not there is empty. -/
def textOf (t : FileTree) (path : String) : Except FileError String :=
  if t.contains path then t.readText path else .ok ""

def path (folder : String) : String := Path.join folder "index.ts"

/-- Has the index of a folder export the generated module. -/
def ensure (folder : String) (p : PluginSettings) : Step Unit := do
  let text ← Step.ofExcept (.unread (path folder)) (textOf (← get).files (path folder))
  match updated? text p.indexLine with
  | none => return
  | some updated =>
      Step.write (path folder) updated
      Step.print ("✅ Updated " ++ path folder ++ "\n")

end Index

namespace Command

def takeIn (s : Settings) (input : String) : Step Intake := do
  let loaded := Loading.path (← get).files s.input input
  let entries ← Step.ofExcept .loading loaded.result
  return Intake.empty.addAll entries

def summary (g : Generated) : String :=
  "\n📊 Summary:\n   Builders:  " ++ Nat.repr g.plan.builders.length ++
    "\n   Constants: " ++ Nat.repr g.plan.constants.length ++ "\n" ++
    if g.diagnostics = [] then "" else "\n⚠️  Diagnostics:\n" ++ g.diagnostics.report ++ "\n"

/-- Generates the module and writes it to a folder. -/
def runGenerate (s : Settings) (input folder : String) : Step Unit := do
  Step.print ("📂 Loading schemas from: " ++ Text.quotedVisible input ++ "\n")
  let intake ← takeIn s input
  Step.print ("   Found " ++ Nat.repr intake.names.length ++ " schemas\n\n")
  let (run, sink) := intake.generateInto s.plugin.name s.plugin.output s.options .empty
  let g ← Step.ofExcept .generation run.result
  let file ← Step.ofExcept (fun _ => .noFile) (sink.files.head?.elim (.error ()) .ok)
  let target := s.plugin.outputPath folder
  match Path.parent? target with
  | none => pure ()
  | some parent => Step.change (.unmade parent) fun t => t.makeFolders parent
  Step.write target file.content
  Step.print ("✅ Wrote " ++ target ++ " (" ++ file.generator ++ ")\n")
  if s.plugin.exportFromIndex then Index.ensure folder s.plugin
  Step.print (summary g)

/-- What is printed about a graph. -/
def graphReport (g : ReferenceGraph) : String :=
  "Graph loaded: " ++ Nat.repr g.nodes.length ++ " schemas, " ++ Nat.repr g.edges.length ++
    " edges\n" ++
    (if g.cycleDiagnostics = [] then "" else g.cycleDiagnostics.report ++ "\n") ++
    String.join (g.dangling.map fun p =>
      "⚠️  " ++ p.entry ++ ": reference not found for " ++ p.pointer ++ "\n") ++
    String.join (g.unfollowed.map fun p =>
      "⚠️  " ++ p.entry ++ ": reference under an unsupported keyword left in place: " ++
        p.pointer ++ "\n")

/-- Writes the reference graph as a DOT document. -/
def runGraph (s : Settings) (input output : String) : Step Unit := do
  let intake ← takeIn s input
  let schemas ← Step.ofExcept .generation intake.schemas
  let g := ReferenceGraph.ofEntries schemas
  Step.print (graphReport g)
  Step.write output g.dot
  Step.print ("✅ Exported DOT to: " ++ Text.quotedVisible output ++ "\n")

def run (s : Settings) : Command → Step Unit
  | generate input folder => runGenerate s input folder
  | graph input output => runGraph s input output

end Command

/-- How a command line ended. -/
inductive Ending where
  | done
  | failed (failure : CommandFailure)
  /-- A command line that cannot be read. -/
  | misused
  deriving DecidableEq, Repr

namespace Ending

def code : Ending → Nat
  | done => 0
  | failed _ => 1
  | misused => 2

/-- What goes to the error output. -/
def report : Ending → String
  | done => ""
  | failed failure => "❌ Error: " ++ failure.message ++ "\n"
  | misused =>
      "Usage: schema-builders [--config <CONFIG>] " ++
        "generate --input <INPUT> [--out-dir <OUT_DIR>]\n" ++
        "       schema-builders [--config <CONFIG>] graph --input <INPUT> [--output <OUTPUT>]\n"

end Ending

/-- What a command line came to. -/
structure Outcome where
  files : FileTree
  printed : String
  ending : Ending

namespace CommandLine

def runArguments (environment : List (String × String)) (a : Arguments) : Step Unit := do
  let sources : SettingsSources := ⟨(← get).files, environment, a.config⟩
  let settings ← Step.ofExcept .settings sources.settings
  a.command.run settings

/-- Runs a command line on the files that there are. -/
def run (files : FileTree) (environment : List (String × String)) (args : List String) : Outcome :=
  match Arguments.read? args with
  | none => ⟨files, "", .misused⟩
  | some a =>
      match (runArguments environment a).run.run ⟨files, ""⟩ with
      | (.ok (), c) => ⟨c.files, c.printed, .done⟩
      | (.error f, c) => ⟨c.files, c.printed, .failed f⟩

end CommandLine

end MockBuilders
