import MockBuilders.CommandLine.Run
import MockBuilders.Text.Utf8

/-!
The program. It looks at the files that a command line is about, runs the command line on what it
has seen, and writes what has changed.
-/
namespace MockBuilders.Program

/-- The path of a location on the disk. -/
def place (l : Location) : String := "/" ++ Path.ofSegments l

def contentsOf (bytes : ByteArray) : Contents :=
  match String.fromUTF8? bytes with
  | some s => .text s
  | none => .bytes bytes.toList

/-- Notes what is at a location of the disk, and in its folder if it is one. -/
def look (t : FileTree) (l : Location) : IO (FileTree × List Location) := do
  if (t.entry? l).isSome && !l.isEmpty && !t.folders.contains l then return (t, [])
  let found ← try some <$> IO.FS.realPath (place l) catch _ => pure none
  match found with
  | none => return (t, [])
  | some path =>
      if ← path.isDir then
        let names := (← path.readDir).toList.map fun e => l ++ [e.fileName]
        let folders := if t.folders.contains l || l.isEmpty then t.folders else t.folders ++ [l]
        return ({ t with folders }, names)
      let contents := contentsOf (← IO.FS.readBinFile path)
      return ({ t with files := t.files ++ [(l, contents)] }, [])

/-- Notes what is on the way that a path takes. -/
def lookAlong (t : FileTree) (path : String) : IO FileTree := do
  let start := if Path.isRooted path then [] else t.working
  let names := Path.segments path
  let mut seen := t
  for n in List.range names.length do
    seen := (← look seen (Path.follow start (names.take (n + 1)))).1
  return seen

/-- Notes all that is below a location. -/
partial def lookBelow (t : FileTree) (l : Location) : IO FileTree := do
  let (seen, inside) ← look t l
  let mut seen := seen
  for next in inside do
    seen ← lookBelow seen next
  return seen

/-- The variables of the environment. -/
def environment : IO (List (String × String)) := do
  let bytes ← IO.FS.readBinFile "/proc/self/environ"
  let texts := Text.split '\x00' (Text.ofBytes bytes.toList).toList
  return texts.filterMap fun cs =>
    match cs.dropWhile fun c => c != '=' with
    | [] => none
    | _ :: value => some (String.ofList (cs.takeWhile fun c => c != '='), String.ofList value)

/-- The paths that settings are read from. -/
def settingsPaths (environment : List (String × String)) (chosen : Option String) : List String :=
  let named := SettingsSources.standardFiles ++
    (SettingsSources.userFile? environment).toList ++ chosen.toList
  named ++ named.flatMap fun path => (SettingsSources.candidates path).map Prod.fst

/-- The paths that a command writes to. -/
def targets (s : Settings) : Command → List String
  | .generate _ folder => [s.plugin.outputPath folder, Index.path folder]
  | .graph _ output => [output]

def inputOf : Command → String
  | .generate input _ | .graph input _ => input

/-- Notes the files that a command line is about. -/
def survey (working : Location) (environment : List (String × String)) (a : Arguments) :
    IO FileTree := do
  let start ← lookAlong ⟨[], [], working⟩ (place working)
  let mut seen := start
  for path in settingsPaths environment a.config do
    seen ← lookAlong seen path
  let sources : SettingsSources := ⟨seen, environment, a.config⟩
  let settings := sources.settings.toOption.getD .standard
  for path in targets settings a.command do
    seen ← lookAlong seen path
  let input := inputOf a.command
  seen ← lookAlong seen input
  lookBelow seen (Path.resolve working input)

/-- Writes the folders and files that are not on the disk yet. -/
def writeBack (before after : FileTree) : IO Unit := do
  for folder in after.folders do
    if !before.folders.contains folder then IO.FS.createDirAll (place folder)
  for file in after.files do
    match file.2 with
    | .bytes _ => pure ()
    | .text s => if !before.files.contains file then IO.FS.writeFile (place file.1) s

end MockBuilders.Program

open MockBuilders in
def main (args : List String) : IO UInt32 := do
  let environment ← Program.environment
  let working := Path.resolve [] (← IO.currentDir).toString
  let files ←
    match Arguments.read? args with
    | none => pure ⟨[], [], working⟩
    | some a => Program.survey working environment a
  let outcome := CommandLine.run files environment args
  Program.writeBack files outcome.files
  IO.print outcome.printed
  IO.eprint outcome.ending.report
  return UInt32.ofNat outcome.ending.code
