import MockBuilders.Settings.Conversion
import MockBuilders.Settings.Environment
import MockBuilders.Settings.Format

/-!
The sources of settings: files at standard places, a file of the user, a file that is asked for,
and the environment, each laid over those before it.
-/
namespace MockBuilders

/-- Where settings come from. -/
structure SettingsSources where
  files : FileTree
  /-- Variables of the environment and their values. -/
  environment : List (String × String)
  /-- The settings file that is asked for. -/
  chosen : Option String

namespace SettingsSources

/-- Places in the working folder. -/
def standardFiles : List String := ["builders.toml", ".builders.toml", "config/builders.toml"]

/-- The folder that the settings of a user lie in. -/
def userFolder? (environment : Members String) : Option String :=
  match (environment.get? "XDG_CONFIG_HOME").filter Path.isRooted with
  | some folder => some folder
  | none =>
      ((environment.get? "HOME").filter fun home => home != "").map fun home =>
        Path.join home ".config"

/-- The settings file of the user. -/
def userFile? (environment : Members String) : Option String :=
  (userFolder? environment).map fun folder => Path.join folder "builders/builders.toml"

/-- Paths that may be meant by one without its ending. -/
def candidates (path : String) : List (String × SettingsFormat) :=
  match Path.fileName? path with
  | none => []
  | some _ =>
      SettingsFormat.endings.map fun e => ((Path.ancestry path).headD "" ++ "." ++ e.1, e.2)

/-- The file that a path names: that very file, or else the first one with an ending put to it. -/
def resolve (t : FileTree) (path : String) : Except SettingsFailure (String × SettingsFormat) :=
  if t.isFile path then
    match (Path.extension? path).bind SettingsFormat.ofEnding? with
    | some format => .ok (path, format)
    | none => .error (.unknownFormat path)
  else
    match (candidates path).find? fun c => t.isFile c.1 with
    | some found => .ok found
    | none => .error (.missing path)

/-- The text that a path names, with its format and with the name of the file as a source. -/
def textOf (t : FileTree) (path : String) :
    Except SettingsFailure (String × SettingsFormat × String) := do
  let (found, format) ← resolve t path
  let text ← (t.readText found).mapError .unreadable
  return (text, format, Path.relativeTo t.working found)

/-- Lays a file over the values of other sources. A file that need not be there may be missing or
unreadable, but it may not break the rules of its format, and it has to hold a table. -/
def layFile (t : FileTree) (needed : Bool) (root : Members Stored) (path : String) :
    Except SettingsFailure (Members Stored) :=
  match textOf t path with
  | .error f => if needed then .error f else .ok root
  | .ok (text, format, source) =>
      match (format.read? text).bind Datum.table? with
      | some members => .ok (Stored.layOver root (Stored.ofMembers source members))
      | none => .error (.malformed source)

/-- The files that need not be there: those at standard places, and that of the user if something
is there under its full name. -/
def offered (s : SettingsSources) : List String :=
  standardFiles ++ (userFile? s.environment).toList.filter s.files.contains

/-- The values of all sources. -/
def values (s : SettingsSources) : Except SettingsFailure (Members Stored) := do
  let offered ← s.offered.foldlM (layFile s.files false) []
  let chosen ← s.chosen.toList.foldlM (layFile s.files true) offered
  return Stored.layOver chosen (Environment.stored s.environment)

/-- The settings that the sources come to. -/
def settings (s : SettingsSources) : Except SettingsFailure Settings := do
  let values ← s.values
  let settings ← Stored.reader.settings (.table none values)
  match settings.fault? with
  | some reason => .error (.refused reason)
  | none => return settings

end SettingsSources

end MockBuilders
