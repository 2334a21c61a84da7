import MockBuilders.Files.Tree

/-! Why no settings can be made of their sources. -/
namespace MockBuilders

inductive SettingsFailure where
  /-- A file that is not there. -/
  | missing (path : String)
  /-- A file whose ending says nothing about its format. -/
  | unknownFormat (path : String)
  | unreadable (error : FileError)
  /-- A file that does not keep to its format. -/
  | malformed (path : String)
  /-- A value that cannot be turned into what is asked for. -/
  | inconvertible (found expected key : String) (source : Option String)
  /-- Settings that are refused. -/
  | refused (reason : String)
  deriving DecidableEq, Repr

namespace SettingsFailure

def message : SettingsFailure → String
  | missing path => "configuration file \"" ++ path ++ "\" not found"
  | unknownFormat path =>
      "configuration file \"" ++ path ++ "\" is not of a registered file format"
  | unreadable error => error.message
  | malformed path => "syntax error in " ++ path
  | inconvertible found expected key source =>
      "invalid type: " ++ found ++ ", expected " ++ expected ++ " for key `" ++ key ++ "`" ++
        (match source with
        | some s => " in " ++ s
        | none => "")
  | refused reason => reason

end SettingsFailure

end MockBuilders
