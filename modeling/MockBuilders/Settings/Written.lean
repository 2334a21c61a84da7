import MockBuilders.Settings.Basic
import MockBuilders.Toml.Written

/-! Settings as a TOML document: one table for the module, one for what is loaded, and one for the
options that are set. -/
namespace MockBuilders

namespace Probability

def toToml : Probability → Toml
  | ratio value => .float value
  | flag value => .boolean value

end Probability

namespace PluginSettings

def toToml (p : PluginSettings) : Members Toml :=
  [("name", .string p.name), ("output", .string p.output),
    ("export_from_index", .boolean p.exportFromIndex)]

end PluginSettings

namespace PathFilter

def toToml (f : PathFilter) : Members Toml :=
  [("skip_prefixes", .array (f.skipped.map .string)),
    ("include_prefixes", .array (f.included.map .string))]

end PathFilter

namespace BuilderOptions

def toml? (o : BuilderOptions) : OptionName → Option Toml
  | .useDefault => o.useDefault.map .boolean
  | .useExamples => o.useExamples.map .boolean
  | .alwaysIncludeOptionals => o.alwaysIncludeOptionals.map .boolean
  | .optionalsProbability => o.optionalsProbability.map Probability.toToml
  | .omitNulls => o.omitNulls.map .boolean

/-- The options that are set, by their names on a builder. -/
def toToml (o : BuilderOptions) : Members Toml :=
  OptionName.all.filterMap fun name => (o.toml? name).map fun value => (name.key, value)

end BuilderOptions

namespace Settings

def tomlChars (s : Settings) : List Char :=
  Toml.headed "plugin" s.plugin.toToml ++ '\n' :: Toml.headed "input" s.input.toToml ++
    '\n' :: Toml.headed "options" s.options.toToml

def tomlText (s : Settings) : String := String.ofList s.tomlChars

/-- Saves settings to a file. -/
def save (s : Settings) (t : FileTree) (path : String) : Except FileError FileTree :=
  t.write path s.tomlText

end Settings

end MockBuilders
