import MockBuilders.Loading
import MockBuilders.Options
import MockBuilders.Text.Blank

/-! Settings of the generator: the module that is generated, what is loaded, and the options that
builders start with. -/
namespace MockBuilders

structure PluginSettings where
  /-- Under which the generated file is handed on. -/
  name : String
  /-- Path of the generated module without its ending. -/
  output : String
  /-- Whether the index of the output folder exports the generated module. -/
  exportFromIndex : Bool
  deriving DecidableEq, Repr

namespace PluginSettings

def standard : PluginSettings := ⟨"hey-api-builders", "builders", true⟩

def fileName (p : PluginSettings) : String := p.output ++ ".gen.ts"

/-- How the index names the generated module. -/
def moduleName (p : PluginSettings) : String := "./" ++ p.output ++ ".gen"

/-- The line of the index that exports the generated module. -/
def indexLine (p : PluginSettings) : String := "export * from \"" ++ p.moduleName ++ "\";\n"

/-- Path of the generated module in an output folder. -/
def outputPath (p : PluginSettings) (folder : String) : String := Path.join folder p.fileName

end PluginSettings

structure Settings where
  plugin : PluginSettings
  input : PathFilter
  options : BuilderOptions
  deriving DecidableEq, Repr

namespace Settings

def standard : Settings := ⟨.standard, .standard, .unset⟩

/-- What is wrong with the settings, if anything. -/
def fault? (s : Settings) : Option String :=
  if (Text.trim s.plugin.output.toList).isEmpty then some "plugin.output must not be empty"
  else s.options.fault?

end Settings

end MockBuilders
