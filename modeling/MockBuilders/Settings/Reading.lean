import MockBuilders.Settings.Basic
import MockBuilders.Settings.Record

/-!
Reading settings from values of any kind. Fields that are not known are passed over, fields that
are not given keep their standard values.
-/
namespace MockBuilders

/-- How values of one kind are read; the key says where a value was found. -/
structure ValueReader (ν ε : Type) where
  /-- Fields of a group, given what such a group is called and how many fields it has. -/
  record (group : String) (count : Nat) (v : ν) : Except ε (Record ν)
  /-- What is wrong with a field that is given twice. -/
  repeated (field : String) : ε
  isNull (v : ν) : Bool
  string (key : String) (v : ν) : Except ε String
  boolean (key : String) (v : ν) : Except ε Bool
  strings (key : String) (v : ν) : Except ε (List String)
  probability (key : String) (v : ν) : Except ε Probability

namespace ValueReader

variable {ν ε α : Type} (reader : ValueReader ν ε)

def field (r : Record ν) (key : String) (place : Nat) (names : List String)
    (read : String → ν → Except ε α) (standard : α) : Except ε α :=
  match r.field? place names with
  | none => .error (reader.repeated (names.headD ""))
  | some none => .ok standard
  | some (some (label, v)) => read (Record.below key label) v

/-- A value that may be null. -/
def optional (read : String → ν → Except ε α) (key : String) (v : ν) : Except ε (Option α) :=
  if reader.isNull v then .ok none else (read key v).map some

def plugin (key : String) (v : ν) : Except ε PluginSettings := do
  let r ← reader.record "PluginConfig" 3 v
  let name ← reader.field r key 0 ["name"] reader.string PluginSettings.standard.name
  let output ← reader.field r key 1 ["output"] reader.string PluginSettings.standard.output
  let exported ← reader.field r key 2 ["export_from_index"] reader.boolean
    PluginSettings.standard.exportFromIndex
  return ⟨name, output, exported⟩

def input (key : String) (v : ν) : Except ε PathFilter := do
  let r ← reader.record "InputConfig" 2 v
  let skipped ← reader.field r key 0 ["skip_prefixes"] reader.strings PathFilter.standard.skipped
  let included ← reader.field r key 1 ["include_prefixes"] reader.strings
    PathFilter.standard.included
  return ⟨skipped, included⟩

/-- An option, under either of its names. -/
def option (r : Record ν) (key : String) (place : Nat) (name : OptionName)
    (read : String → ν → Except ε α) : Except ε (Option α) :=
  reader.field r key place [name.key, name.lowerKey] (reader.optional read) none

def options (key : String) (v : ν) : Except ε BuilderOptions := do
  let r ← reader.record "BuilderOptions" 5 v
  let useDefault ← reader.option r key 0 .useDefault reader.boolean
  let useExamples ← reader.option r key 1 .useExamples reader.boolean
  let alwaysIncludeOptionals ← reader.option r key 2 .alwaysIncludeOptionals reader.boolean
  let probability ← reader.option r key 3 .optionalsProbability reader.probability
  let omitNulls ← reader.option r key 4 .omitNulls reader.boolean
  return ⟨useDefault, useExamples, alwaysIncludeOptionals, probability, omitNulls⟩

def settings (v : ν) : Except ε Settings := do
  let r ← reader.record "BuildersConfig" 3 v
  let plugin ← reader.field r "" 0 ["plugin"] reader.plugin .standard
  let input ← reader.field r "" 1 ["input"] reader.input .standard
  let options ← reader.field r "" 2 ["options"] reader.options .unset
  return ⟨plugin, input, options⟩

end ValueReader

end MockBuilders
