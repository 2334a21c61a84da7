import MockBuilders.Ini
import MockBuilders.Json.Reader
import MockBuilders.Json5.Reader
import MockBuilders.Ron.Reader
import MockBuilders.Toml.Document
import MockBuilders.Yaml.Node.Reader

/-! The formats that settings files are written in, and what a text in each of them says. -/
namespace MockBuilders

namespace Datum

/-- The first name of a table that stands for a date or a time of day. -/
def momentKey : String := "$__toml_private_datetime"

/-- The value under the first name of a table, if the table stands for a date or a time of day. -/
def moment? : List (String × Toml) → Option Toml
  | (key, value) :: _ => if key = momentKey then some value else none
  | [] => none

/-- The date or time of day in a string. -/
def ofMoment? : Toml → Option Datum
  | .string value =>
      (Toml.Moment.text? .loose value.toList).map fun cs => string (String.ofList cs)
  | _ => none

mutual

def ofToml? : Toml → Option Datum
  | .string value | .moment value => some (string value)
  | .integer value => some (integer value)
  | .float value => some (float value)
  | .boolean value => some (boolean value)
  | .array items => (ofTomlItems? items).map array
  | .table members =>
      match moment? members with
      | some value => ofMoment? value
      | none => (ofTomlMembers? members).map table

def ofTomlItems? : List Toml → Option (List Datum)
  | [] => some []
  | item :: items =>
      match ofToml? item, ofTomlItems? items with
      | some d, some ds => some (d :: ds)
      | _, _ => none

def ofTomlMembers? : List (String × Toml) → Option (List (String × Datum))
  | [] => some []
  | (key, value) :: members =>
      match ofToml? value, ofTomlMembers? members with
      | some d, some ds => some ((key, d) :: ds)
      | _, _ => none

end

/-- A number that is not a signed word of 64 bits is a binary one. -/
def ofNumber (n : Number) : Datum :=
  match n with
  | .integer value =>
      if Numeral.isWord value then integer value else float (.finite n.toBinary)
  | .binary value => float (.finite value)

mutual

def ofJson : Json → Datum
  | .null => nothing
  | .bool value => boolean value
  | .number value => ofNumber value
  | .string value => string value
  | .array items => array (ofJsonItems items)
  | .object members => table (ofJsonMembers members)

def ofJsonItems : List Json → List Datum
  | [] => []
  | item :: items => ofJson item :: ofJsonItems items

def ofJsonMembers : List (String × Json) → List (String × Datum)
  | [] => []
  | (key, value) :: members => (key, ofJson value) :: ofJsonMembers members

end

end Datum

inductive SettingsFormat where
  | toml
  | json
  | yaml
  | ini
  | ron
  | json5
  deriving DecidableEq, Repr

namespace SettingsFormat

/-- The endings of file names, with their formats. -/
def endings : List (String × SettingsFormat) :=
  [("toml", toml), ("json", json), ("yaml", yaml), ("yml", yaml), ("ini", ini), ("ron", ron),
    ("json5", json5)]

/-- The format of a file with an ending. -/
def ofEnding? (ending : String) : Option SettingsFormat :=
  (endings.find? fun e => e.1 == ending).map Prod.snd

/-- What a text says; none if it does not keep to the format. -/
def read? (format : SettingsFormat) (text : String) : Option Datum :=
  match format with
  | toml => (Toml.read? text).bind fun members => Datum.ofToml? (.table members)
  | json => (Json.read? text).map .ofJson
  | yaml => Yaml.read? text
  | ini => Ini.read? text
  | ron => Ron.read? text
  | json5 => Json5.read? text

end SettingsFormat

end MockBuilders
