import MockBuilders.Emission.Plan
import MockBuilders.Json.Text
import MockBuilders.Options
import MockBuilders.Schema.Written

/-!
The generated TypeScript module: imports, the options type, the table of shared schemas, and for
each builder its class and the function that creates it.
-/
namespace MockBuilders

namespace TypeScript

def line (depth : Nat) (text : String) : String :=
  String.ofList (List.replicate (2 * depth) ' ') ++ text ++ "\n"

def lines (depth : Nat) (texts : List String) : String := String.join (texts.map (line depth))

def blank : String := "\n"

/-- A block in braces after its head, with the given lines one step deeper. -/
def block (depth : Nat) (head : String) (body : List String) (close : String) : String :=
  line depth (head ++ "\x7b") ++ String.join body ++ line depth ("\x7d" ++ close)

def quoted (s : String) : String := String.ofList (Json.quoted s)

/-- The module that generates mocks when the builders run. -/
def mockModule : String := "hey-api-builders"

/-- The module of the type declarations. -/
def typesModule : String := "./types.gen"

/-- Names that the module declares or imports besides builders and the functions that create
them. -/
def reserved : List String := ["generateMock", "types", "BuilderOptions", "schemas"]

def imports : String :=
  line 0 ("import \x7b generateMock \x7d from " ++ quoted mockModule ++ ";") ++
    line 0 ("import type * as types from " ++ quoted typesModule ++ ";")

def optionsType : String :=
  block 0 "export type BuilderOptions = "
    (OptionName.all.map fun o => line 1 (o.key ++ "?: " ++ o.type ++ ";")) ";"

/-- Shared schemas by constant name. -/
def table (constants : List Constant) : Members Json :=
  .ofPairs (constants.map fun c => (c.name, c.schema.toJson))

def schemaTable (constants : List Constant) : String :=
  line 0 ("const schemas = " ++ (Json.object (table constants)).indentedText ++ ";")

def qualified (type : String) : String := "types." ++ type

def setOptions : String :=
  block 1 "setOptions(options: BuilderOptions): this "
    [line 2 "this.options = options;", line 2 "return this;"] ""

def setter (type property method : String) : String :=
  let key := "[" ++ quoted property ++ "]"
  block 1 (method ++ "(value: " ++ qualified type ++ key ++ "): this ")
    [line 2 ("this.overrides" ++ key ++ " = value;"), line 2 "return this;"] ""

/-- The call of the mock generator, after the text that its value goes to. -/
def mockCall (target : String) (b : Builder) : String :=
  block 2 (target ++ "generateMock(schemas[" ++ quoted b.constant ++ "], ")
    (OptionName.all.map fun o => line 3 (o.generatorKey ++ ": this.options." ++ o.key ++ ","))
    (") as " ++ qualified b.type ++ ";")

def build (b : Builder) : String :=
  block 1 ("build(): " ++ qualified b.type ++ " ")
    (if b.shape.isObject then
      [mockCall "const mock = " b, line 2 "return \x7b ...mock, ...this.overrides \x7d;"]
    else [mockCall "return " b]) ""

def builderClass (defaults : BuilderOptions) (b : Builder) : String :=
  block 0 ("export class " ++ b.className ++ " ")
    ((if b.shape.isObject then
      [line 1 ("private overrides: Partial<" ++ qualified b.type ++ "> = \x7b\x7d;")] else []) ++
      [line 1 ("private options: BuilderOptions = " ++ defaults.toJson.text ++ ";"), blank,
        setOptions, blank] ++
      b.setters.flatMap (fun s => [setter b.type s.1 s.2, blank]) ++ [build b]) ""

def factory (b : Builder) : String :=
  block 0 ("export function " ++ b.factoryName ++ "(): " ++ b.className ++ " ")
    [line 1 ("return new " ++ b.className ++ "();")] ""

/-- Every name that the module has at top level. -/
def topLevel (p : Plan) : List String :=
  reserved ++ p.builders.flatMap fun b => [b.className, b.factoryName]

/-- The whole module; every builder starts with the given options. -/
def moduleText (p : Plan) (defaults : BuilderOptions) : String :=
  imports ++ blank ++ optionsType ++ blank ++ schemaTable p.constants ++
    String.join (p.builders.map fun b => blank ++ builderClass defaults b ++ blank ++ factory b)

end TypeScript

end MockBuilders
