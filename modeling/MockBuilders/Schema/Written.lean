import MockBuilders.Schema.Basic

/-!
Schemas written as JSON: the keywords of each layer first, then its extensions, except those
whose name is already written.
-/
namespace MockBuilders

/-- The `type` of an object or an array: the one kept beside the layer, or the bare keyword. -/
def keptType (extensions : Members Json) (keyword : String) : Json :=
  (extensions.get? "type").getD (.string keyword)

namespace Kind

def typeMember (types : TypeTag) : Members Json :=
  if types = [] then [] else [("type", types.toJson)]

def optionalMember (name : String) (value : Option Json) : Members Json :=
  value.toList.map fun v => (name, v)

def requiredMember (required : List String) : Members Json :=
  if required = [] then [] else [("required", .array (required.map .string))]

/-- The keywords of a layer whose children are already written. -/
def written (extensions : Members Json) : Kind Json → Members Json
  | reference pointer => [("$ref", .string pointer)]
  | object shape =>
      [("type", keptType extensions "object"), ("properties", .object shape.properties)] ++
        requiredMember shape.required ++ optionalMember "additionalProperties" shape.additional
  | anyArray => [("type", keptType extensions "array")]
  | arrayOf item => [("type", keptType extensions "array"), ("items", item)]
  | mixedArray items | tuple items =>
      [("type", keptType extensions "array"), ("items", .array items)]
  | allOf branches => [("allOf", .array branches)]
  | choice keyword branches => [(keyword.name, .array branches)]
  | variants records => [("type", .string "enum"), ("items", .array records)]
  | union branches => [("items", .array branches), ("logicalOperator", .string "or")]
  | enumeration types values => typeMember types ++ [("enum", .array values)]
  | leaf l =>
      typeMember l.types ++ optionalMember "default" l.default ++
        optionalMember "examples" (l.examples.map .array)

end Kind

namespace Schema

def toJson : Schema → Json :=
  fold fun kind extensions => .object ((kind.written extensions).orElse extensions)

theorem toJson_mk (kind : Kind Schema) (extensions : Members Json) :
    toJson (mk kind extensions) =
      .object (((kind.map toJson).written extensions).orElse extensions) :=
  fold_mk _ kind extensions

end Schema

end MockBuilders
