import MockBuilders.Schema.Written

/-!
The outermost layer of a schema object: which kind of layer its keywords make, which parts of the
object are schemas of their own, and which members are kept beside the layer.
-/
namespace MockBuilders

/-- A part that is read as a schema; the step leads to it from the object. -/
structure Part where
  step : String
  value : Json

structure Outline where
  kind : Kind Part
  extensions : Members Json

namespace Outline

def namesType (type : Json) (keyword : String) : Bool :=
  match type with
  | .string name => name == keyword
  | .array names => names.any fun name => name.asString? == some keyword
  | _ => false

def hasType (m : Members Json) (keyword : String) : Bool :=
  ((m.get? "type").map (namesType · keyword)).getD false

def textAt (m : Members Json) (keyword : String) : Option String :=
  (m.get? keyword).bind Json.asString?

def listAt (m : Members Json) (keyword : String) : Option (List Json) :=
  (m.get? keyword).bind Json.asArray?

/-- The types of a `type` keyword that names primitive types only. -/
def typesAt (m : Members Json) : TypeTag := ((m.get? "type").bind TypeTag.ofJson?).getD []

/-- Takes the `type` keyword out if it is told by the layer. -/
def takeTypes (m : Members Json) : Members Json :=
  if typesAt m = [] then m else m.take "type"

def takeType (m : Members Json) (keyword : String) : Members Json :=
  if textAt m "type" = some keyword then m.take "type" else m

/-- A list of items that has no type beside it or an operator, and is not an array's. -/
def isRawUnion (m : Members Json) : Bool :=
  (listAt m "items").isSome && (!m.has "type" || (textAt m "logicalOperator").isSome) &&
    !hasType m "array" && textAt m "type" != some "tuple"

/-- The alternatives of an object, `anyOf` before `oneOf`. -/
def choice? (m : Members Json) : Option (ChoiceKeyword × List Json) :=
  match listAt m "anyOf" with
  | some branches => some (.anyOf, branches)
  | none => (listAt m "oneOf").map fun branches => (.oneOf, branches)

def parts (keyword : String) (items : List Json) : List Part :=
  items.mapIdx fun i value => ⟨"/" ++ keyword ++ "/" ++ Nat.repr i, value⟩

def additionalAt (m : Members Json) : Option Part :=
  match m.get? "additionalProperties" with
  | some (.object members) => some ⟨"/additionalProperties", .object members⟩
  | _ => none

def takeAdditional (m : Members Json) : Members Json :=
  if (additionalAt m).isSome then m.take "additionalProperties" else m

/-- Takes out what the shape of an object tells. -/
def takeShape (m : Members Json) : Members Json :=
  takeAdditional ((m.take "properties").take "required")

/-- The shape of an object; refuses properties that are no object, and gives them back. -/
def shape (m : Members Json) : Except Json (ObjectShape Part) :=
  let required := ((listAt m "required").getD []).filterMap Json.asString?
  match m.get? "properties" with
  | none => .ok ⟨[], required, additionalAt m⟩
  | some (.object properties) =>
      .ok ⟨properties.map fun p => (p.1, ⟨"/properties/" ++ p.1, p.2⟩), required, additionalAt m⟩
  | some found => .error found

/-- Whether a member belongs to the properties that stand beside a composition. -/
def isOwn (p : String × Json) : Bool :=
  p.1 == "type" || p.1 == "properties" || p.1 == "required" ||
    (p.1 == "additionalProperties" && p.2.isObject)

/-- Properties that stand beside a composition, as an object of their own. -/
def ownObject (m : Members Json) : List Part :=
  if m.has "properties" then [⟨"", .object (m.filter isOwn)⟩] else []

def takeOwnObject (m : Members Json) : Members Json :=
  if m.has "properties" then (takeShape m).take "type" else m

/-- Alternatives that stand beside a composition, as a schema of their own. -/
def ownChoice (m : Members Json) : List Part :=
  (choice? m).toList.map fun c => ⟨"", .object [(c.1.name, .array c.2)]⟩

def takeOwnChoice (m : Members Json) : Members Json :=
  match choice? m with
  | some (keyword, _) => m.take keyword.name
  | none => m

def ofVariants (m : Members Json) : Outline :=
  ⟨.variants (parts "items" ((listAt m "items").getD [])), (m.take "type").take "items"⟩

def ofEnumeration (m : Members Json) (values : List Json) : Outline :=
  ⟨.enumeration (typesAt m) values, (takeTypes m).take "enum"⟩

def ofArray (m : Members Json) : Outline :=
  let rest := ((takeType m "array").take "logicalOperator").take "items"
  match m.get? "items" with
  | none => ⟨.anyArray, rest⟩
  | some (.array items) =>
      if textAt m "type" = some "tuple" then ⟨.tuple (parts "items" items), rest⟩
      else ⟨.mixedArray (parts "items" items), rest⟩
  | some item => ⟨.arrayOf ⟨"/items", item⟩, rest⟩

def ofItemList (m : Members Json) (items : List Json) : Outline :=
  let rest := (m.take "items").take "logicalOperator"
  if textAt m "logicalOperator" = some "and" then ⟨.allOf (parts "items" items), rest⟩
  else ⟨.union (parts "items" items), rest⟩

/-- Own properties come before the listed branches, and own alternatives after them. -/
def ofAllOf (m : Members Json) (branches : List Json) : Outline :=
  ⟨.allOf (ownObject m ++ parts "allOf" branches ++ ownChoice m),
    takeOwnChoice (takeOwnObject (m.take "allOf"))⟩

/-- Properties beside alternatives make the intersection of both. -/
def ofOwn (m : Members Json) : Outline :=
  ⟨.allOf (ownObject m ++ ownChoice m), takeOwnChoice (takeOwnObject m)⟩

def ofChoice (m : Members Json) (keyword : ChoiceKeyword) (branches : List Json) : Outline :=
  ⟨.choice keyword (parts keyword.name branches), m.take keyword.name⟩

def ofLeaf (m : Members Json) : Outline :=
  let (leaf, rest) := Leaf.take (typesAt m) (takeTypes m)
  ⟨.leaf leaf, rest⟩

/-- The layer of an object; refuses properties that are no object, and gives them back. -/
def ofMembers (m : Members Json) : Except Json Outline :=
  match textAt m "$ref" with
  | some pointer => .ok ⟨.reference pointer, m.take "$ref"⟩
  | none =>
  if textAt m "type" = some "enum" then .ok (ofVariants m)
  else match listAt m "enum" with
  | some values => .ok (ofEnumeration m values)
  | none =>
  if hasType m "array" || (m.has "items" && !isRawUnion m) then .ok (ofArray m)
  else match listAt m "items" with
  | some items => .ok (ofItemList m items)
  | none =>
  match listAt m "allOf" with
  | some branches => .ok (ofAllOf m branches)
  | none =>
  match choice? m with
  | some (keyword, branches) =>
      .ok (if m.has "properties" then ofOwn m else ofChoice m keyword branches)
  | none =>
  if hasType m "object" || m.has "properties" then
    (shape m).map fun s => ⟨.object s, takeShape (takeType m "object")⟩
  else .ok (ofLeaf m)

end Outline

end MockBuilders
