import MockBuilders.Schema.Basic

/-!
The canonical form of a schema, in which enumerations are lists of values, unions of primitive
types are type lists, and intersections of objects are single objects.
Main statement: `Schema.canonical_mk`, its equation for one layer.
-/
namespace MockBuilders

namespace ObjectShape

variable {σ : Type}

/-- The second shape wins for each property, which keeps its place, and for unlisted ones. -/
def merge (s t : ObjectShape σ) : ObjectShape σ :=
  ⟨Members.putAll s.properties t.properties, addAllNew s.required t.required,
    t.additional.or s.additional⟩

end ObjectShape

namespace Schema

/-- The constant of a record of an enumeration. -/
def constant? (record : Schema) : Option Json := record.extensions.get? "const"

/-- The types that a record adds to its enumeration: the declared ones, or that of its constant. -/
def constantTypes (record : Schema) : TypeTag :=
  match record.constant? with
  | none => []
  | some value =>
      if record.kind.types = [] then (Primitive.ofConstant? value).toList else record.kind.types

/-- Records without a constant are passed over. -/
def flatten (records : List Schema) (extensions : Members Json) : Schema :=
  mk (.enumeration (firstSeen (records.flatMap constantTypes)) (records.filterMap constant?))
    extensions

def isTypedLeaf (s : Schema) : Bool :=
  match s.kind with
  | .leaf l => l.types != []
  | _ => false

def takenLeaf (types : TypeTag) (extensions : Members Json) : Schema :=
  let (leaf, rest) := Leaf.take types extensions
  mk (.leaf leaf) rest

/-- Typed leaves make one leaf of all their types; any other branch keeps the branches apart. An
enumeration is no leaf, so that its values are not widened away. -/
def collapse (branches : List Schema) (extensions : Members Json) : Schema :=
  if branches.all isTypedLeaf then
    takenLeaf (firstSeen (branches.flatMap fun b => b.kind.types)) extensions
  else mk (.choice .anyOf branches) extensions

/-- The first branch that has a keyword wins it, and the node's own keywords win over all. -/
def mergedExtensions (branches : List Schema) (extensions : Members Json) : Members Json :=
  Members.putAll (branches.foldl (fun m b => m.orElse b.extensions) []) extensions

/-- Branches that are all objects make one object. -/
def merge (branches : List Schema) (extensions : Members Json) : Schema :=
  match branches.mapM object? with
  | some (shape :: shapes) =>
      mk (.object ((shape :: shapes).foldl .merge .empty)) (mergedExtensions branches extensions)
  | _ => mk (.allOf branches) extensions

/-- The items of an array whose item types are listed. -/
def itemsOf : List Schema → Kind Schema
  | [] => .anyArray
  | [item] => .arrayOf item
  | items => .arrayOf (collapse items [])

/-- Brings one layer whose children are canonical into canonical form. -/
def canonicalLayer (kind : Kind Schema) (extensions : Members Json) : Schema :=
  match kind with
  | .variants records => flatten records extensions
  | .union branches => collapse branches extensions
  | .mixedArray items => mk (itemsOf items) extensions
  | .allOf branches => merge branches extensions
  | kind => mk kind extensions

def canonical : Schema → Schema := fold canonicalLayer

theorem canonical_mk (kind : Kind Schema) (extensions : Members Json) :
    canonical (mk kind extensions) = canonicalLayer (kind.map canonical) extensions :=
  fold_mk canonicalLayer kind extensions

end Schema

end MockBuilders
