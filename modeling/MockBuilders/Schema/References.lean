import MockBuilders.Schema.Basic

/-!
The references of a schema: those in positions where they are followed, and those under keywords
that carry no structure here, which stay where they are.
-/
namespace MockBuilders

/-- Keywords whose values are instance data, in which `$ref` is an ordinary name. -/
def dataKeywords : List String := ["const", "default", "enum", "example", "examples"]

def isData (keyword : String) : Bool := dataKeywords.contains keyword

/-- A pointer, and the keyword of the layer under which it was found. -/
structure Unfollowed where
  keyword : String
  pointer : String
  deriving DecidableEq, Repr

namespace Json

def ownPointer (members : Members Json) : List String :=
  ((members.get? "$ref").bind asString?).toList

mutual

/-- String-valued `$ref`s at any depth outside data, each object before its members. -/
def pointers : Json → List String
  | array items => pointersItems items
  | object members => ownPointer members ++ pointersMembers members
  | _ => []

def pointersItems : List Json → List String
  | [] => []
  | item :: items => item.pointers ++ pointersItems items

def pointersMembers : List (String × Json) → List String
  | [] => []
  | (key, value) :: members =>
      (if isData key then [] else value.pointers) ++ pointersMembers members

end

end Json

namespace Schema

/-- Pointers in positions that are followed, in document order. -/
def references : Schema → List String :=
  fold fun kind _ => kind.pointer?.toList ++ kind.children.flatten

/-- Pointers under the extensions of one layer. -/
def unfollowedIn (extensions : Members Json) : List Unfollowed :=
  extensions.flatMap fun p => if isData p.1 then [] else p.2.pointers.map (⟨p.1, ·⟩)

/-- Pointers that are not followed, in document order. -/
def unfollowed : Schema → List Unfollowed :=
  fold fun kind extensions => unfollowedIn extensions ++ kind.children.flatten

theorem references_mk (kind : Kind Schema) (extensions : Members Json) :
    references (mk kind extensions) =
      kind.pointer?.toList ++ kind.children.flatMap references := by
  rw [references, fold_mk, Kind.children_map, Kind.pointer?_map]
  rfl

theorem unfollowed_mk (kind : Kind Schema) (extensions : Members Json) :
    unfollowed (mk kind extensions) =
      unfollowedIn extensions ++ kind.children.flatMap unfollowed := by
  rw [unfollowed, fold_mk, Kind.children_map]
  rfl

end Schema

end MockBuilders
