import MockBuilders.Json.Numeral
import MockBuilders.Settings.Stored

/-!
Names at the top of a source that are paths: names with points between them, and indexes in
brackets. A name that is no path stands for itself. Case does not count in a path.
-/
namespace MockBuilders

inductive KeyStep where
  | name (name : String)
  /-- An index, which counts from the end if it is negative. -/
  | index (index : Int)
  deriving DecidableEq, Repr

structure KeyPath where
  first : String
  steps : List KeyStep
  deriving DecidableEq, Repr

namespace KeyPath

def isNameChar (c : Char) : Bool := c.isAlphanum || c == '_' || c == '-' || c == ' '

def isNotClosing (c : Char) : Bool := c != ']'

def isGap (c : Char) : Bool := c == ' ' || c == '\t'

/-- An index of 64 bits, with blanks around it. -/
def index? (cs : List Char) : Option Int :=
  match Numeral.minus (cs.dropWhile isGap) with
  | (negative, cs) =>
      match Numeral.digits? cs with
      | some (digits, rest) =>
          if rest.all isGap then
            (some (if negative then -(digitsValue digits : Int) else digitsValue digits)).filter
              Numeral.isWord
          else none
      | none => none

/-- A name on a path, which holds ASCII only, in lower case. -/
def lowered (cs : List Char) : String := String.ofList (cs.map Char.toLower)

/-- The steps after the first name. -/
def steps? (cs : List Char) : Option (List KeyStep) :=
  match cs with
  | [] => some []
  | '.' :: cs =>
      if cs.takeWhile isNameChar = [] then none
      else
        (steps? (cs.dropWhile isNameChar)).map (.name (lowered (cs.takeWhile isNameChar)) :: ·)
  | '[' :: cs =>
      match _h : cs.dropWhile isNotClosing with
      | [] => none
      | _ :: rest =>
          match index? (cs.takeWhile isNotClosing), steps? rest with
          | some i, some steps => some (.index i :: steps)
          | _, _ => none
  | _ => none
termination_by cs.length
decreasing_by
  · exact Nat.lt_succ_of_le (List.dropWhile_suffix _).length_le
  · have := (List.dropWhile_suffix isNotClosing (l := cs)).length_le
    rw [‹cs.dropWhile isNotClosing = _›] at this
    simp only [List.length_cons] at this ⊢
    omega

/-- The path that a name is. -/
def read? (key : String) : Option KeyPath :=
  let cs := key.toList
  if cs.takeWhile isNameChar = [] then none
  else
    (steps? (cs.dropWhile isNameChar)).map fun steps => ⟨lowered (cs.takeWhile isNameChar), steps⟩

end KeyPath

namespace Stored

/-- The place in a list that an index means. -/
def placeOf (items : List Stored) (index : Int) : Nat :=
  if index < 0 then items.length - index.natAbs else index.natAbs

/-- Puts a value at a place, with nothing at places that are not there yet. -/
def putAt (items : List Stored) (place : Nat) (value : Stored) : List Stored :=
  if place < items.length then items.set place value
  else items ++ List.replicate (place - items.length) nothing ++ [value]

/-- Lays a value over what is at the end of a path. What stands in the way becomes a table or an
array. -/
def layBelow (root : Stored) : List KeyStep → Stored → Stored
  | [], value => value
  | [.name key], value => table root.asTable.1 (lay root.asTable.2 key value)
  | .name key :: next :: steps, value =>
      table root.asTable.1
        (Members.put root.asTable.2 key
          (layBelow (at? root.asTable.2 key) (next :: steps) value))
  | .index index :: steps, value =>
      let place := placeOf root.asArray.2 index
      array root.asArray.1
        (putAt root.asArray.2 place (layBelow (root.asArray.2.getD place nothing) steps value))

/-- Lays a member of a source over the values of other sources. -/
def layMember (root : Members Stored) (key : String) (value : Stored) : Members Stored :=
  match KeyPath.read? key with
  | none | some ⟨_, []⟩ => lay root key value
  | some ⟨first, step :: steps⟩ =>
      root.put first (layBelow (at? root first) (step :: steps) value)

/-- Lays a whole source over those before it. -/
def layOver (root : Members Stored) (source : Members Stored) : Members Stored :=
  source.foldl (fun root p => layMember root p.1 p.2) root

end Stored

end MockBuilders
