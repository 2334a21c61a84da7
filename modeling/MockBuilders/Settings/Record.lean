import MockBuilders.Members

/-! Groups of fields, given by their names or in their order. -/
namespace MockBuilders

inductive Record (α : Type) where
  | named (members : Members α)
  | ordered (items : List α)

namespace Record

/-- The value of the field at a place in the order, which has some names, with the label that it
was found under; none if the field is given twice. -/
def field? {α : Type} (r : Record α) (place : Nat) (names : List String) :
    Option (Option (String × α)) :=
  match r with
  | named members =>
      match members.filter fun p => names.contains p.1 with
      | [] => some none
      | [p] => some (some p)
      | _ => none
  | ordered items => some (items[place]?.map fun v => ("[" ++ Nat.repr place ++ "]", v))

/-- A label below a key. -/
def below (key label : String) : String :=
  if key.isEmpty || label.toList.head? = some '[' then key ++ label else key ++ "." ++ label

end Record

end MockBuilders
