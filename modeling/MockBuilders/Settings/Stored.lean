import MockBuilders.Datum
import MockBuilders.Text.Case

/-!
Stored values: what several sources of settings come to when one is laid over the other. Names are
in lower case. A value keeps the name of its source; tables and arrays that are only made to hold
others have none.
-/
namespace MockBuilders

inductive Stored where
  | scalar (source : Option String) (value : Scalar)
  | array (source : Option String) (items : List Stored)
  | table (source : Option String) (members : List (String × Stored))

namespace Stored

mutual

/-- A value of a source. -/
def ofDatum (source : String) : Datum → Stored
  | .scalar value => scalar (some source) value
  | .array items => array (some source) (ofItems source items)
  | .table members => table (some source) (ofMembers source members)

def ofItems (source : String) : List Datum → List Stored
  | [] => []
  | item :: items => ofDatum source item :: ofItems source items

def ofMembers (source : String) : List (String × Datum) → List (String × Stored)
  | [] => []
  | (key, value) :: members => (key, ofDatum source value) :: ofMembers source members

end

/-- What stands where no source has put anything. -/
def nothing : Stored := scalar none .nothing

def source? : Stored → Option String
  | scalar source _ | array source _ | table source _ => source

/-- The value as a table; anything else makes way for an empty one. -/
def asTable : Stored → Option String × Members Stored
  | table source members => (source, members)
  | _ => (none, [])

/-- The value as an array; anything else makes way for an empty one. -/
def asArray : Stored → Option String × List Stored
  | array source items => (source, items)
  | _ => (none, [])

/-- The value under a name. -/
def at? (root : Members Stored) (key : String) : Stored := (root.get? key).getD nothing

mutual

/-- Lays a value over what is under a name. Tables are laid over each other name by name, and a
table with nothing in it takes the place of nothing. -/
def lay (root : List (String × Stored)) (key : String) : Stored → List (String × Stored)
  | table _ [] => Members.putNew root (Text.lower key) (table none [])
  | table _ (first :: members) =>
      Members.put root (Text.lower key)
        (table (at? root (Text.lower key)).asTable.1
          (layAll (at? root (Text.lower key)).asTable.2 (first :: members)))
  | value => Members.put root (Text.lower key) value

def layAll (root : List (String × Stored)) : List (String × Stored) → List (String × Stored)
  | [] => root
  | (key, value) :: members => layAll (lay root key value) members

end

end Stored

end MockBuilders
