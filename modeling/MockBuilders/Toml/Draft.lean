import MockBuilders.Toml.Value

/-!
Tables while their document is being read. A table remembers how it came about, since that decides
what may still be added to it.
-/
namespace MockBuilders.Toml

/-- How a table came about. -/
inductive Origin where
  /-- By the header of a table below it. -/
  | implied
  /-- By a dotted name. -/
  | dotted
  /-- By its own header. -/
  | header
  deriving DecidableEq, Repr

inductive Draft where
  /-- A value, to which nothing can be added. -/
  | value (v : Toml)
  | table (origin : Origin) (members : List (String × Draft))
  /-- Tables under one name, last first. -/
  | elements (tables : List (List (String × Draft)))

namespace Draft

/-- Changes the table that a path leads to, with tables made on the way where there are none. A
list of tables is entered at its last one; dotted names do not enter tables with headers. -/
def within (dotted : Bool) (change : Origin → Members Draft → Option (Members Draft)) :
    Origin → List String → Members Draft → Option (Members Draft)
  | origin, [], members => change origin members
  | _, key :: path, members =>
      let new : Origin := if dotted then .dotted else .implied
      match members.get? key with
      | none => (within dotted change new path []).map fun m => members.put key (.table new m)
      | some (.value _) => none
      | some (.table origin inner) =>
          if dotted ∧ origin = .header then none
          else
            (within dotted change origin path inner).map fun m =>
              members.put key (.table origin m)
      | some (.elements []) => none
      | some (.elements (last :: earlier)) =>
          (within dotted change .header path last).map fun m =>
            members.put key (.elements (m :: earlier))

/-- Adds a new name to a table. -/
def addNew (key : String) (d : Draft) (members : Members Draft) : Option (Members Draft) :=
  if members.has key then none else some (members ++ [(key, d)])

/-- Assigns a value to a dotted name. All but the last part lead to tables made by dotted names. -/
def assign (path : List String) (v : Toml) (members : Members Draft) :
    Option (Members Draft) :=
  match path.getLast? with
  | none => none
  | some key =>
      within true
        (fun origin members =>
          if path.dropLast ≠ [] ∧ origin ≠ .dotted then none else addNew key (.value v) members)
        .header path.dropLast members

/-- Begins the table of a header. -/
def openTable (path : List String) (members : Members Draft) : Option (Members Draft) :=
  match path.getLast? with
  | none => none
  | some key =>
      within false
        (fun _ members =>
          match members.get? key with
          | none => addNew key (.table .header []) members
          | some (.table .implied inner) => some (members.put key (.table .header inner))
          | some _ => none)
        .header path.dropLast members

/-- Begins one more table of a list of tables. -/
def openElement (path : List String) (members : Members Draft) : Option (Members Draft) :=
  match path.getLast? with
  | none => none
  | some key =>
      within false
        (fun _ members =>
          match members.get? key with
          | none => addNew key (.elements [[]]) members
          | some (.elements tables) => some (members.put key (.elements ([] :: tables)))
          | some _ => none)
        .header path.dropLast members

/-- Assigns a value in the table of a header. -/
def assignIn (table path : List String) (v : Toml) (members : Members Draft) :
    Option (Members Draft) :=
  within false (fun _ => assign path v) .header table members

mutual

def close : Draft → Toml
  | value v => v
  | table _ members => .table (closeMembers members)
  | elements tables => .array (closeTables tables [])

def closeMembers : List (String × Draft) → List (String × Toml)
  | [] => []
  | (key, d) :: members => (key, d.close) :: closeMembers members

/-- Closes tables, last first, in front of those already closed. -/
def closeTables : List (List (String × Draft)) → List Toml → List Toml
  | [], closed => closed
  | members :: tables, closed => closeTables tables (.table (closeMembers members) :: closed)

end

/-- The table that assignments in braces make. -/
def inline? (pairs : List (List String × Toml)) : Option Toml :=
  (pairs.foldlM (fun members p => assign p.1 p.2 members) []).map fun m =>
    .table (closeMembers m)

end Draft

end MockBuilders.Toml
