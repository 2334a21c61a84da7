import MockBuilders.Text.Split

/-!
Paths as they are written. Doubled slashes, a slash at the end and single points other than a
first one have no meaning of their own.
-/
namespace MockBuilders.Path

def isRooted (path : String) : Bool := path.toList.head? == some '/'

/-- The texts between the slashes. -/
def segments (path : String) : List String := (Text.split '/' path.toList).map String.ofList

def ofSegments (segments : List String) : String :=
  String.ofList (Text.join '/' (segments.map String.toList))

/-- A path below another one; a rooted path stands for itself. -/
def join (base path : String) : String :=
  if isRooted path || base.isEmpty then path
  else if base.toList.getLast? = some '/' then base ++ path
  else base ++ "/" ++ path

/-- Whether the segment at an index has a meaning of its own. -/
def isComponent (segments : List String) (index : Nat) : Bool :=
  match segments[index]? with
  | some "" => index == 0 && 1 < segments.length
  | some "." => index == 0
  | some _ => true
  | none => false

/-- The path up to the segment at an index. -/
def upTo (segments : List String) (index : Nat) : String :=
  if segments.take (index + 1) = [""] then "/" else ofSegments (segments.take (index + 1))

/-- The path itself and the folders above it, nearest first; at the end of a path that is not
rooted stands the empty path. -/
def ancestry (path : String) : List String :=
  let parts := segments path
  let found := (List.range parts.length).reverse.filter (isComponent parts)
  found.map (upTo parts) ++ if isRooted path || found.isEmpty then [] else [""]

/-- The folder that a path lies in. -/
def parent? (path : String) : Option String := (ancestry path)[1]?

/-- The last name of a path. -/
def fileName? (path : String) : Option String :=
  let parts := segments path
  match (List.range parts.length).reverse.find? (isComponent parts) with
  | none => none
  | some index => parts[index]?.filter fun name => name != "" && name != "." && name != ".."

/-- A name before its last point and after it. A point at the start ends nothing. -/
def splitName (name : String) : String × Option String :=
  match Text.split '.' name.toList with
  | [] | [_] => (name, none)
  | first :: second :: more =>
      let parts := first :: second :: more
      let stem := Text.join '.' parts.dropLast
      if stem = [] || name == ".." then (name, none)
      else (String.ofList stem, some (String.ofList (parts.getLastD [])))

def stem (path : String) : String := ((fileName? path).map fun n => (splitName n).1).getD ""

def extension? (path : String) : Option String := (fileName? path).bind fun n => (splitName n).2

/-- Follows names from the names of a folder, on paper only. -/
def follow (folder : List String) (names : List String) : List String :=
  names.foldl
    (fun l name =>
      if name = "" ∨ name = "." then l else if name = ".." then l.dropLast else l ++ [name])
    folder

/-- The names that a path comes to from a folder, each of them below the one before. -/
def resolve (folder : List String) (path : String) : List String :=
  follow (if isRooted path then [] else folder) (segments path)

/-- How names from the root are called from a folder. -/
def fromFolder : List String → List String → List String
  | name :: folder, other :: names =>
      if name = other then fromFolder folder names
      else List.replicate (folder.length + 1) ".." ++ other :: names
  | folder, names => List.replicate folder.length ".." ++ names

/-- How a path is called from a folder, without the segments that have no meaning of their own. -/
def relativeTo (folder : List String) (path : String) : String :=
  let names := (segments path).filter fun name => name != "" && name != "."
  ofSegments (fromFolder folder (if isRooted path then names else folder ++ names))

theorem ofSegments_segments (path : String) : ofSegments (segments path) = path := by
  simp [ofSegments, segments, List.map_map, Function.comp_def, Text.join_split]

end MockBuilders.Path
