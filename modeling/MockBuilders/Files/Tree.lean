import MockBuilders.Files.Path

/-!
A tree of files and folders, and what reading and writing it comes to. Paths start at the working
folder, or at the root of the tree if they are rooted.
-/
namespace MockBuilders

/-- Why a file or folder cannot be used. -/
inductive FileError where
  | notFound
  | alreadyThere
  | notFolder
  | isFolder
  | nameTooLong
  | notText
  /-- A path with a NUL in it. -/
  | notPath
  deriving DecidableEq, Repr

def FileError.message : FileError → String
  | notFound => "No such file or directory (os error 2)"
  | alreadyThere => "File exists (os error 17)"
  | notFolder => "Not a directory (os error 20)"
  | isFolder => "Is a directory (os error 21)"
  | nameTooLong => "File name too long (os error 36)"
  | notText => "stream did not contain valid UTF-8"
  | notPath => "file name contained an unexpected NUL byte"

/-- What a file holds: text, or bytes that are no UTF-8. -/
inductive Contents where
  | text (s : String)
  | bytes (bs : List UInt8)
  deriving DecidableEq

namespace Contents

def text? : Contents → Except FileError String
  | text s => .ok s
  | bytes _ => .error .notText

end Contents

/-- Names from the root of the tree down. -/
abbrev Location := List String

structure FileTree where
  files : List (Location × Contents)
  folders : List Location
  working : Location

namespace FileTree

inductive Entry where
  | file (contents : Contents)
  | folder

def empty : FileTree := ⟨[], [], []⟩

/-- What is at a location; the root is always there. -/
def entry? (t : FileTree) (l : Location) : Option Entry :=
  if l = [] ∨ l ∈ t.folders then some .folder
  else (t.files.find? fun f => f.1 = l).map fun f => .file f.2

/-- Bytes that a name in a folder may have. -/
def nameLimit : Nat := 255

/-- Bytes that a path may have. -/
def pathLimit : Nat := 4095

/-- Follows names from a location on. Every name but the last has to lead to a folder; above the
root there is only itself. -/
def walk (t : FileTree) : Location → List String → Except FileError Location
  | l, [] => .ok l
  | l, name :: names =>
      match t.entry? l with
      | none => .error .notFound
      | some (.file _) => .error .notFolder
      | some .folder =>
          if name = "" ∨ name = "." then walk t l names
          else if name = ".." then walk t l.dropLast names
          else if nameLimit < name.utf8ByteSize then .error .nameTooLong
          else walk t (l ++ [name]) names

/-- Follows segments of a path, which as a whole has to be one. -/
def follow (t : FileTree) (path : String) (segments : List String) : Except FileError Location :=
  if path.toList.contains '\x00' then .error .notPath
  else if pathLimit < path.utf8ByteSize then .error .nameTooLong
  else
    match segments with
    | [] | [""] => .error .notFound
    | "" :: names => t.walk [] names
    | names => t.walk t.working names

/-- Where a path leads; there need not be anything. -/
def locate (t : FileTree) (path : String) : Except FileError Location :=
  t.follow path (Path.segments path)

/-- What a path leads to. -/
def find (t : FileTree) (path : String) : Except FileError (Location × Entry) := do
  let l ← t.locate path
  match t.entry? l with
  | some e => return (l, e)
  | none => .error .notFound

def isFolder (t : FileTree) (path : String) : Bool :=
  match t.find path with
  | .ok (_, .folder) => true
  | _ => false

def isFile (t : FileTree) (path : String) : Bool :=
  match t.find path with
  | .ok (_, .file _) => true
  | _ => false

def contains (t : FileTree) (path : String) : Bool :=
  match t.find path with
  | .ok _ => true
  | .error _ => false

def contents (t : FileTree) (path : String) : Except FileError Contents :=
  match t.find path with
  | .ok (_, .file c) => .ok c
  | .ok (_, .folder) => .error .isFolder
  | .error e => .error e

def readText (t : FileTree) (path : String) : Except FileError String := do
  (← t.contents path).text?

/-- Puts a file at a location, in the place of one that is there. -/
def put : List (Location × Contents) → Location → Contents → List (Location × Contents)
  | [], l, c => [(l, c)]
  | f :: fs, l, c => if f.1 = l then (l, c) :: fs else f :: put fs l c

/-- Segments of a path without a slash at its end, and whether there was none. -/
def named (path : String) : List String × Bool :=
  let names := Path.segments path
  if names.getLast? = some "" && names.any (· != "") then (names.dropLast, false)
  else (names, true)

/-- Writes a file, if the folder that it lies in is there. -/
def write (t : FileTree) (path text : String) : Except FileError FileTree :=
  match t.follow path (named path).1 with
  | .error e => .error e
  | .ok l =>
      match t.entry? l, (named path).2 with
      | some .folder, _ | _, false => .error .isFolder
      | _, true => .ok { t with files := put t.files l (.text text) }

/-- Makes one folder, in a folder that is there. -/
def makeFolder (t : FileTree) (path : String) : Except FileError FileTree :=
  match t.follow path (named path).1 with
  | .error e => .error e
  | .ok l =>
      match t.entry? l with
      | some _ => .error .alreadyThere
      | none => .ok { t with folders := t.folders ++ [l] }

/-- Makes the first of some folders, each of which lies in the next one, and those of the others
that it needs. -/
def makeFirst (t : FileTree) : List String → Except FileError FileTree
  | [] => .error .notFound
  | path :: above =>
      if path.isEmpty then .ok t
      else
        match t.makeFolder path with
        | .ok made => .ok made
        | .error .notFound =>
            match t.makeFirst above with
            | .error e => .error e
            | .ok t =>
                match t.makeFolder path with
                | .ok made => .ok made
                | .error e => if t.isFolder path then .ok t else .error e
        | .error e => if t.isFolder path then .ok t else .error e

/-- Makes a folder and all folders that it needs. -/
def makeFolders (t : FileTree) (path : String) : Except FileError FileTree :=
  if path.isEmpty then .ok t else t.makeFirst (path :: (Path.ancestry path).drop 1)

/-- The names from a location down to another one. -/
def below? : Location → Location → Option Location
  | [], l => some l
  | name :: names, other :: l => if name = other then below? names l else none
  | _ :: _, [] => none

/-- The order of locations, in which the first names that differ count. -/
def inOrder : Location → Location → Bool
  | [], _ => true
  | _ :: _, [] => false
  | name :: names, other :: others => name < other || (name == other && inOrder names others)

/-- The files below a location with their names from there, each folder in the order of names. -/
def filesBelow (t : FileTree) (l : Location) : List (Location × Contents) :=
  (t.files.filterMap fun f => (below? l f.1).map fun names => (names, f.2)).mergeSort
    fun a b => inOrder a.1 b.1

end FileTree

end MockBuilders
