import MockBuilders.Event
import MockBuilders.Files.Tree
import MockBuilders.Json.Reader

/-! Loading raw entries from an OpenAPI document or from a folder of schema files. -/
namespace MockBuilders

/-- Which files of a folder are loaded, by the beginnings of their paths from there. -/
structure PathFilter where
  skipped : List String
  /-- If there are any, other files are left out. -/
  included : List String
  deriving DecidableEq, Repr

namespace PathFilter

/-- Leaves out build results, version control and installed packages. -/
def standard : PathFilter := ⟨["target/", ".git/", "node_modules/"], []⟩

def startsWith (path start : String) : Bool := start.toList.isPrefixOf path.toList

def accepts (f : PathFilter) (path : String) : Bool :=
  (f.included.isEmpty || f.included.any (startsWith path)) && !f.skipped.any (startsWith path)

end PathFilter

inductive LoadFailure where
  | unreadable (path : String) (error : FileError)
  | notJson (path : String)
  /-- A document without named schemas. -/
  | noSchemas
  | invalidDocument (path : String)
  /-- A folder that is not there. -/
  | unwalkable (path : String) (error : FileError)
  deriving DecidableEq, Repr

namespace LoadFailure

def noSchemasMessage : String :=
  "Document has no /components/schemas or /definitions object"

def message : LoadFailure → String
  | unreadable path error => "Failed to read " ++ path ++ ": " ++ error.message
  | notJson path => "Failed to parse JSON in " ++ path
  | noSchemas => noSchemasMessage
  | invalidDocument path =>
      "Invalid OpenAPI document " ++ path ++ ": " ++ noSchemasMessage
  | unwalkable path error =>
      "Failed to walk " ++ path ++ ": IO error for operation on " ++ path ++ ": " ++
        error.message ++ ": " ++ error.message

end LoadFailure

/-- The events of loading and what came of it. -/
structure Loaded where
  events : List Event
  result : Except LoadFailure (List (String × Json))

namespace Loading

/-- The named schemas of an OpenAPI document, in its order. -/
def ofDocument (document : Json) : Except LoadFailure (List (String × Json)) :=
  let schemas? :=
    match (document.get? "components").bind (·.get? "schemas") with
    | some schemas => some schemas
    | none => document.get? "definitions"
  match schemas?.bind Json.asObject? with
  | some members => .ok members
  | none => .error .noSchemas

def readJson (t : FileTree) (path : String) : Except LoadFailure Json :=
  match t.readText path with
  | .error e => .error (.unreadable path e)
  | .ok text =>
      match Json.read? text with
      | some value => .ok value
      | none => .error (.notJson path)

/-- Loads an OpenAPI document. -/
def file (t : FileTree) (path : String) : Loaded :=
  let result := do
    let document ← readJson t path
    (ofDocument document).mapError fun _ => .invalidDocument path
  match result with
  | .error e => ⟨[], .error e⟩
  | .ok entries =>
      ⟨[⟨.debug, "loaded OpenAPI schemas",
        [("path", path), ("count", Nat.repr entries.length)]⟩], .ok entries⟩

/-- Ending of the names of schema files that entries go without, as often as it is there. -/
def nameEnding : List Char := ['.', 's', 'c', 'h', 'e', 'm', 'a']

def dropEndings (cs : List Char) : List Char :=
  if h : nameEnding.isSuffixOf cs = true then dropEndings (cs.take (cs.length - 7)) else cs
termination_by cs.length
decreasing_by
  have := (List.isSuffixOf_iff_suffix.1 h).length_le
  simp only [nameEnding, List.length_cons, List.length_nil] at this
  simp only [List.length_take]
  omega

def entryName (path : String) : String := String.ofList (dropEndings (Path.stem path).toList)

/-- A file's path from its folder, with slashes only. -/
def relative (names : Location) : String :=
  String.ofList ((Path.ofSegments names).toList.map fun c => if c = '\\' then '/' else c)

/-- Loads the files of a folder, one after the other. -/
def files (t : FileTree) (filter : PathFilter) (path : String) :
    List Location → List Event × Except LoadFailure (List (String × Json))
  | [] => ([], .ok [])
  | names :: rest =>
      let whole := names.foldl Path.join path
      if Path.extension? whole ≠ some "json" then files t filter path rest
      else if !filter.accepts (relative names) then
        let (events, result) := files t filter path rest
        (⟨.debug, "skipped by prefix filter", [("path", relative names)]⟩ :: events, result)
      else
        match readJson t whole with
        | .error e => ([], .error e)
        | .ok value =>
            let (events, result) := files t filter path rest
            (events, result.map fun entries => (entryName whole, value) :: entries)

/-- Loads one entry from each schema file in a folder, in the order of their paths. -/
def folder (t : FileTree) (filter : PathFilter) (path : String) : Loaded :=
  match t.find path with
  | .error e => ⟨[], .error (.unwalkable path e)⟩
  | .ok (l, _) =>
      match files t filter path ((t.filesBelow l).map Prod.fst) with
      | (events, .error e) => ⟨events, .error e⟩
      | (events, .ok entries) =>
          ⟨events ++ [⟨.debug, "loaded schema directory",
            [("dir", path), ("count", Nat.repr entries.length)]⟩], .ok entries⟩

/-- Loads a folder of schema files, or an OpenAPI document. -/
def path (t : FileTree) (filter : PathFilter) (path : String) : Loaded :=
  if t.isFolder path then folder t filter path else file t path

end Loading

end MockBuilders
