import MockBuilders.Toml.Statement

/-! Reading TOML documents. -/
namespace MockBuilders.Toml

/-- A document that is being read: its root table, and the path of the table that assignments go
to. -/
structure DocumentState where
  root : Members Draft
  current : List String

namespace DocumentState

def start : DocumentState := ⟨[], []⟩

def step (d : DocumentState) : Statement → Option DocumentState
  | .table path => (Draft.openTable path d.root).map fun root => ⟨root, path⟩
  | .element path => (Draft.openElement path d.root).map fun root => ⟨root, path⟩
  | .assignment path value =>
      (Draft.assignIn d.current path value d.root).map fun root => ⟨root, d.current⟩

end DocumentState

/-- Line breaks of two characters become line breaks of one. -/
def singleBreaks : List Char → List Char
  | [] => []
  | '\r' :: '\n' :: cs => '\n' :: singleBreaks cs
  | c :: cs => c :: singleBreaks cs

/-- Drops a mark of the byte order. -/
def afterMark : List Char → List Char
  | '\ufeff' :: cs => cs
  | cs => cs

/-- The root table of a document; none if the text is not TOML. -/
def read? (text : String) : Option (Members Toml) := do
  let statements ← Statement.all? (singleBreaks (afterMark text.toList))
  let final ← statements.foldlM DocumentState.step .start
  return Draft.closeMembers final.root

end MockBuilders.Toml
