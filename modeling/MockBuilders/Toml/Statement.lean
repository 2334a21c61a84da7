import MockBuilders.Text.Split
import MockBuilders.Toml.Draft
import MockBuilders.Toml.Token
import MockBuilders.Toml.Word

/-!
The statements of a TOML document, one a line but for line breaks inside brackets. The reader
takes one token at a time; its state holds what is open and says what may come next.
-/
namespace MockBuilders.Toml

inductive Statement where
  | table (path : List String)
  | element (path : List String)
  | assignment (path : List String) (value : Toml)

/-- What a name that is being read belongs to. -/
inductive NameUse where
  | table
  | element
  | assignment
  /-- An assignment in braces. -/
  | pair
  deriving DecidableEq

/-- What a value that is being read belongs to. -/
inductive Opened where
  | assignment (path : List String)
  /-- Items in brackets, last first. -/
  | items (done : List Toml)
  /-- Assignments in braces, last first. -/
  | pairs (done : List (List String × Toml))
  | pair (done : List (List String × Toml)) (path : List String)

inductive Awaited where
  | statement
  /-- A second bracket, or the name of a table. -/
  | header
  | name (use : NameUse) (path : List String)
  /-- A point and a further name, or the end of the name. -/
  | nameEnd (use : NameUse) (path : List String)
  /-- The second closing bracket. -/
  | elementEnd (path : List String)
  | value
  | valueOrEnd
  | nameOrEnd
  | commaOrEnd
  | lineEnd

structure StatementState where
  /-- Last first. -/
  statements : List Statement
  /-- Innermost first. -/
  opened : List Opened
  awaited : Awaited

namespace StatementState

/-- Brackets and braces that may be open at a time, and names that a path may have. -/
def nesting : Nat := 79

def start : StatementState := ⟨[], [], .statement⟩

def await (s : StatementState) (awaited : Awaited) : Option StatementState :=
  some { s with awaited }

/-- Hands a finished value to what it belongs to. -/
def deliver (s : StatementState) (value : Toml) : Option StatementState :=
  match s.opened with
  | .assignment path :: _ => some ⟨.assignment path value :: s.statements, [], .lineEnd⟩
  | .items done :: outer => some ⟨s.statements, .items (value :: done) :: outer, .commaOrEnd⟩
  | .pair done path :: outer =>
      some ⟨s.statements, .pairs ((path, value) :: done) :: outer, .commaOrEnd⟩
  | _ => none

def openWith (s : StatementState) (opened : Opened) (awaited : Awaited) : Option StatementState :=
  if s.opened.length ≤ nesting then some ⟨s.statements, opened :: s.opened, awaited⟩ else none

/-- Closes the innermost brackets. -/
def closeItems (s : StatementState) : Option StatementState :=
  match s.opened with
  | .items done :: outer => deliver { s with opened := outer } (.array done.reverse)
  | _ => none

/-- Closes the innermost braces. -/
def closePairs (s : StatementState) : Option StatementState :=
  match s.opened with
  | .pairs done :: outer =>
      match Draft.inline? done.reverse with
      | some value => deliver { s with opened := outer } value
      | none => none
  | _ => none

def comma (s : StatementState) : Option StatementState :=
  match s.opened with
  | .items _ :: _ => s.await .valueOrEnd
  | .pairs _ :: _ => s.await (.name .pair [])
  | _ => none

/-- A line may break inside brackets, and not inside braces. -/
def breakInside (s : StatementState) : Option StatementState :=
  match s.opened with
  | .items _ :: _ => some s
  | _ => none

/-- Begins the value of a name. -/
def assign (s : StatementState) (use : NameUse) (path : List String) : Option StatementState :=
  match use, s.opened with
  | .assignment, opened => some ⟨s.statements, .assignment path :: opened, .value⟩
  | .pair, .pairs done :: outer => some ⟨s.statements, .pair done path :: outer, .value⟩
  | _, _ => none

/-- Takes a name into a path. -/
def name (s : StatementState) (cs : List Char) : Option StatementState :=
  let key := String.ofList cs
  match s.awaited with
  | .statement => s.await (.nameEnd .assignment [key])
  | .header => s.await (.nameEnd .table [key])
  | .name use path =>
      if path.length < nesting then s.await (.nameEnd use (path ++ [key])) else none
  | .nameOrEnd => s.await (.nameEnd .pair [key])
  | _ => none

/-- Takes the point after a name. -/
def point (s : StatementState) : Option StatementState :=
  match s.awaited with
  | .nameEnd use path => s.await (.name use path)
  | _ => none

/-- Takes a part of a word as a name; next to a point there may be none. -/
def part (s : StatementState) (cs : List Char) : Option StatementState :=
  if cs = [] then some s else if cs.all Token.isNameChar then s.name cs else none

/-- Takes a word as bare names with points between them. -/
def names (s : StatementState) (cs : List Char) : Option StatementState :=
  match Text.split '.' cs with
  | [] => some s
  | first :: more =>
      match s.part first with
      | none => none
      | some s =>
          more.foldlM
            (fun (s : StatementState) p => s.point.bind fun (s : StatementState) => s.part p) s

def awaitsValue : Awaited → Bool
  | .value | .valueOrEnd => true
  | _ => false

/-- Takes a mark. -/
def mark (s : StatementState) (c : Char) : Option StatementState :=
  match s.awaited, c with
  | .statement, '[' => s.await .header
  | .header, '[' => s.await (.name .element [])
  | .nameEnd .table path, ']' =>
      some ⟨.table path :: s.statements, s.opened, .lineEnd⟩
  | .nameEnd .element path, ']' => s.await (.elementEnd path)
  | .elementEnd path, ']' =>
      some ⟨.element path :: s.statements, s.opened, .lineEnd⟩
  | .nameEnd use path, '=' => s.assign use path
  | .value, '[' | .valueOrEnd, '[' => s.openWith (.items []) .valueOrEnd
  | .value, '\x7b' | .valueOrEnd, '\x7b' => s.openWith (.pairs []) .nameOrEnd
  | .valueOrEnd, ']' | .commaOrEnd, ']' => s.closeItems
  | .nameOrEnd, '\x7d' | .commaOrEnd, '\x7d' => s.closePairs
  | .commaOrEnd, ',' => s.comma
  | _, _ => none

def step (s : StatementState) : Token → Option StatementState
  | .blank =>
      match s.awaited with
      | .header => s.await (.name .table [])
      | .elementEnd _ => none
      | _ => some s
  | .lineBreak =>
      match s.awaited with
      | .statement | .lineEnd => s.await .statement
      | .value | .valueOrEnd | .commaOrEnd => s.breakInside
      | _ => none
  | .mark c => s.mark c
  | .word cs =>
      if awaitsValue s.awaited then (ofWord? cs).bind s.deliver else s.names cs
  | .string cs lines =>
      if awaitsValue s.awaited then s.deliver (.string (String.ofList cs))
      else if lines then none
      else s.name cs

/-- The statements, in order, if none is left unfinished. -/
def result? (s : StatementState) : Option (List Statement) :=
  match s.awaited with
  | .statement | .lineEnd => some s.statements.reverse
  | _ => none

end StatementState

/-- The statements of a text. -/
def Statement.all? (cs : List Char) : Option (List Statement) := do
  let tokens ← Token.all? cs
  let final ← tokens.foldlM StatementState.step .start
  final.result?

end MockBuilders.Toml
