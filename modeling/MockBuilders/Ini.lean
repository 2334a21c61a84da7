import MockBuilders.Datum
import MockBuilders.Text.Blank
import MockBuilders.Text.Digits

/-!
Reading INI: sections in brackets, and names with values behind an equals sign or a colon. All
values are strings. The reader takes one character at a time; its state says what the character
stands in.
-/
namespace MockBuilders.Ini

/-- A part of a text in which escapes are read. -/
inductive Part where
  | section
  | name
  /-- A value up to the end of its line. -/
  | bare
  /-- The start of a value, in quotes. -/
  | quoted (quote : Char)
  deriving DecidableEq

/-- What the next character stands in. Text that is being read has its last character first. -/
inductive Place where
  /-- Between statements. -/
  | between
  | comment
  | text (part : Part) (cs : List Char)
  /-- Behind a backslash. -/
  | escape (part : Part) (cs : List Char)
  /-- In a code point of four digits, some of which are left. -/
  | code (part : Part) (cs : List Char) (left value : Nat)
  /-- Before a value. -/
  | value

structure ReaderState where
  /-- What is outside of sections, and the sections. -/
  root : Members Datum
  /-- The section that values go to. -/
  current : Option String
  /-- The name whose value is due. -/
  key : String
  /-- Characters before the next one on its line. -/
  column : Nat
  place : Place

namespace ReaderState

def start : ReaderState := ⟨[], none, "", 0, .between⟩

def go (s : ReaderState) (place : Place) : Option ReaderState := some { s with place }

/-- Begins a section. One that is there already is begun anew. -/
def openSection (s : ReaderState) (cs : List Char) : ReaderState :=
  let name := String.ofList (Text.trim cs)
  { s with root := s.root.put name (.table []), current := some name, place := .between }

/-- Gives the name its value, less the blanks around it. -/
def assign (s : ReaderState) (cs : List Char) : ReaderState :=
  let text := Datum.string (String.ofList (Text.trim cs))
  let root :=
    match s.current with
    | none => s.root.put s.key text
    | some name =>
        s.root.put name
          (.table (Members.put ((((s.root.get? name).bind Datum.table?)).getD []) s.key text))
  { s with root, place := .between }

/-- Whether a character ends a part. -/
def ends (part : Part) (c : Char) : Bool :=
  match part with
  | .section => c == ']'
  | .name => c == '=' || c == ':'
  | .bare => c == '\n' || c == '\r'
  | .quoted quote => c == quote

/-- A character between statements. Comments stand at the start of a line. -/
def between (s : ReaderState) (c : Char) : Option ReaderState :=
  if Text.isBlank c then some s
  else if c = ';' ∨ c = '#' then if s.column = 0 then s.go .comment else none
  else if c = '[' then s.go (.text .section [])
  else if ends .name c then none
  else if c = '\\' then s.go (.escape .name [])
  else s.go (.text .name [c])

/-- Takes a finished part, last character first. What is in quotes goes on up to the end of the
line. -/
def finish (s : ReaderState) (part : Part) (cs : List Char) : ReaderState :=
  match part with
  | .section => s.openSection cs.reverse
  | .name => { s with key := String.ofList (Text.trim cs.reverse), place := .value }
  | .bare => s.assign cs.reverse
  | .quoted _ => { s with place := .text .bare cs }

/-- A character in a part. -/
def text (s : ReaderState) (part : Part) (cs : List Char) (c : Char) : Option ReaderState :=
  if ends part c then
    if part = .name ∧ Text.trim cs = [] then none else some (s.finish part cs)
  else if c = '\\' then s.go (.escape part cs)
  else s.go (.text part (c :: cs))

def unescape (c : Char) : Char :=
  match c with
  | '0' => '\x00'
  | 'a' => '\x07'
  | 'b' => '\x08'
  | 't' => '\t'
  | 'r' => '\r'
  | 'n' => '\n'
  | c => c

def escape (s : ReaderState) (part : Part) (cs : List Char) (c : Char) : Option ReaderState :=
  if c = '\n' then s.go (.text part cs)
  else if c = 'x' then s.go (.code part cs 4 0)
  else s.go (.text part (unescape c :: cs))

/-- A digit of a code point. A plus sign may stand in the place of the first one. -/
def code (s : ReaderState) (part : Part) (cs : List Char) (left value : Nat) (c : Char) :
    Option ReaderState :=
  match Text.hexValue? c with
  | none => if left = 4 ∧ c = '+' then s.go (.code part cs 3 0) else none
  | some d =>
      let value := 16 * value + d
      if 1 < left then s.go (.code part cs (left - 1) value)
      else if value.isValidChar then s.go (.text part (Char.ofNat value :: cs))
      else none

/-- A character before a value. -/
def value (s : ReaderState) (c : Char) : Option ReaderState :=
  if c = '\n' ∨ c = '\r' then some (s.assign [])
  else if Text.isBlank c then some s
  else if c = '"' ∨ c = '\'' then s.go (.text (.quoted c) [])
  else s.text .bare [] c

def step (s : ReaderState) (c : Char) : Option ReaderState :=
  let next :=
    match s.place with
    | .between => s.between c
    | .comment => if c = '\n' then s.go .between else some s
    | .text part cs => s.text part cs c
    | .escape part cs => s.escape part cs c
    | .code part cs left value => s.code part cs left value c
    | .value => s.value c
  next.map fun n => { n with column := if c = '\n' then 0 else s.column + 1 }

/-- The sections, unless something is left open. -/
def result? (s : ReaderState) : Option (Members Datum) :=
  match s.place with
  | .between | .comment => some s.root
  | .value => some (s.assign []).root
  | .text .bare cs => some (s.finish .bare cs).root
  | _ => none

end ReaderState

/-- The table of a document; none if the text is not INI. -/
def read? (text : String) : Option Datum :=
  (text.toList.foldlM ReaderState.step .start).bind fun s => s.result?.map .table

end MockBuilders.Ini
