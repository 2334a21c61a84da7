import MockBuilders.Yaml.Glyph
import MockBuilders.Yaml.Token

/-!
The state in which tokens of YAML are read: columns of open collections, and names that are still
to be known as such. A name is known by the colon behind it, so tokens are put in before it then.
-/
namespace MockBuilders.Yaml

/-- A column that is left again. -/
structure Indent where
  /-- The column before it. -/
  outer : Int
  /-- Whether a collection stands at it; otherwise it only is a margin for a value. -/
  isBlock : Bool
  deriving DecidableEq, Repr

/-- A value that is a name if a colon follows. -/
structure Candidate where
  /-- Whether it has to be a name. -/
  required : Bool
  /-- How many tokens come before it. -/
  place : Nat
  line : Nat
  column : Nat
  deriving DecidableEq, Repr

structure Lexing where
  rest : Glyphs
  /-- Last first. -/
  tokens : List Token
  /-- Whether a value that comes next may be a name. -/
  fresh : Bool
  /-- What may be a name, in each of the open brackets, innermost first. -/
  candidates : List (Option Candidate)
  column : Int
  indents : List Indent
  /-- How many brackets are open. -/
  depth : Nat
  /-- Where a colon may touch the value behind it. -/
  adjacent : Option (Nat × Nat)
  /-- Whether the marks of a mapping in brackets are written. -/
  marked : Bool
  /-- Whether a mapping has begun in brackets without a mark. -/
  unmarked : Bool

namespace Lexing

def start (gs : Glyphs) : Lexing := ⟨gs, [], true, [none], -1, [], 0, none, false, false⟩

def inBrackets (s : Lexing) : Bool := s.depth != 0

def push (s : Lexing) (t : Token) : Lexing := { s with tokens := t :: s.tokens }

/-- Puts a token in behind so many others. -/
def insertAt (s : Lexing) (place : Nat) (t : Token) : Lexing :=
  { s with tokens := s.tokens.insertIdx (s.tokens.length - place) t }

/-- The place of the next character. -/
def here (s : Lexing) : Option (Nat × Nat) := s.rest.head?.map fun g => (g.line, g.column)

/-- Goes on behind blanks and a comment on the line of a mark. -/
def skipLineGap (s : Lexing) (gs : Glyphs) : Option Lexing :=
  (afterLineGap? gs).map fun rest => { s with rest }

/-- Leaves the columns behind a given one. -/
def leaveFrom (column : Int) (tokens : List Token) (current : Int) :
    List Indent → List Token × Int × List Indent
  | [] => (tokens, current, [])
  | i :: is =>
      if column < current then
        leaveFrom column (if i.isBlock then .blockEnd :: tokens else tokens) i.outer is
      else (tokens, current, i :: is)

def leave (s : Lexing) (column : Int) : Lexing :=
  if s.inBrackets then s
  else
    let (tokens, column, indents) := leaveFrom column s.tokens s.column s.indents
    { s with tokens, column, indents }

/-- Leaves margins that no collection stands at. -/
def leaveMarginsFrom (current : Int) : List Indent → Int × List Indent
  | [] => (current, [])
  | i :: is => if i.isBlock then (current, i :: is) else leaveMarginsFrom i.outer is

def leaveMargins (s : Lexing) : Lexing :=
  let (column, indents) := leaveMarginsFrom s.column s.indents
  { s with column, indents }

/-- Sets a margin for the value of the innermost collection. -/
def enterMargin (s : Lexing) : Lexing :=
  match s.indents with
  | ⟨_, true⟩ :: _ =>
      if s.inBrackets then s
      else { s with indents := ⟨s.column, false⟩ :: s.indents, column := s.column + 1 }
  | _ => s

/-- Leaves the margin that is set last if a collection at a column takes its place. -/
def leaveMarginFor (s : Lexing) (column : Nat) : Lexing :=
  match s.indents with
  | ⟨outer, false⟩ :: indents =>
      if s.column ≤ column then { s with column := outer, indents } else s
  | _ => s

/-- Begins a collection at a column if it is beyond those that are open; its start is put behind so
many tokens. -/
def enter (s : Lexing) (column place : Nat) (t : Token) : Lexing :=
  if s.inBrackets then s
  else
    let s := s.leaveMarginFor column
    if s.column < column then
      { s.insertAt place t with indents := ⟨s.column, true⟩ :: s.indents, column }
    else s

/-- Begins a collection behind all tokens. -/
def enterNext (s : Lexing) (column : Nat) (t : Token) : Lexing := s.enter column s.tokens.length t

/-- Whether a name has to stand at the place of a character. -/
def requires (s : Lexing) (g : Glyph) : Bool :=
  !s.inBrackets && decide (s.column = g.column) && s.indents.head?.any Indent.isBlock

/-- Takes note of a value that may be a name. -/
def propose (s : Lexing) : Lexing :=
  match s.fresh, s.rest with
  | true, g :: _ =>
      let c : Candidate := ⟨s.requires g, s.tokens.length, g.line, g.column⟩
      { s with candidates := some c :: s.candidates.drop 1 }
  | _, _ => s

/-- What may be a name in the innermost brackets. -/
def candidate? (s : Lexing) : Option Candidate := s.candidates.head?.join

/-- Whatever may be a name is none; that is wrong if it has to be one. -/
def dropCandidate? (s : Lexing) : Option Lexing :=
  if s.candidate?.any Candidate.required then none
  else some { s with candidates := none :: s.candidates.drop 1 }

/-- The greatest distance from the start of a name to its colon. -/
def nameLimit : Nat := 1024

/-- Names outside of brackets end on their line, within a distance. -/
def dropStale? (s : Lexing) : Option Lexing :=
  match s.candidate?, s.rest with
  | some c, g :: _ =>
      if !s.inBrackets && (c.line < g.line || c.column + nameLimit < g.column) then s.dropCandidate?
      else some s
  | _, _ => some s

/-- Ends a mapping that has begun without a mark. -/
def endUnmarked (s : Lexing) : Lexing :=
  if s.unmarked then { s.push .flowMappingEnd with unmarked := false, marked := false } else s

end Lexing

end MockBuilders.Yaml
