import MockBuilders.Json.Lexeme

/-!
Reading JSON text. The reader takes one lexeme at a time; its state holds the containers that are
open and says what may come next.
-/
namespace MockBuilders

namespace Json

/-- An open container, with what it already holds. -/
inductive Frame where
  /-- Items of an array, last first. -/
  | items (done : List Json)
  | members (done : Members Json)
  /-- An object whose next value belongs to a name. -/
  | member (done : Members Json) (key : String)

/-- What may come next. -/
inductive Expected where
  | value
  | valueOrEnd
  | keyOrEnd
  | key
  | colon (key : String)
  | commaOrEnd
  | nothing (result : Json)

structure ReaderState where
  /-- Innermost container first. -/
  frames : List Frame
  expected : Expected

namespace ReaderState

/-- At most 127 containers are open at a time. -/
def nesting : Nat := 127

def start : ReaderState := ⟨[], .value⟩

/-- Hands a finished value to the innermost container; a name keeps its first place and takes its
last value. -/
def deliver (frames : List Frame) (value : Json) : Option ReaderState :=
  match frames with
  | [] => some ⟨[], .nothing value⟩
  | .items done :: outer => some ⟨.items (value :: done) :: outer, .commaOrEnd⟩
  | .member done key :: outer => some ⟨.members (done.put key value) :: outer, .commaOrEnd⟩
  | .members _ :: _ => none

def openWith (frames : List Frame) (frame : Frame) (expected : Expected) : Option ReaderState :=
  if frames.length < nesting then some ⟨frame :: frames, expected⟩ else none

/-- Begins a value with a lexeme. -/
def value (frames : List Frame) : Lexeme → Option ReaderState
  | .openBrace => openWith frames (.members []) .keyOrEnd
  | .openBracket => openWith frames (.items []) .valueOrEnd
  | .string s => deliver frames (.string s)
  | .scalar v => deliver frames v
  | _ => none

def step (s : ReaderState) (l : Lexeme) : Option ReaderState :=
  match s.expected, s.frames, l with
  | .value, frames, l => value frames l
  | .valueOrEnd, .items done :: outer, .closeBracket => deliver outer (.array done.reverse)
  | .valueOrEnd, frames, l => value frames l
  | .keyOrEnd, .members done :: outer, .closeBrace => deliver outer (.object done)
  | .keyOrEnd, frames, .string key => some ⟨frames, .colon key⟩
  | .key, frames, .string key => some ⟨frames, .colon key⟩
  | .colon key, .members done :: outer, .colon => some ⟨.member done key :: outer, .value⟩
  | .commaOrEnd, .items done :: outer, .closeBracket => deliver outer (.array done.reverse)
  | .commaOrEnd, .items done :: outer, .comma => some ⟨.items done :: outer, .value⟩
  | .commaOrEnd, .members done :: outer, .closeBrace => deliver outer (.object done)
  | .commaOrEnd, .members done :: outer, .comma => some ⟨.members done :: outer, .key⟩
  | _, _, _ => none

def result? (s : ReaderState) : Option Json :=
  match s.expected with
  | .nothing result => some result
  | _ => none

end ReaderState

/-- The value that a text denotes; none if the text is not JSON. -/
def read? (text : String) : Option Json := do
  let lexemes ← Lexeme.all? text.toList
  let final ← lexemes.foldlM ReaderState.step .start
  final.result?

end Json

end MockBuilders
