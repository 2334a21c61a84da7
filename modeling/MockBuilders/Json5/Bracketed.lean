import MockBuilders.Datum

/-!
Arrays and tables in brackets. Commas stand between the items, and one may stand behind the last.
The reader takes one sign at a time; its state holds the brackets that are open and says what may
come next.
-/
namespace MockBuilders.Json5

/-- The tokens that such documents are made of. -/
inductive BracketedToken where
  | mark (c : Char)
  /-- A string in quotes. -/
  | text (value : String)
  /-- A bare name, a constant or a number. -/
  | word (cs : List Char)
  deriving DecidableEq, Repr

/-- What brackets hold. -/
inductive Enclosure where
  | array
  | table
  deriving DecidableEq, Repr

inductive Sign where
  | opening (encloses : Enclosure)
  | closing (encloses : Enclosure)
  | colon
  | comma
  /-- A string, which is a name where one may stand. -/
  | text (value : String)
  | name (value : String)
  | value (value : Datum)

namespace Bracketed

/-- Open brackets with what they hold already. -/
inductive Frame where
  /-- Last first. -/
  | items (done : List Datum)
  | members (done : Members Datum)
  /-- A table whose next value belongs to a name. -/
  | member (done : Members Datum) (key : String)

/-- What may come next. -/
inductive Expected where
  | value
  /-- An item, a name or the end of the brackets. -/
  | itemOrEnd
  | colon (key : String)
  | commaOrEnd
  | nothing (result : Datum)

structure State where
  /-- Innermost brackets first. -/
  frames : List Frame
  expected : Expected

namespace State

def start : State := ⟨[], .value⟩

/-- Hands a finished value to the innermost brackets; of two values of one name the later wins. -/
def deliver (frames : List Frame) (value : Datum) : Option State :=
  match frames with
  | [] => some ⟨[], .nothing value⟩
  | .items done :: outer => some ⟨.items (value :: done) :: outer, .commaOrEnd⟩
  | .member done key :: outer => some ⟨.members (done.put key value) :: outer, .commaOrEnd⟩
  | .members _ :: _ => none

def openWith (frames : List Frame) : Enclosure → State
  | .array => ⟨.items [] :: frames, .itemOrEnd⟩
  | .table => ⟨.members [] :: frames, .itemOrEnd⟩

def close (frames : List Frame) (encloses : Enclosure) : Option State :=
  match frames, encloses with
  | .items done :: outer, .array => deliver outer (.array done.reverse)
  | .members done :: outer, .table => deliver outer (.table done)
  | _, _ => none

/-- Begins a value. -/
def value (frames : List Frame) : Sign → Option State
  | .opening encloses => some (openWith frames encloses)
  | .text s => deliver frames (.string s)
  | .value v => deliver frames v
  | _ => none

/-- Begins an item of an array, or a member of a table. -/
def item (frames : List Frame) (sign : Sign) : Option State :=
  match frames, sign with
  | .members _ :: _, .text key | .members _ :: _, .name key => some ⟨frames, .colon key⟩
  | .members _ :: _, _ => none
  | _, sign => value frames sign

def step (s : State) (sign : Sign) : Option State :=
  match s.expected, s.frames, sign with
  | .value, frames, sign => value frames sign
  | .itemOrEnd, frames, .closing encloses => close frames encloses
  | .itemOrEnd, frames, sign => item frames sign
  | .colon key, .members done :: outer, .colon => some ⟨.member done key :: outer, .value⟩
  | .commaOrEnd, frames, .closing encloses => close frames encloses
  | .commaOrEnd, frames, .comma => some ⟨frames, .itemOrEnd⟩
  | _, _, _ => none

def result? (s : State) : Option Datum :=
  match s.expected with
  | .nothing value => some value
  | _ => none

end State

/-- The value of a document. -/
def read? (signs : List Sign) : Option Datum :=
  (signs.foldlM State.step .start).bind State.result?

end Bracketed

end MockBuilders.Json5
