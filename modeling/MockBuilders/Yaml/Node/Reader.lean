import MockBuilders.Members
import MockBuilders.Yaml.Node
import MockBuilders.Yaml.Token.Lexer

/-! Reading values of YAML from their tokens. Where a value may stand and none is written there is
nothing. -/
namespace MockBuilders.Yaml

/-- What is known while a document is read. -/
structure DocumentState where
  rest : List Token
  /-- The starts of tags by the handles that directives give. -/
  handles : Members String
  /-- The places of anchors by their names. -/
  anchors : Members Nat
  /-- The values of anchors by their places; there is none as long as a value is being read. -/
  values : List (Option Node)

abbrev NodeReader := StateT DocumentState Option

namespace NodeReader

def peek : NodeReader (Option Token) := do return (← get).rest.head?

def skip : NodeReader Unit := modify fun s => { s with rest := s.rest.drop 1 }

/-- Goes on behind a token that has to come next. -/
def expect (t : Token) : NodeReader Unit := do
  if (← peek) = some t then skip else failure

def ofOption {α : Type} (o : Option α) : NodeReader α :=
  match o with
  | some a => pure a
  | none => failure

/-- The tag that a handle and a rest come to. A handle in two marks has to be given by a directive,
but for that of common tags. -/
def tagOf (handle rest : String) : NodeReader (String × String) := do
  match (← get).handles.get? handle with
  | some start => return (start, rest)
  | none =>
      if handle = "!!" then return (Node.commonTags, rest)
      else if handle = "" ∨ handle = "!" then return (handle, rest)
      else failure

/-- Takes an anchor if one comes next. -/
def anchor? : NodeReader (Option Nat) := do
  match ← peek with
  | some (.anchor name) =>
      skip
      let place := (← get).values.length
      modify fun s => { s with anchors := s.anchors.put name place, values := s.values ++ [none] }
      return some place
  | _ => return none

/-- Takes a tag if one comes next. -/
def tag? : NodeReader (Option (String × String)) := do
  match ← peek with
  | some (.tag handle rest) =>
      skip
      return some (← tagOf handle rest)
  | _ => return none

/-- Takes an anchor and a tag, in either order. -/
def properties : NodeReader (Option Nat × Option (String × String)) := do
  match ← anchor? with
  | some place => return (some place, ← tag?)
  | none =>
      match ← tag? with
      | some tag => return (← anchor?, some tag)
      | none => return (none, none)

/-- Gives a value to an anchor. -/
def record (anchor : Option Nat) (node : Node) : NodeReader Node := do
  match anchor with
  | some place => modify fun s => { s with values := s.values.set place (some node) }
  | none => pure ()
  return node

/-- The value that a name has been given to; it is missing while that value is being read. -/
def referred (name : String) : NodeReader Node := do
  let place ← ofOption ((← get).anchors.get? name)
  return ((← get).values[place]?.join).getD .missing

/-- Whether one of some tokens comes next. -/
def isAt (ts : List Token) : NodeReader Bool := do return (← peek).any ts.contains

mutual

/-- The value that comes next. Outside of brackets it may be a collection by indentation; behind a
name it may be a sequence without an indentation of its own. -/
def node (n : Nat) (isBlock isIndentless : Bool) : NodeReader Node :=
  match n with
  | 0 => failure
  | n + 1 => do
      if let some (.reference name) := ← peek then
        skip
        return ← referred name
      let (anchor, tag) ← properties
      match ← peek, isBlock, isIndentless with
      | some (.scalar l), _, _ => skip; record anchor (.ofLeaf tag l)
      | some .blockEntry, _, true => record anchor (.sequence (← entries n []))
      | some .flowSequenceStart, _, _ => skip; record anchor (.sequence (← items n true []))
      | some .flowMappingStart, _, _ =>
          skip; record anchor (← ofOption (Node.ofChildren? (← flowMembers n true [])))
      | some .blockSequenceStart, true, _ => skip; record anchor (.sequence (← blockItems n []))
      | some .blockMappingStart, true, _ =>
          skip; record anchor (← ofOption (Node.ofChildren? (← blockMembers n [])))
      | _, _, _ =>
          if anchor.isNone && tag.isNone then failure
          else record anchor (.ofLeaf tag ⟨false, []⟩)

/-- The value that comes next, or nothing in front of some tokens. -/
def nodeBefore (n : Nat) (isBlock isIndentless : Bool) (ts : List Token) : NodeReader Node :=
  match n with
  | 0 => failure
  | n + 1 => do
      if ← isAt ts then return .null
      node n isBlock isIndentless

/-- The items of a sequence that has no indentation of its own. -/
def entries (n : Nat) (done : List Node) : NodeReader (List Node) :=
  match n with
  | 0 => failure
  | n + 1 => do
      if !(← isAt [.blockEntry]) then return done.reverse
      skip
      entries n ((← nodeBefore n true false [.blockEntry, .key, .value, .blockEnd]) :: done)

/-- The items of a sequence up to its end. -/
def blockItems (n : Nat) (done : List Node) : NodeReader (List Node) :=
  match n with
  | 0 => failure
  | n + 1 => do
      if ← isAt [.blockEnd] then
        skip
        return done.reverse
      expect .blockEntry
      blockItems n ((← nodeBefore n true false [.blockEntry, .blockEnd]) :: done)

/-- The names and values of a mapping up to its end. -/
def blockMembers (n : Nat) (done : List Node) : NodeReader (List Node) :=
  match n with
  | 0 => failure
  | n + 1 => do
      if ← isAt [.blockEnd] then
        skip
        return done.reverse
      let key ←
        if ← isAt [.value] then pure .null
        else do
          expect .key
          nodeBefore n true true [.key, .value, .blockEnd]
      let value ←
        if ← isAt [.value] then do
          skip
          nodeBefore n true true [.key, .value, .blockEnd]
        else pure .null
      blockMembers n (value :: key :: done)

/-- The items in brackets up to their end. -/
def items (n : Nat) (first : Bool) (done : List Node) : NodeReader (List Node) :=
  match n with
  | 0 => failure
  | n + 1 => do
      if !first && !(← isAt [.flowSequenceEnd]) then expect .flowEntry
      if ← isAt [.flowSequenceEnd] then
        skip
        return done.reverse
      let item ←
        if ← isAt [.key] then do
          skip
          pair n
        else node n false false
      items n false (item :: done)

/-- A name and a value among items in brackets. A mark behind an empty name is passed over. -/
def pair (n : Nat) : NodeReader Node :=
  match n with
  | 0 => failure
  | n + 1 => do
      let key ←
        if ← isAt [.value, .flowEntry, .flowSequenceEnd] then do
          skip
          pure .null
        else node n false false
      let value ←
        if ← isAt [.value] then do
          skip
          nodeBefore n false false [.flowEntry, .flowSequenceEnd]
        else pure .null
      ofOption (Node.ofChildren? [key, value])

/-- The names and values in braces up to their end. A name alone has nothing as its value. -/
def flowMembers (n : Nat) (first : Bool) (done : List Node) : NodeReader (List Node) :=
  match n with
  | 0 => failure
  | n + 1 => do
      if !first && !(← isAt [.flowMappingEnd]) then expect .flowEntry
      if ← isAt [.flowMappingEnd] then
        skip
        return done.reverse
      if ← isAt [.key, .value] then
        let key ←
          if ← isAt [.key] then do
            skip
            nodeBefore n false false [.value, .flowEntry, .flowMappingEnd]
          else pure .null
        let value ←
          if ← isAt [.value] then do
            skip
            nodeBefore n false false [.flowEntry, .flowMappingEnd]
          else pure .null
        flowMembers n false (value :: key :: done)
      else
        let key ← node n false false
        flowMembers n false (.null :: key :: done)

end

/-- Takes the directives of a document. Only the last one counts for the tags, and the version may
be given once. -/
def directives (n : Nat) (versioned : Bool) : NodeReader Unit :=
  match n with
  | 0 => failure
  | n + 1 => do
      match ← peek with
      | some .versionDirective =>
          if versioned then failure
          modify fun s => { s with handles := [] }
          skip
          directives n true
      | some (.tagDirective handle start) =>
          modify fun s => { s with handles := [(handle, start)] }
          skip
          directives n versioned
      | _ => pure ()

def isDirective : Token → Bool
  | .versionDirective | .tagDirective _ _ => true
  | _ => false

/-- Whether a document has nothing in it. -/
def atContentEnd : NodeReader Bool := do
  return (← peek).all fun t => isDirective t || t == .documentStart || t == .documentEnd

/-- Passes over the marks that end documents. -/
def skipEnds : NodeReader Unit :=
  modify fun s => { s with rest := s.rest.dropWhile (· == .documentEnd) }

/-- The only document of a text; an empty text has an empty mapping. -/
def document (n : Nat) : NodeReader Node := do
  skipEnds
  let some first ← peek | return .mapping []
  let value ←
    if isDirective first || first == .documentStart then do
      directives n false
      expect .documentStart
      if ← atContentEnd then pure .null else node n true false
    else node n true false
  skipEnds
  if (← peek).isSome then failure
  return value

end NodeReader

/-- The value of a document; none if the text is not YAML, or more than one document. -/
def read? (text : String) : Option Datum := do
  let tokens ← tokens? text
  let (value, _) ← (NodeReader.document (4 * tokens.length + 4)).run ⟨tokens, [], [], []⟩
  value.datum?

end MockBuilders.Yaml
