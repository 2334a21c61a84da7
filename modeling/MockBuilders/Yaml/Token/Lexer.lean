import MockBuilders.Yaml.Block
import MockBuilders.Yaml.Token.Lexing
import MockBuilders.Yaml.Plain
import MockBuilders.Yaml.Quoted
import MockBuilders.Yaml.Tag

/-! Reading the tokens of YAML text. A step reads one token, and the starts and ends of collections
that come with it. -/
namespace MockBuilders.Yaml

namespace Lexing

/-- The limit of brackets within each other. -/
def depthLimit : Nat := 255

/-- Goes on behind a bracket that opens. -/
def openBracket (s : Lexing) (t : Token) : Option Lexing := do
  if depthLimit ≤ s.depth then failure
  let s := s.propose.enterMargin
  let s := { s with
    candidates := none :: s.candidates
    depth := s.depth + 1
    fresh := true
    marked := s.marked || t == Token.flowMappingStart }
  return (← s.skipLineGap (s.rest.drop 1)).push t

/-- Goes on behind a bracket that closes. -/
def closeBracket (s : Lexing) (t : Token) : Option Lexing := do
  let s ← s.dropCandidate?
  let s := if s.inBrackets then
      { s with candidates := s.candidates.drop 1, depth := s.depth - 1 }
    else s
  let s ← { s with fresh := false }.endUnmarked.skipLineGap (s.rest.drop 1)
  return (if s.inBrackets then { s with adjacent := s.here } else s).push t

/-- Goes on behind a comma. -/
def comma (s : Lexing) : Option Lexing := do
  let s ← s.dropCandidate?
  let s ← { s with fresh := true }.endUnmarked.skipLineGap (s.rest.drop 1)
  return s.push .flowEntry

/-- Goes on behind a dash. A tab does not part it from another one. -/
def dash (s : Lexing) (g : Glyph) : Option Lexing := do
  if s.inBrackets || !s.fresh then failure
  let gs := s.rest.drop 1
  let s ← (s.enterNext g.column .blockSequenceStart).skipLineGap gs
  let tabbed := (gs.takeWhile Glyph.isBlank).any Glyph.isTab
  if tabbed && startsWith '-' s.rest && isolated (s.rest.drop 1) then failure
  let opens := s.rest.head?.any fun g => g.isBreak || isFlowMark g.char
  let s ← (if opens then s.enterMargin else s).dropCandidate?
  return { s with fresh := true }.push .blockEntry

/-- What follows the gap behind a question mark. There has to be a blank in it, and no tab. -/
def afterQuestion? (blank : Bool) : Gap → Glyphs → Option Glyphs
  | _, [] => if blank then some [] else none
  | gap, g :: gs =>
      if g.isBreak then afterQuestion? true .blank gs
      else if gap = .comment ∨ g.char = '#' then afterQuestion? blank .comment gs
      else if g.char = ' ' then afterQuestion? true gap gs
      else if blank && !g.isTab then some (g :: gs)
      else none

/-- Goes on behind a question mark. -/
def question (s : Lexing) (g : Glyph) : Option Lexing := do
  if !s.inBrackets && !s.fresh then failure
  let s :=
    if s.inBrackets then { s with marked := true } else s.enterNext g.column .blockMappingStart
  let s ← s.dropCandidate?
  let rest ← afterQuestion? false .blank (s.rest.drop 1)
  return { s with fresh := !s.inBrackets, rest }.push .key

/-- What follows a colon. A tab alone does not part it from a word. -/
def afterColon? (gs : Glyphs) : Option Glyphs := do
  if !startsWith '\t' gs then return gs
  let next ← afterLineGap? gs
  let tabs := (gs.takeWhile Glyph.isBlank).all Glyph.isTab
  if tabs && next.head?.any fun g => isWordChar g.char then failure else return next

/-- Takes a value behind it for a name. -/
def name (s : Lexing) (c : Candidate) (g : Glyph) : Option Lexing := do
  let s := s.insertAt c.place .key
  if s.unmarked && decide (c.line < g.line) then failure
  let s := if s.unmarked then s.insertAt c.place .flowMappingStart else s
  let s := (s.enter c.column c.place .blockMappingStart).enterMargin
  return { s with candidates := none :: s.candidates.drop 1, fresh := false }

/-- A colon without a name on its line. -/
def nameless (s : Lexing) (g : Glyph) : Option Lexing := do
  let s := if s.unmarked then s.push .flowMappingStart else s
  if !s.inBrackets && !s.fresh then failure
  let s := (s.enterNext g.column .blockMappingStart).enterMargin
  return { s with fresh := !s.inBrackets }

/-- Goes on behind a colon. -/
def colon (s : Lexing) (g : Glyph) : Option Lexing := do
  let rest ← afterColon? (s.rest.drop 1)
  let s := { s with unmarked := s.inBrackets && !s.marked, rest }
  let s ← match s.candidate? with
    | some c => s.name c g
    | none => s.nameless g
  return s.push .value

/-- A word behind the mark of an anchor or of a reference to one. -/
def anchor (s : Lexing) (token : String → Token) : Option Lexing :=
  let gs := s.rest.drop 1
  let word := gs.takeWhile fun g =>
    !(g.isBlank || g.isBreak || g.char == '\ufeff' || isFlowMark g.char)
  if word = [] then none
  else
    some ({ s.propose with fresh := false, rest := gs.drop word.length }.push
      (token (String.ofList (charsOf word))))

def tag (s : Lexing) : Option Lexing :=
  (tag? s.inBrackets s.rest).map fun (t, rest) =>
    { s.propose with fresh := false, rest }.push t

/-- A scalar that is given by its indentation. -/
def block (s : Lexing) : Option Lexing :=
  let s := s.propose.leaveMargins
  (block? s.column s.rest).map fun (l, rest) => { s with fresh := true, rest }.push (.scalar l)

/-- Whether what is on the line behind a quote may stand there. -/
def mayFollowQuote (s : Lexing) (line : Nat) (rest : Glyphs) : Bool :=
  atLineEnd rest || rest.head?.any fun g =>
    if g.char = ':' then s.inBrackets || g.line == line
    else s.inBrackets && (g.char == ',' || g.char == ']' || g.char == '\x7d')

def quoted (s : Lexing) (g : Glyph) : Option Lexing := do
  let s := { s.propose with fresh := false }
  let (l, rest) ← quoted? s.column s.rest
  let rest ← afterLineGap? rest
  if !s.mayFollowQuote g.line rest then failure
  let (broken, rest) ← afterGap? s.column rest
  let s := { s with fresh := s.fresh || broken && !s.inBrackets, rest }
  return { s with adjacent := s.here }.push (.scalar l)

def plain (s : Lexing) : Option Lexing := do
  let s := s.propose.leaveMargins
  let (l, leads, rest) ← plain? s.inBrackets s.column s.rest
  return { s with fresh := leads, rest }.push (.scalar l)

/-- Goes on behind the three characters that bound a document. -/
def bound (s : Lexing) (t : Token) : Option Lexing := do
  let s ← (s.leave (-1)).dropCandidate?
  let s := { s with fresh := false, rest := s.rest.drop 3 }.push t
  if t = .documentStart then return s
  let s ← s.skipLineGap s.rest
  if atLineEnd s.rest then return s else failure

def directive (s : Lexing) : Option Lexing := do
  let s ← (s.leave (-1)).dropCandidate?
  let (t, rest) ← directive? s.rest
  return { s with fresh := false, rest }.push t

/-- Whether a colon here parts a name from its value. -/
def isColon (s : Lexing) (g : Glyph) (next : Glyphs) : Bool :=
  isolated next ||
    s.inBrackets && (atFlowMark next || s.adjacent = some (g.line, g.column))

/-- Reads what begins with a character. -/
def token (s : Lexing) (g : Glyph) (next : Glyphs) : Option Lexing :=
  match g.char with
  | '[' => s.openBracket .flowSequenceStart
  | '\x7b' => s.openBracket .flowMappingStart
  | ']' => s.closeBracket .flowSequenceEnd
  | '\x7d' => s.closeBracket .flowMappingEnd
  | ',' => s.comma
  | '-' => if isolated next then s.dash g else s.plain
  | '?' => if isolated next then s.question g else s.plain
  | ':' => if s.isColon g next then s.colon g else s.plain
  | '*' => s.anchor .reference
  | '&' => s.anchor .anchor
  | '!' => s.tag
  | '|' | '>' => if s.inBrackets then s.plain else s.block
  | '\'' | '"' => s.quoted g
  | '%' | '@' | '\x60' => none
  | _ => s.plain

/-- Ends all collections outside of brackets. -/
def finish (s : Lexing) : Option (List Token) :=
  if s.candidates.any fun c => c.any Candidate.required then none
  else some (s.leave (-1)).tokens.reverse

/-- Reads tokens up to the end of the text. -/
def run? : Nat → Lexing → Option (List Token)
  | 0, _ => none
  | n + 1, s => do
      let (broken, rest) ← afterGap? s.column s.rest
      let s ← { s with fresh := s.fresh || broken && !s.inBrackets, rest }.dropStale?
      match rest with
      | [] => s.finish
      | g :: next =>
          let s := s.leave g.column
          let s ←
            if g.column = 0 ∧ g.char = '%' then s.directive
            else if isBound '-' rest then s.bound .documentStart
            else if isBound '.' rest then s.bound .documentEnd
            else if (g.column : Int) < s.column then none
            else s.token g next
          run? n s

end Lexing

/-- The tokens of a text. -/
def tokens? (text : String) : Option (List Token) :=
  let gs := glyphs text
  (Lexing.start gs).run? (gs.length + 1)

end MockBuilders.Yaml
