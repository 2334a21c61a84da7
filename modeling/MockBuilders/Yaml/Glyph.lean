/-! Characters of YAML text with their places. Indentation is structure, so the reader has to know
where a character stands. -/
namespace MockBuilders.Yaml

structure Glyph where
  char : Char
  line : Nat
  column : Nat
  /-- Whether nothing but blanks comes before it on its line. -/
  leads : Bool
  deriving DecidableEq, Repr

abbrev Glyphs := List Glyph

def isSpace (c : Char) : Bool := c == ' ' || c == '\t'

/-- Characters that part the items of collections in brackets. -/
def isFlowMark (c : Char) : Bool :=
  c == ',' || c == '[' || c == ']' || c == '\x7b' || c == '\x7d'

def isWordChar (c : Char) : Bool := c.isAlphanum || c == '_' || c == '-'

namespace Glyph

def isBreak (g : Glyph) : Bool := g.char == '\n'

def isBlank (g : Glyph) : Bool := isSpace g.char

def isTab (g : Glyph) : Bool := g.char == '\t'

end Glyph

/-- The characters of a text up to a NUL; all line breaks become one. -/
def glyphsFrom (line column : Nat) (leads : Bool) : List Char → Glyphs
  | [] => []
  | '\x00' :: _ => []
  | '\r' :: '\n' :: cs => ⟨'\n', line, column, leads⟩ :: glyphsFrom (line + 1) 0 true cs
  | c :: cs =>
      if c = '\n' ∨ c = '\r' then ⟨'\n', line, column, leads⟩ :: glyphsFrom (line + 1) 0 true cs
      else ⟨c, line, column, leads⟩ :: glyphsFrom line (column + 1) (leads && isSpace c) cs

def glyphs (text : String) : Glyphs := glyphsFrom 0 0 true text.toList

def charsOf (gs : Glyphs) : List Char := gs.map Glyph.char

/-- Whether a character comes next. -/
def startsWith (c : Char) (gs : Glyphs) : Bool := gs.head?.any fun g => g.char == c

/-- Whether a line break or the end comes next. -/
def atLineEnd (gs : Glyphs) : Bool := gs.head?.all Glyph.isBreak

/-- Whether a blank, a line break or the end comes next. -/
def isolated (gs : Glyphs) : Bool := gs.head?.all fun g => g.isBlank || g.isBreak

/-- Whether a mark of a collection in brackets comes next. -/
def atFlowMark (gs : Glyphs) : Bool := gs.head?.any fun g => isFlowMark g.char

def afterSpaces (gs : Glyphs) : Glyphs := gs.dropWhile Glyph.isBlank

def afterLine (gs : Glyphs) : Glyphs := gs.dropWhile fun g => !g.isBreak

/-- What follows blanks and a comment on a line; none if the comment touches what is before it. -/
def afterLineGap? (gs : Glyphs) : Option Glyphs :=
  let next := afterSpaces gs
  if startsWith '#' next then
    if gs.head?.any Glyph.isBlank then some (afterLine next) else none
  else some next

/-- Whether three dashes or three points at the start of a line bound a document. -/
def isBound (mark : Char) (gs : Glyphs) : Bool :=
  match gs with
  | a :: b :: c :: rest =>
      a.column == 0 && a.char == mark && b.char == mark && c.char == mark && isolated rest
  | _ => false

def isAnyBound (gs : Glyphs) : Bool := isBound '-' gs || isBound '.' gs

/-- What the next character stands in. -/
inductive Gap where
  | blank
  /-- Behind a tab in the margin of a line, which then has to be blank. -/
  | margin
  | comment
  deriving DecidableEq

/-- What follows blanks, line breaks and comments, and whether there are line breaks. A tab may not
stand in the margin of a line with anything but a comment on it. -/
def afterGapFrom? (margin : Int) (broken : Bool) : Gap → Glyphs → Option (Bool × Glyphs)
  | _, [] => some (broken, [])
  | gap, g :: gs =>
      if g.isBreak then afterGapFrom? margin true .blank gs
      else if gap = .comment ∨ g.char = '#' then afterGapFrom? margin broken .comment gs
      else if g.isBlank then
        let inMargin : Bool := g.isTab && g.leads && decide ((g.column : Int) < margin)
        afterGapFrom? margin broken (if inMargin then .margin else gap) gs
      else if gap = .margin then none
      else some (broken, g :: gs)

def afterGap? (margin : Int) (gs : Glyphs) : Option (Bool × Glyphs) :=
  afterGapFrom? margin false .blank gs

end MockBuilders.Yaml
