import MockBuilders.Yaml.Glyph
import MockBuilders.Yaml.Leaf

/-! Plain text of YAML, which goes on over lines that are indented by more than a margin, or over
any lines if it stands in brackets. -/
namespace MockBuilders.Yaml

/-- Whether plain text may go on with what comes next, which is no blank. -/
def staysPlain (flow : Bool) (gs : Glyphs) : Bool :=
  match gs with
  | [] => false
  | g :: rest =>
      if g.char = ':' then !(isolated rest || (flow && atFlowMark rest))
      else !(g.isBlank || g.isBreak || (flow && isFlowMark g.char))

/-- Plain text up to the next blank or to its end, and what follows. -/
def plainRun (flow : Bool) : Glyphs → List Char × Glyphs
  | [] => ([], [])
  | g :: gs =>
      if staysPlain flow (g :: gs) then (g.char :: (plainRun flow gs).1, (plainRun flow gs).2)
      else ([], g :: gs)

/-- What stands between two runs of plain text, and whether a line starts behind it. A line with
nothing but a comment behind a tab is no line break of the text. -/
structure PlainSeam where
  seam : Seam
  leads : Bool

namespace PlainSeam

def addBreak (s : PlainSeam) : PlainSeam :=
  match s.seam, s.leads with
  | .lines breaks, false => ⟨.lines breaks, true⟩
  | seam, _ => ⟨seam.addBreak, true⟩

/-- Takes the blanks and line breaks that come next. A tab may stand in the margin only if the line
has nothing but a comment. -/
def read? (margin : Int) : Nat → PlainSeam → Glyphs → Option (PlainSeam × Glyphs)
  | 0, s, gs => some (s, gs)
  | _, s, [] => some (s, [])
  | n + 1, s, g :: gs =>
      if g.isBreak then read? margin n s.addBreak gs
      else if !g.isBlank then some (s, g :: gs)
      else if s.leads && g.isTab && decide ((g.column : Int) ≤ margin) then
        let next := afterSpaces gs
        if startsWith '#' next then read? margin n { s with leads := false } (afterLine next)
        else if atLineEnd next then read? margin n s next
        else none
      else read? margin n (if s.leads then s else ⟨s.seam.addBlank g.char, false⟩) gs

end PlainSeam

/-- Plain text behind a seam, whether the text behind it starts a line, and that text. -/
def plainText? (flow : Bool) (margin : Int) : Nat → PlainSeam → Glyphs →
    Option (List Char × Bool × Glyphs)
  | 0, s, gs => some ([], s.leads, gs)
  | n + 1, s, gs =>
      if isAnyBound gs || startsWith '#' gs then some ([], s.leads, gs)
      else if flow && startsWith '-' gs && atFlowMark (gs.drop 1) then none
      else
        let (run, rest) := plainRun flow gs
        if run = [] then some ([], s.leads, gs)
        else
          match PlainSeam.read? margin (rest.length + 1) ⟨.blanks [], false⟩ rest with
          | none => none
          | some (next, after) =>
              let ends := !flow && after.head?.any fun g => decide ((g.column : Int) ≤ margin)
              if ends then some (s.seam.text ++ run, next.leads, after)
              else
                (plainText? flow margin n next after).map fun r =>
                  (s.seam.text ++ run ++ r.1, r.2)

/-- A plain scalar, whether what follows it starts a line, and what follows. In brackets, it starts
behind the margin. -/
def plain? (flow : Bool) (margin : Int) (gs : Glyphs) : Option (Leaf × Bool × Glyphs) :=
  if flow && gs.head?.any fun g => decide ((g.column : Int) ≤ margin) then none
  else
    (plainText? flow margin (gs.length + 1) ⟨.blanks [], false⟩ gs).map fun r => (⟨false, r.1⟩, r.2)

end MockBuilders.Yaml
