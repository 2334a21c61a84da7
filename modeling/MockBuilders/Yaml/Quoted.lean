import MockBuilders.Text.Digits
import MockBuilders.Yaml.Glyph
import MockBuilders.Yaml.Leaf

/-! Text of YAML in single or double quotes, which goes on over lines that start at a margin or
behind it. -/
namespace MockBuilders.Yaml

def unescape? (c : Char) : Option Char :=
  match c with
  | '0' => some '\x00'
  | 'a' => some '\x07'
  | 'b' => some '\x08'
  | 't' | '\t' => some '\t'
  | 'n' => some '\n'
  | 'v' => some '\x0b'
  | 'f' => some '\x0c'
  | 'r' => some '\r'
  | 'e' => some '\x1b'
  | ' ' => some ' '
  | '"' => some '"'
  | '/' => some '/'
  | '\\' => some '\\'
  | 'N' => some '\u0085'
  | '_' => some '\u00a0'
  | 'L' => some '\u2028'
  | 'P' => some '\u2029'
  | _ => none

/-- Digits of an escape that gives a code point. -/
def codeLength? (c : Char) : Option Nat :=
  match c with
  | 'x' => some 2
  | 'u' => some 4
  | 'U' => some 8
  | _ => none

/-- The character that an escape behind a backslash stands for, and what follows. -/
def escape? : Glyphs → Option (Char × Glyphs)
  | [] => none
  | g :: gs =>
      match codeLength? g.char with
      | some length =>
          if length ≤ gs.length then
            (Text.ofCodePoint? (charsOf (gs.take length))).map fun c => (c, gs.drop length)
          else none
      | none => (unescape? g.char).map fun c => (c, gs)

/-- What comes next in quoted text. -/
inductive QuotedStep where
  | closing (rest : Glyphs)
  /-- A line break written as an escape, which leaves nothing. -/
  | joint (rest : Glyphs)
  | char (c : Char) (rest : Glyphs)

namespace QuotedStep

/-- The step at a character that is no blank and no line break. -/
def read? (quote : Char) (g : Glyph) (gs : Glyphs) : Option QuotedStep :=
  if g.char = quote then
    if quote = '\'' ∧ startsWith '\'' gs then some (char '\'' (gs.drop 1)) else some (closing gs)
  else if quote = '"' ∧ g.char = '\\' then
    if startsWith '\n' gs then some (joint (gs.drop 1))
    else (escape? gs).map fun (c, rest) => char c rest
  else some (char g.char gs)

end QuotedStep

/-- Whether a line of quoted text may start here: at the margin or behind it, and with no bound of a
document. A closing quote may stand at the start of a line behind an escaped line break. -/
def startsLine (quote : Char) (margin : Int) (seam : Seam) (gs : Glyphs) : Bool :=
  (seam = .joined 0 && startsWith quote gs && gs.head?.all fun g => g.column == 0) ||
    (gs.head?.all fun g => decide (margin ≤ g.column)) && !isAnyBound gs

/-- Quoted text behind a seam up to its closing quote, and what follows. -/
def quotedText? (quote : Char) (margin : Int) : Nat → Seam → Glyphs →
    Option (List Char × Glyphs)
  | 0, _, _ | _, _, [] => none
  | n + 1, seam, g :: gs =>
      if g.isBreak then quotedText? quote margin n seam.addBreak gs
      else if g.isBlank then
        if seam.isBroken && g.isTab && decide ((g.column : Int) < margin) then none
        else quotedText? quote margin n (seam.addBlank g.char) gs
      else if seam.isBroken && !startsLine quote margin seam (g :: gs) then none
      else
        match QuotedStep.read? quote g gs with
        | none => none
        | some (.closing rest) => some (seam.text, rest)
        | some (.joint rest) =>
            (quotedText? quote margin n (.joined 0) rest).map fun r => (seam.text ++ r.1, r.2)
        | some (.char c rest) =>
            (quotedText? quote margin n (.blanks []) rest).map fun r =>
              (seam.text ++ c :: r.1, r.2)

/-- Text in quotes of either kind, and what follows. -/
def quoted? (margin : Int) : Glyphs → Option (Leaf × Glyphs)
  | [] => none
  | g :: gs =>
      (quotedText? g.char margin (gs.length + 1) (.blanks []) gs).map fun r => (⟨true, r.1⟩, r.2)

end MockBuilders.Yaml
