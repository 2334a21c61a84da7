import MockBuilders.Text.Digits
import MockBuilders.Yaml.Glyph
import MockBuilders.Yaml.Leaf

/-! Text of YAML that is given by its indentation, with its line breaks or with blanks in their
place. -/
namespace MockBuilders.Yaml

/-- How line breaks at the end are kept. -/
inductive Chomping where
  | strip
  | clip
  | keep
  deriving DecidableEq

structure BlockHeader where
  /-- Whether line breaks become blanks. -/
  folds : Bool
  chomping : Chomping
  /-- Columns beyond the margin, if that is said. -/
  indent : Option Nat

namespace BlockHeader

def takeChomping : Glyphs → Option Chomping × Glyphs
  | [] => (none, [])
  | g :: gs =>
      if g.char = '-' then (some .strip, gs)
      else if g.char = '+' then (some .keep, gs)
      else (none, g :: gs)

def takeIndent : Glyphs → Option Nat × Glyphs
  | [] => (none, [])
  | g :: gs =>
      if '1' ≤ g.char ∧ g.char ≤ '9' then (some (Text.ofDigits 10 [g.char]), gs)
      else (none, g :: gs)

/-- The header behind the mark of a block. Its two signs stand in either order. -/
def read (folds : Bool) (gs : Glyphs) : BlockHeader × Glyphs :=
  let (first, gs) := takeChomping gs
  let (indent, gs) := takeIndent gs
  let (second, gs) := if first.isSome then (none, gs) else takeChomping gs
  (⟨folds, (first.or second).getD .clip, indent⟩, gs)

end BlockHeader

/-- The lines of a block. -/
structure BlockBody where
  lines : List (List Char)
  /-- Whether the text ends behind blanks that reach to the column of the block. -/
  padded : Bool
  rest : Glyphs

/-- The lines from a column on; blank lines belong to a block wherever they end. -/
def blockBody : Nat → Nat → Glyphs → BlockBody
  | 0, _, gs => ⟨[], false, gs⟩
  | _, _, [] => ⟨[], false, []⟩
  | n + 1, column, gs =>
      let line := gs.takeWhile fun g => !g.isBreak
      let next := gs.drop line.length
      let margin := (line.takeWhile fun g => g.char == ' ').length
      if margin < column ∧ margin < line.length then ⟨[], false, gs⟩
      else if line.length ≤ column ∧ margin = line.length ∧ next = [] then
        ⟨[], line.length = column, []⟩
      else
        let body := blockBody n column (next.drop 1)
        { body with lines := charsOf (line.drop column) :: body.lines }

/-- The column that the first line with something on it starts at, or a blank line before it ends
at, if that is further on. -/
def firstColumn : Nat → Glyphs → Nat
  | 0, _ => 0
  | n + 1, gs =>
      let margin := (gs.takeWhile fun g => g.char == ' ').length
      match gs.drop margin with
      | g :: rest => if g.isBreak then max margin (firstColumn n rest) else margin
      | [] => margin

def startsWithSpace (line : List Char) : Bool := line.head?.any isSpace

/-- Folds lines: between two that start at the margin, line breaks count as in plain text. -/
def foldedLines (before : Option Bool) (count : Nat) : List (List Char) → List Char
  | [] => []
  | [] :: lines => foldedLines before (count + 1) lines
  | line :: lines =>
      let breaks :=
        match before with
        | none => newlines count
        | some indented =>
            if indented || startsWithSpace line then newlines (count + 1) else folded (count + 1)
      breaks ++ line ++ foldedLines (some (startsWithSpace line)) 0 lines

def literalLines : List (List Char) → List Char
  | [] => []
  | [line] => line
  | line :: lines => line ++ '\n' :: literalLines lines

/-- The text of a block. Where the text around it ends, a block without content has a line break,
unless line breaks are not kept. -/
def blockText (header : BlockHeader) (body : BlockBody) : List Char :=
  let lines := (body.lines.reverse.dropWhile (· == [])).reverse
  let text := if header.folds then foldedLines none 0 lines else literalLines lines
  let blank := body.lines.length - lines.length
  match header.chomping with
  | .strip => text
  | .clip =>
      if lines = [] then newlines (if body.rest = [] then 1 else 0)
      else text ++ newlines (if body.padded then 2 else 1)
  | .keep =>
      if lines = [] then newlines (if body.rest = [] then max blank 1 else blank)
      else text ++ newlines (blank + if body.padded then 2 else 1)

/-- A block from its mark on, behind a margin. Its first line may not start between the margin and
the column of the block, nor with a tab. -/
def block? (margin : Int) : Glyphs → Option (Leaf × Glyphs)
  | [] => none
  | g :: gs =>
      let (header, rest) := BlockHeader.read (g.char == '>') gs
      match afterLineGap? rest with
      | none => none
      | some [] => some (⟨true, []⟩, [])
      | some (g :: content) =>
          let column :=
            match header.indent with
            | some n => (max margin 0).toNat + n
            | none => max (firstColumn (content.length + 1) content) (margin + 1).toNat
          let body := blockBody (content.length + 1) column content
          let start := (body.rest.takeWhile fun g => g.char == ' ').length
          if !g.isBreak || startsWith '\t' content then none
          else if body.lines.all (· == []) ∧ body.rest ≠ [] ∧ margin < start ∧ start < column then
            none
          else some (⟨true, blockText header body⟩, body.rest)

end MockBuilders.Yaml
