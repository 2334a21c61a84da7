/-! Scalars of YAML as texts. -/
namespace MockBuilders.Yaml

structure Leaf where
  /-- Whether the text has quotes, or is given by its indentation. -/
  quoted : Bool
  chars : List Char
  deriving DecidableEq, Repr

def newlines (count : Nat) : List Char := List.replicate count '\n'

/-- Line breaks between two parts of a text: a single one becomes a blank, of more one is lost. -/
def folded (breaks : Nat) : List Char := if breaks = 1 then [' '] else newlines (breaks - 1)

/-- What stands between two parts of a text. -/
inductive Seam where
  /-- Blanks, last first. -/
  | blanks (cs : List Char)
  /-- Line breaks, and blanks around them that do not count. -/
  | lines (breaks : Nat)
  /-- Line breaks behind one that is written as an escape. -/
  | joined (breaks : Nat)
  deriving DecidableEq, Repr

namespace Seam

def text : Seam → List Char
  | blanks cs => cs.reverse
  | lines breaks => folded breaks
  | joined breaks => newlines breaks

/-- Whether what follows starts a line. -/
def isBroken : Seam → Bool
  | blanks _ => false
  | lines _ | joined _ => true

def addBlank (c : Char) : Seam → Seam
  | blanks cs => blanks (c :: cs)
  | seam => seam

def addBreak : Seam → Seam
  | blanks _ => lines 1
  | lines breaks => lines (breaks + 1)
  | joined breaks => joined (breaks + 1)

end Seam

end MockBuilders.Yaml
