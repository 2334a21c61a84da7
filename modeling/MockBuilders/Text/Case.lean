import MockBuilders.Text.CaseTable

/-!
Text in lower case. A capital sigma at the end of a word becomes a final one; every other character
changes on its own.
-/
namespace MockBuilders.Text

namespace CaseRun

def holds (r : CaseRun) (c : Char) : Bool :=
  decide (r.first ≤ c.toNat ∧ c.toNat ≤ r.last) && (c.toNat - r.first) % r.step == 0

def lowered (r : CaseRun) (c : Char) : Char := Char.ofNat (r.lower + (c.toNat - r.first))

end CaseRun

/-- The lower-case form of a character on its own; the dotted capital I keeps its dot. -/
def lowerChar (c : Char) : List Char :=
  if c.toNat < 128 then [c.toLower]
  else if c = '\u0130' then ['i', '\u0307']
  else
    match caseRuns.find? fun r => r.holds c with
    | some r => [r.lowered c]
    | none => [c]

/-- Whether the next character that counts has letter case. -/
def meetsCased (cs : List Char) : Bool :=
  ((cs.dropWhile caseIgnorable.holds).head?.map cased.holds).getD false

/-- The text in lower case, behind text that is given last character first. -/
def lowerAfter : List Char → List Char → List Char
  | _, [] => []
  | before, c :: cs =>
      if c = '\u03a3' then
        (if meetsCased before && !meetsCased cs then '\u03c2' else '\u03c3') ::
          lowerAfter (c :: before) cs
      else lowerChar c ++ lowerAfter (c :: before) cs

def lower (s : String) : String := String.ofList (lowerAfter [] s.toList)

end MockBuilders.Text
