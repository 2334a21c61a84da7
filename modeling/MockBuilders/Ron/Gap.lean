/-! Blanks and comments of RON text. -/
namespace MockBuilders.Ron

def isBlank (c : Char) : Bool := c == ' ' || c == '\t' || c == '\n' || c == '\r'

/-- What the next character stands in. -/
inductive Gap where
  | blank
  | lineComment
  /-- A comment within so many others. -/
  | blockComment (depth : Nat)
  deriving DecidableEq, Repr

/-- What follows blanks and comments; none if a comment has no end. -/
def Gap.rest? : Gap → List Char → Option (List Char)
  | .blockComment _, [] => none
  | _, [] => some []
  | .blockComment depth, '/' :: '*' :: cs => rest? (.blockComment (depth + 1)) cs
  | .blockComment 0, '*' :: '/' :: cs => rest? .blank cs
  | .blockComment (depth + 1), '*' :: '/' :: cs => rest? (.blockComment depth) cs
  | .blockComment depth, _ :: cs => rest? (.blockComment depth) cs
  | .lineComment, c :: cs => rest? (if c = '\n' then .blank else .lineComment) cs
  | .blank, '/' :: '/' :: cs => rest? .lineComment cs
  | .blank, '/' :: '*' :: cs => rest? (.blockComment 0) cs
  | .blank, '/' :: _ => none
  | .blank, c :: cs => if isBlank c then rest? .blank cs else some (c :: cs)

def afterGap? (cs : List Char) : Option (List Char) := Gap.blank.rest? cs

/-- What follows a comma with blanks around it, and whether there is one. -/
def afterComma? (cs : List Char) : Option (Bool × List Char) :=
  match afterGap? cs with
  | some (',' :: rest) => (afterGap? rest).map fun rest => (true, rest)
  | some rest => some (false, rest)
  | none => none

end MockBuilders.Ron
