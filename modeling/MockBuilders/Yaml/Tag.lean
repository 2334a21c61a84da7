import MockBuilders.Text.Digits
import MockBuilders.Yaml.Glyph
import MockBuilders.Yaml.Token

/-! Tags of YAML, and the directives at the start of a document. -/
namespace MockBuilders.Yaml

/-- Whether a tag in angle brackets may hold a character. -/
def isTagChar (c : Char) : Bool :=
  c.isAlphanum || c == '-' || "#;/?:@&=+$,_.!~*'()[]%".toList.contains c

/-- Whether the end of any other tag may hold a character. -/
def isTagEndChar (c : Char) : Bool := isTagChar c && !isFlowMark c && c != '!'

/-- Bytes of a character that begins with a byte. -/
def byteCount? (lead : Nat) : Option Nat :=
  if lead < 0x80 then some 1
  else if lead < 0xC0 then none
  else if lead < 0xE0 then some 2
  else if lead < 0xF0 then some 3
  else if lead < 0xF8 then some 4
  else none

/-- A byte in two digits behind a percent sign, and what follows. -/
def byte? : Glyphs → Option (Nat × Glyphs)
  | a :: b :: c :: rest =>
      if a.char = '%' ∧ Text.isHexDigit b.char ∧ Text.isHexDigit c.char then
        some (Text.ofDigits 16 [b.char, c.char], rest)
      else none
  | _ => none

/-- Further bytes of a character, put behind those before them. -/
def furtherBytes? : Nat → Nat → Glyphs → Option (Nat × Glyphs)
  | 0, code, gs => some (code, gs)
  | n + 1, code, gs =>
      match byte? gs with
      | some (b, rest) =>
          if 0x80 ≤ b ∧ b < 0xC0 then furtherBytes? n (256 * code + b) rest else none
      | none => none

/-- A character that is written by its bytes, and what follows. Its code is that of the bytes one
after the other. -/
def byteChar? (gs : Glyphs) : Option (Char × Glyphs) := do
  let (lead, rest) ← byte? gs
  let count ← byteCount? lead
  let (code, rest) ← furtherBytes? (count - 1) lead rest
  if code.isValidChar then return (Char.ofNat code, rest) else failure

/-- The characters of a tag that are of some kind, and what follows. -/
def tagText? (holds : Char → Bool) : Nat → Glyphs → Option (List Char × Glyphs)
  | 0, gs => some ([], gs)
  | _, [] => some ([], [])
  | n + 1, g :: gs =>
      if !holds g.char then some ([], g :: gs)
      else if g.char = '%' then
        (byteChar? (g :: gs)).bind fun (c, rest) =>
          (tagText? holds n rest).map fun (cs, rest) => (c :: cs, rest)
      else (tagText? holds n gs).map fun (cs, rest) => (g.char :: cs, rest)

/-- The handle at the start of a tag: a word behind an exclamation mark, and another mark if there
is one. -/
def takeHandle (gs : Glyphs) : List Char × Glyphs :=
  let word := (gs.drop 1).takeWhile fun g => isWordChar g.char
  let rest := gs.drop (word.length + 1)
  if startsWith '!' rest then ('!' :: charsOf word ++ ['!'], rest.drop 1)
  else ('!' :: charsOf word, rest)

def isClosed (handle : List Char) : Bool := 2 ≤ handle.length && handle.getLast? == some '!'

/-- A tag in angle brackets behind their opening. -/
def verbatimTag? (gs : Glyphs) : Option (Token × Glyphs) :=
  match tagText? isTagChar gs.length gs with
  | some (cs, g :: rest) => if g.char = '>' then some (.tag "" (String.ofList cs), rest) else none
  | _ => none

/-- Any other tag. A handle that is not closed is a part of the tag. -/
def shortTag? (gs : Glyphs) : Option (Token × Glyphs) := do
  let (handle, rest) := takeHandle gs
  let (cs, rest) ← tagText? isTagEndChar rest.length rest
  if isClosed handle then
    if cs = [] then failure
    else return (.tag (String.ofList handle) (String.ofList cs), rest)
  else if handle.drop 1 ++ cs = [] then return (.tag "" "!", rest)
  else return (.tag "!" (String.ofList (handle.drop 1 ++ cs)), rest)

/-- A tag, which a blank or the end of an item in brackets has to follow. -/
def tag? (flow : Bool) (gs : Glyphs) : Option (Token × Glyphs) :=
  let read? := if startsWith '<' (gs.drop 1) then verbatimTag? (gs.drop 2) else shortTag? gs
  read?.filter fun r => isolated r.2 || (flow && atFlowMark r.2)

/-- Digits of a version, and what follows; there are up to nine of them. -/
def afterVersionPart? (gs : Glyphs) : Option Glyphs :=
  let digits := gs.takeWhile fun g => g.char.isDigit
  if digits ≠ [] ∧ digits.length ≤ 9 then some (gs.drop digits.length) else none

/-- The version that a directive gives. -/
def versionDirective? (gs : Glyphs) : Option (Token × Glyphs) :=
  match afterVersionPart? (afterSpaces gs) with
  | some (g :: rest) =>
      if g.char = '.' then (afterVersionPart? rest).map fun rest => (.versionDirective, rest)
      else none
  | _ => none

/-- The start of the tags with some handle. -/
def tagStart? (gs : Glyphs) : Option (List Char × Glyphs) :=
  if startsWith '!' gs then
    (tagText? isTagChar gs.length (gs.drop 1)).map fun (cs, rest) => ('!' :: cs, rest)
  else if gs.head?.any fun g => isTagEndChar g.char then tagText? isTagChar gs.length gs
  else none

/-- The handle that a directive gives, and the start of the tags with it. -/
def tagDirective? (gs : Glyphs) : Option (Token × Glyphs) := do
  let gs := afterSpaces gs
  if !startsWith '!' gs then failure
  let (handle, rest) := takeHandle gs
  if !isClosed handle && handle != ['!'] then failure
  let (start, rest) ← tagStart? (afterSpaces rest)
  if isolated rest then return (.tagDirective (String.ofList handle) (String.ofList start), rest)
  else failure

/-- A directive from its percent sign to the end of its line. One that is not known says nothing. -/
def directive? (gs : Glyphs) : Option (Token × Glyphs) := do
  let name := (gs.drop 1).takeWhile fun g => isWordChar g.char
  let rest := gs.drop (name.length + 1)
  if name = [] || !isolated rest then failure
  let (token, rest) ←
    match String.ofList (charsOf name) with
    | "YAML" => versionDirective? rest
    | "TAG" => tagDirective? rest
    | _ => some (.tagDirective "" "", afterLine rest)
  let rest ← afterLineGap? rest
  if atLineEnd rest then return (token, rest.drop 1) else failure

end MockBuilders.Yaml
