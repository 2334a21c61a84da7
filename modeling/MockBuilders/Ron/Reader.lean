import MockBuilders.Ron.Gap
import MockBuilders.Ron.Number
import MockBuilders.Ron.Quoted

/-!
Reading RON: lists, maps, and groups in parentheses, which are tables if their members have names
and arrays if not. What is in brackets counts against a limit, and so does each of its values.
-/
namespace MockBuilders.Ron

/-- What a document allows beyond the usual. -/
structure Allowances where
  /-- Whether a value that may be missing can be given without parentheses. -/
  bareOptions : Bool
  /-- Whether a value that may be missing can be a group whose parentheses are left out. -/
  openGroups : Bool

namespace Allowances

def none : Allowances := ⟨false, false⟩

def or (a b : Allowances) : Allowances :=
  ⟨a.bareOptions || b.bareOptions, a.openGroups || b.openGroups⟩

def names : List (String × Allowances) :=
  [("implicit_some", ⟨true, false⟩), ("unwrap_newtypes", none),
    ("unwrap_variant_newtypes", ⟨false, true⟩)]

def ofName? (cs : List Char) : Option Allowances :=
  (names.find? fun p => p.1.toList == cs).map Prod.snd

/-- What follows marks with blanks behind each of them. -/
def afterMarks? : List String → List Char → Option (List Char)
  | [], cs => some cs
  | mark :: marks, cs =>
      (after? mark.toList cs).bind fun rest => (afterGap? rest).bind (afterMarks? marks)

/-- Names with commas between them, and what follows. -/
def list? : Nat → List Char → Option (Allowances × List Char)
  | 0, _ => Option.none
  | n + 1, cs => do
      let (name, rest) ← name? cs
      let allowed ← ofName? name
      let (comma, rest) ← afterComma? rest
      if !rest.head?.any isNameChar then return (allowed, rest)
      else if comma then
        let (more, rest) ← list? n rest
        return (allowed.or more, rest)
      else failure

/-- What the attributes at the start of a document allow, and what follows them. -/
def read? : Nat → List Char → Option (Allowances × List Char)
  | n + 1, '#' :: cs => do
      let rest ← afterMarks? ["#", "!", "[", "enable", "("] ('#' :: cs)
      let (allowed, rest) ← list? cs.length rest
      let (more, rest) ← read? n (← afterMarks? [")", "]"] rest)
      return (allowed.or more, rest)
  | _, cs => some (none, cs)

end Allowances

/-- A name in a map. -/
inductive MapKey where
  | character (value : String)
  | string (value : String)

/-- The name that comes next, and what follows. -/
def MapKey.read? (cs : List Char) : Option (MapKey × List Char) :=
  match character? cs, string? cs with
  | some (c, rest), _ => some (.character (String.ofList [c]), rest)
  | none, some (text, rest) => some (.string (String.ofList text), rest)
  | none, none => none

/-- The members of a map. A string wins over a character of the same text. -/
structure MapMembers where
  characters : Members Datum
  strings : Members Datum

namespace MapMembers

def empty : MapMembers := ⟨[], []⟩

def put (m : MapMembers) (key : MapKey) (value : Datum) : MapMembers :=
  match key with
  | .character key => { m with characters := m.characters.put key value }
  | .string key => { m with strings := m.strings.put key value }

def table (m : MapMembers) : Datum :=
  .table (m.strings.foldl (fun all p => Members.put all p.1 p.2) m.characters)

end MapMembers

mutual

/-- The value that comes next, and what follows. -/
def value? (n : Nat) (a : Allowances) (depth : Nat) (cs : List Char) :
    Option (Datum × List Char) :=
  match n with
  | 0 => none
  | n + 1 =>
      match word? cs, afterWord? "Some" cs, name? cs with
      | some found, _, _ => some found
      | none, some rest, _ => option? n a depth rest
      | none, none, some (_, rest) =>
          match afterGap? rest with
          | some ('(' :: inner) => group? n a depth inner
          | rest => rest.map fun rest => (.nothing, rest)
      | none, none, none =>
          match cs with
          | '(' :: inner => group? n a depth inner
          | '[' :: inner => array? n a depth ']' inner
          | '\x7b' :: inner => map? n a depth inner
          | '\'' :: _ => (character? cs).map fun (c, rest) => (.string (String.ofList [c]), rest)
          | c :: _ =>
              if c = '"' ∨ c = 'r' then
                (string? cs).map fun (text, rest) => (.string (String.ofList text), rest)
              else if c.isDigit ∨ c = '+' ∨ c = '-' ∨ c = '.' then number? cs
              else none
          | [] => none

/-- A value that may be missing, behind the word that says that it is there. -/
def option? (n : Nat) (a : Allowances) (depth : Nat) (cs : List Char) :
    Option (Datum × List Char) :=
  match n, depth, afterGap? cs with
  | n + 1, depth + 1, some ('(' :: inner) =>
      if a.openGroups then group? n a depth inner
      else do
        let (value, rest) ← value? n a depth (← afterGap? inner)
        match ← afterComma? rest with
        | (_, ')' :: rest) => return (value, rest)
        | _ => failure
  | n + 1, depth + 1, some rest => if a.bareOptions then value? n a depth rest else none
  | _, _, _ => none

/-- A group behind its opening parenthesis: a table if a name and a colon come first. -/
def group? (n : Nat) (a : Allowances) (depth : Nat) (cs : List Char) :
    Option (Datum × List Char) :=
  match n with
  | 0 => none
  | n + 1 => do
      let cs ← afterGap? cs
      match name? cs with
      | none => array? n a depth ')' cs
      | some (_, rest) =>
          match ← afterGap? rest with
          | ':' :: _ => fields? n a depth cs
          | [] => failure
          | _ => array? n a depth ')' cs

/-- An array behind its opening bracket. -/
def array? (n : Nat) (a : Allowances) (depth : Nat) (closing : Char) (cs : List Char) :
    Option (Datum × List Char) :=
  match n, depth with
  | n + 1, depth + 1 =>
      (items? n a depth closing [] true cs).map fun (items, rest) => (.array items, rest)
  | _, _ => none

/-- The items up to a closing bracket, with those that have been read last first. -/
def items? (n : Nat) (a : Allowances) (depth : Nat) (closing : Char) (done : List Datum)
    (comma : Bool) (cs : List Char) : Option (List Datum × List Char) :=
  match n, afterGap? cs with
  | n + 1, some (c :: cs) =>
      if c = closing then some (done.reverse, cs)
      else
        match comma, depth with
        | true, inner + 1 => do
            let (item, rest) ← value? n a inner (c :: cs)
            let (comma, rest) ← afterComma? rest
            items? n a (inner + 1) closing (item :: done) comma rest
        | _, _ => none
  | _, _ => none

/-- A table of named members behind its opening parenthesis. -/
def fields? (n : Nat) (a : Allowances) (depth : Nat) (cs : List Char) :
    Option (Datum × List Char) :=
  match n, depth with
  | n + 1, depth + 1 =>
      (namedMembers? n a depth [] true cs).map fun (members, rest) => (.table members, rest)
  | _, _ => none

/-- The named members up to the closing parenthesis. -/
def namedMembers? (n : Nat) (a : Allowances) (depth : Nat) (done : Members Datum) (comma : Bool)
    (cs : List Char) : Option (Members Datum × List Char) :=
  match n, afterGap? cs with
  | n + 1, some (c :: cs) =>
      if c = ')' then some (done, cs)
      else if comma then do
        let (name, rest) ← name? (c :: cs)
        let (value, comma, rest) ← memberValue? n a depth rest
        namedMembers? n a depth (done.put (String.ofList name) value) comma rest
      else none
  | _, _ => none

/-- A map behind its opening brace. -/
def map? (n : Nat) (a : Allowances) (depth : Nat) (cs : List Char) : Option (Datum × List Char) :=
  match n, depth with
  | n + 1, depth + 1 =>
      (mapMembers? n a depth .empty true cs).map fun (members, rest) => (members.table, rest)
  | _, _ => none

/-- The members of a map up to its closing brace. -/
def mapMembers? (n : Nat) (a : Allowances) (depth : Nat) (done : MapMembers) (comma : Bool)
    (cs : List Char) : Option (MapMembers × List Char) :=
  match n, afterGap? cs with
  | n + 1, some (c :: cs) =>
      if c = '\x7d' then some (done, cs)
      else if comma then do
        let (key, rest) ← MapKey.read? (c :: cs)
        let (value, comma, rest) ← memberValue? n a depth rest
        mapMembers? n a depth (done.put key value) comma rest
      else none
  | _, _ => none

/-- The value of a member behind its name, whether a comma follows it, and what follows then. -/
def memberValue? (n : Nat) (a : Allowances) (depth : Nat) (cs : List Char) :
    Option (Datum × Bool × List Char) :=
  match n, depth, afterGap? cs with
  | n + 1, inner + 1, some (':' :: cs) => do
      let (value, rest) ← value? n a inner (← afterGap? cs)
      let (comma, rest) ← afterComma? rest
      return (value, comma, rest)
  | _, _, _ => none

end

/-- The limit of brackets and values within each other. -/
def depthLimit : Nat := 128

/-- The value of a document; none if the text is not RON. -/
def read? (text : String) : Option Datum := do
  let cs ← afterGap? text.toList
  let (allowed, cs) ← Allowances.read? cs.length cs
  let (value, rest) ← value? (4 * cs.length + 4) allowed depthLimit cs
  match ← afterGap? rest with
  | [] => return value
  | _ => failure

end MockBuilders.Ron
