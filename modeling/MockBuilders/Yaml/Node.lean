import MockBuilders.Datum
import MockBuilders.Decimal.Reading
import MockBuilders.Text.Digits
import MockBuilders.Yaml.Leaf

/-! Values of YAML, and the settings that they stand for. -/
namespace MockBuilders.Yaml

/-- A text, a number or a truth value, which may be a name in a mapping. Names of different kinds
differ even if they are written alike. -/
inductive Name where
  | string (value : String)
  | integer (value : Int)
  | boolean (value : Bool)
  | real (text : String)
  deriving DecidableEq, Repr

def Name.text : Name → String
  | string value => value
  | integer value => Scalar.integerText value
  | boolean value => Scalar.booleanText value
  | real text => text

inductive Node where
  /-- A value that is not what its tag says, or whose name stands for nothing yet. -/
  | missing
  | null
  | scalar (value : Name)
  | sequence (items : List Node)
  | mapping (members : List (Name × Node))

namespace Node

/-- Digits with or without a sign, in a signed word of 64 bits. -/
def signed? (base : Nat) (isDigit : Char → Bool) (cs : List Char) : Option Int :=
  let (negative, ds) := Numeral.sign cs
  if ds ≠ [] ∧ ds.all isDigit then
    (some (if negative then -(Text.ofDigits base ds : Int) else Text.ofDigits base ds)).filter
      Numeral.isWord
  else none

def decimal? : List Char → Option Int := signed? 10 Char.isDigit

def integer? (cs : List Char) : Option Int :=
  match cs with
  | '0' :: 'x' :: ds => signed? 16 Text.isHexDigit ds
  | '0' :: 'o' :: ds => signed? 8 Text.isOctalDigit ds
  | '+' :: ds => decimal? ds
  | cs => decimal? cs

/-- Names of numbers that are recognised as such and have no value here. -/
def unreadable : List String :=
  [".inf", ".Inf", ".INF", "+.inf", "+.Inf", "+.INF", "-.inf", "-.Inf", "-.INF", ".nan", ".NAN"]

def isReal (text : String) : Bool :=
  unreadable.contains text || (Extended.read? text.toList).isSome

/-- What plain text stands for. -/
def ofPlain (text : String) : Node :=
  if text = "~" ∨ text = "null" then null
  else if text = "true" then scalar (.boolean true)
  else if text = "false" then scalar (.boolean false)
  else
    match integer? text.toList with
    | some n => scalar (.integer n)
    | none => scalar (if isReal text then .real text else .string text)

/-- Where the tags for common kinds of values begin. -/
def commonTags : String := "tag:yaml.org,2002:"

/-- What plain text with a common tag stands for. -/
def ofTagged (tag text : String) : Node :=
  if tag = "bool" then if text = "true" ∨ text = "false" then ofPlain text else missing
  else if tag = "int" then ((decimal? text.toList).map fun n => scalar (.integer n)).getD missing
  else if tag = "float" then if isReal text then scalar (.real text) else missing
  else if tag = "null" then if text = "~" ∨ text = "null" then null else missing
  else scalar (.string text)

/-- What a leaf stands for, given the start and the end of its tag. -/
def ofLeaf (tag : Option (String × String)) (l : Leaf) : Node :=
  let text := String.ofList l.chars
  if l.quoted then scalar (.string text)
  else
    match tag with
    | none => ofPlain text
    | some (start, tag) => if start = commonTags then ofTagged tag text else scalar (.string text)

/-- The members of a mapping whose names and values come one after the other. A missing value gives
no name, so that the next value is taken for one; a name without a value is dropped. -/
def members? (done : List (Name × Node)) : Option Node → List Node → Option (List (Name × Node))
  | _, [] => some done
  | none, .missing :: nodes => members? done none nodes
  | none, node :: nodes => members? done (some node) nodes
  | some (.scalar key), node :: nodes =>
      if done.any fun p => p.1 == key then none else members? (done ++ [(key, node)]) none nodes
  | some _, _ => none

/-- A mapping; none if a name is there twice, or is no plain or quoted text. -/
def ofChildren? (nodes : List Node) : Option Node := (members? [] none nodes).map mapping

mutual

/-- What a value says; none if a number in it has no value here. -/
def datum? : Node → Option Datum
  | missing | null => some .nothing
  | scalar (.string value) => some (.string value)
  | scalar (.integer value) => some (.integer value)
  | scalar (.boolean value) => some (.boolean value)
  | scalar (.real text) => (Extended.read? text.toList).map .float
  | sequence items => (data? items).map .array
  | mapping members => (memberData? [] members).map .table

def data? : List Node → Option (List Datum)
  | [] => some []
  | item :: items =>
      match datum? item, data? items with
      | some d, some ds => some (d :: ds)
      | _, _ => none

/-- Members by the texts of their names. -/
def memberData? (done : Members Datum) : List (Name × Node) → Option (Members Datum)
  | [] => some done
  | (key, node) :: members =>
      match datum? node with
      | some d => memberData? (done.put key.text d) members
      | none => none

end

end Node

end MockBuilders.Yaml
