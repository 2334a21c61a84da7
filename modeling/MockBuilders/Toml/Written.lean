import MockBuilders.Decimal.Layout
import MockBuilders.Toml.Quoted
import MockBuilders.Toml.Value

/-! Writing TOML. -/
namespace MockBuilders.Toml

/-- Numbers are written without exponents, whole ones with `.0`. -/
def layout : Decimal.Layout where
  tie := .up
  positional _ := true
  wholePoint := true
  exponentSign := ['+']

def floatText : Extended → String
  | .undefined => "nan"
  | x => x.text layout

mutual

/-- A value on one line. -/
def chars : Toml → List Char
  | string value => quoted value
  | integer value => (if value < 0 then ['-'] else []) ++ Decimal.digitChars value.natAbs
  | float value => (floatText value).toList
  | boolean true => ['t', 'r', 'u', 'e']
  | boolean false => ['f', 'a', 'l', 's', 'e']
  | moment text => text.toList
  | array items => '[' :: itemChars items ++ [']']
  | table [] => ['\x7b', '\x7d']
  | table (first :: members) => '\x7b' :: ' ' :: memberChars (first :: members) ++ [' ', '\x7d']

def itemChars : List Toml → List Char
  | [] => []
  | [item] => item.chars
  | item :: next :: items => item.chars ++ ',' :: ' ' :: itemChars (next :: items)

def memberChars : List (String × Toml) → List Char
  | [] => []
  | [(key, value)] => key.toList ++ ' ' :: '=' :: ' ' :: value.chars
  | (key, value) :: next :: members =>
      key.toList ++ ' ' :: '=' :: ' ' :: value.chars ++ ',' :: ' ' :: memberChars (next :: members)

end

/-- A list of two or more items has each of them on a line of its own. -/
def lineChars : Toml → List Char
  | array (first :: second :: rest) =>
      '[' :: '\n' ::
        (first :: second :: rest).flatMap (fun item =>
          [' ', ' ', ' ', ' '] ++ item.chars ++ [',', '\n']) ++
        [']']
  | value => value.chars

/-- A bare name with its value, on a line. -/
def assignment (key : String) (value : Toml) : List Char :=
  key.toList ++ ' ' :: '=' :: ' ' :: lineChars value ++ ['\n']

/-- A header and the assignments below it. -/
def headed (name : String) (members : Members Toml) : List Char :=
  '[' :: name.toList ++ ']' :: '\n' :: members.flatMap fun p => assignment p.1 p.2

end MockBuilders.Toml
