import MockBuilders.Datum

/-! Names of RON, and the words that stand for values. -/
namespace MockBuilders.Ron

def startsName (c : Char) : Bool := c.isAlpha || c == '_'

def isNameChar (c : Char) : Bool := c.isAlphanum || c == '_'

/-- Whether a name behind a mark may hold a character. -/
def isMarkedNameChar (c : Char) : Bool := isNameChar c || c == '.' || c == '+' || c == '-'

/-- The name that comes next, and what follows. A name that is not marked may not touch what only a
marked one could hold. -/
def name? : List Char → Option (List Char × List Char)
  | 'r' :: '#' :: cs =>
      if cs.takeWhile isMarkedNameChar = [] then none
      else some (cs.takeWhile isMarkedNameChar, cs.dropWhile isMarkedNameChar)
  | 'r' :: '"' :: _ => none
  | [] => none
  | c :: cs =>
      let rest := cs.dropWhile isNameChar
      if startsName c && !rest.head?.any isMarkedNameChar then
        some (c :: cs.takeWhile isNameChar, rest)
      else none

/-- What follows some characters, if they come next. -/
def after? (expected cs : List Char) : Option (List Char) :=
  if expected.isPrefixOf cs then some (cs.drop expected.length) else none

/-- What follows a word, if it comes next and no name goes on behind it. -/
def afterWord? (word : String) (cs : List Char) : Option (List Char) :=
  (after? word.toList cs).filter fun rest => !rest.head?.any isNameChar

/-- Words that stand for values. -/
def words : List (String × Datum) :=
  [("true", .boolean true), ("false", .boolean false), ("None", .nothing),
    ("inf", .float (.infinite false)), ("-inf", .float (.infinite true)),
    ("NaN", .float .undefined)]

/-- The value of the word that comes next, and what follows; empty parentheses are such a word. -/
def word? (cs : List Char) : Option (Datum × List Char) :=
  match after? ['(', ')'] cs with
  | some rest => some (.nothing, rest)
  | none => words.findSome? fun w => (afterWord? w.1 cs).map fun rest => (w.2, rest)

end MockBuilders.Ron
