import MockBuilders.Json5.Bracketed
import MockBuilders.Json.Lexeme
import MockBuilders.Text.Blank

/-! The tokens of JSON5 text. The reader takes one character at a time; its state says what the
character stands in. -/
namespace MockBuilders.Json5

/-- What the next character stands in. Names and strings that are being read have their last
character first. -/
inductive Place where
  | outside
  | word (cs : List Char)
  /-- Behind the first slash of a comment. -/
  | slash
  | lineComment
  | blockComment (star : Bool)
  | quoted (quote : Char) (pieces : List Lexeme.Piece)
  /-- Behind a backslash. -/
  | escape (quote : Char) (pieces : List Lexeme.Piece)
  /-- In an escape of digits to the base 16. -/
  | digits (quote : Char) (pieces : List Lexeme.Piece) (isUnit : Bool) (left value : Nat)
  /-- Behind a carriage return that goes on with the string. -/
  | joined (quote : Char) (pieces : List Lexeme.Piece)

structure TokenState where
  /-- Last first. -/
  tokens : List BracketedToken
  place : Place

namespace TokenState

def start : TokenState := ⟨[], .outside⟩

def isLineBreak (c : Char) : Bool :=
  c == '\n' || c == '\r' || c == '\u2028' || c == '\u2029'

def isBlank (c : Char) : Bool := (Text.isBlank c && c != '\u0085') || c == '\ufeff'

def isMark (c : Char) : Bool :=
  c == '[' || c == ']' || c == '\x7b' || c == '\x7d' || c == ',' || c == ':'

def outside (tokens : List BracketedToken) (c : Char) : TokenState :=
  if isBlank c then ⟨tokens, .outside⟩
  else if isMark c then ⟨.mark c :: tokens, .outside⟩
  else if c = '"' ∨ c = '\'' then ⟨tokens, .quoted c []⟩
  else if c = '/' then ⟨tokens, .slash⟩
  else ⟨tokens, .word [c]⟩

def endsWord (c : Char) : Bool :=
  isBlank c || isMark c || c == '"' || c == '\'' || c == '/'

def quoted (tokens : List BracketedToken) (quote : Char) (pieces : List Lexeme.Piece) (c : Char) :
    Option TokenState :=
  if c = quote then
    (Lexeme.join? pieces.reverse).map fun cs => ⟨.text (String.ofList cs) :: tokens, .outside⟩
  else if c = '\\' then some ⟨tokens, .escape quote pieces⟩
  else if isLineBreak c then none
  else some ⟨tokens, .quoted quote (.char c :: pieces)⟩

/-- The character that an escape of one letter stands for; other characters stand for
themselves. -/
def unescape (c : Char) : Char :=
  match c with
  | 'b' => '\x08'
  | 'f' => '\x0c'
  | 'n' => '\n'
  | 'r' => '\r'
  | 't' => '\t'
  | 'v' => '\x0b'
  | '0' => '\x00'
  | c => c

def escape (tokens : List BracketedToken) (quote : Char) (pieces : List Lexeme.Piece) (c : Char) :
    Option TokenState :=
  if c = '\r' then some ⟨tokens, .joined quote pieces⟩
  else if isLineBreak c then some ⟨tokens, .quoted quote pieces⟩
  else if c = 'x' then some ⟨tokens, .digits quote pieces false 2 0⟩
  else if c = 'u' then some ⟨tokens, .digits quote pieces true 4 0⟩
  else if '1' ≤ c ∧ c ≤ '9' then none
  else some ⟨tokens, .quoted quote (.char (unescape c) :: pieces)⟩

def digits (tokens : List BracketedToken) (quote : Char) (pieces : List Lexeme.Piece)
    (isUnit : Bool) (left value : Nat) (c : Char) : Option TokenState :=
  (Text.hexValue? c).map fun d =>
    let value := 16 * value + d
    if 1 < left then ⟨tokens, .digits quote pieces isUnit (left - 1) value⟩
    else
      let piece := if isUnit then Lexeme.Piece.unit value else .char (Char.ofNat value)
      ⟨tokens, .quoted quote (piece :: pieces)⟩

def step (s : TokenState) (c : Char) : Option TokenState :=
  match s.place with
  | .outside => some (outside s.tokens c)
  | .word cs =>
      if endsWord c then some (outside (.word cs.reverse :: s.tokens) c)
      else some ⟨s.tokens, .word (c :: cs)⟩
  | .slash =>
      if c = '/' then some ⟨s.tokens, .lineComment⟩
      else if c = '*' then some ⟨s.tokens, .blockComment false⟩
      else none
  | .lineComment => some (if isLineBreak c then ⟨s.tokens, .outside⟩ else s)
  | .blockComment star =>
      some (if star && c == '/' then ⟨s.tokens, .outside⟩
        else ⟨s.tokens, .blockComment (c == '*')⟩)
  | .quoted quote pieces => quoted s.tokens quote pieces c
  | .escape quote pieces => escape s.tokens quote pieces c
  | .digits quote pieces isUnit left value => digits s.tokens quote pieces isUnit left value c
  | .joined quote pieces =>
      if c = '\n' then some ⟨s.tokens, .quoted quote pieces⟩ else quoted s.tokens quote pieces c

/-- The tokens in order, unless a string or a comment is left open. -/
def result? (s : TokenState) : Option (List BracketedToken) :=
  match s.place with
  | .outside | .lineComment => some s.tokens.reverse
  | .word cs => some (.word cs.reverse :: s.tokens).reverse
  | _ => none

end TokenState

/-- All tokens of a text. -/
def tokens? (cs : List Char) : Option (List BracketedToken) :=
  (cs.foldlM TokenState.step .start).bind TokenState.result?

end MockBuilders.Json5
