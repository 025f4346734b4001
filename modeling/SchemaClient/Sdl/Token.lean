/-! Tokens of the schema definition language. -/
namespace SchemaClient.Sdl

inductive Symbol where
  | bang | dollar | ampersand | openParen | closeParen | spread | colon | equals | atSign
  | openBracket | closeBracket | openBrace | pipe | closeBrace
deriving DecidableEq, Repr

def Symbol.text : Symbol → String
  | .bang => "!"
  | .dollar => "$"
  | .ampersand => "&"
  | .openParen => "("
  | .closeParen => ")"
  | .spread => "..."
  | .colon => ":"
  | .equals => "="
  | .atSign => "@"
  | .openBracket => "["
  | .closeBracket => "]"
  | .openBrace => "\x7b"
  | .pipe => "|"
  | .closeBrace => "\x7d"

/-- The symbol that a single character writes. -/
def Symbol.ofChar? (c : Char) : Option Symbol :=
  match c with
  | '!' => some .bang
  | '$' => some .dollar
  | '&' => some .ampersand
  | '(' => some .openParen
  | ')' => some .closeParen
  | ':' => some .colon
  | '=' => some .equals
  | '@' => some .atSign
  | '[' => some .openBracket
  | ']' => some .closeBracket
  | '{' => some .openBrace
  | '|' => some .pipe
  | '}' => some .closeBrace
  | _ => none

/-- Numbers keep their spelling; strings hold the text they denote. -/
inductive Token where
  | symbol (symbol : Symbol)
  | name (text : String)
  | int (text : String)
  | float (text : String)
  | string (text : String)
  | block (text : String)
  | endOfText
deriving DecidableEq, Repr

/-- A token and where it starts, in characters from the start of the text. -/
structure Lexeme where
  token : Token
  offset : Nat
deriving DecidableEq, Repr

/-- The text of a token that carries one. -/
def Token.value? : Token → Option String
  | .name t | .int t | .float t | .string t | .block t => some t
  | .symbol _ | .endOfText => none

def Token.kind : Token → String
  | .symbol s => "'" ++ s.text ++ "'"
  | .name _ => "Name"
  | .int _ => "Int"
  | .float _ => "Float"
  | .string _ => "String"
  | .block _ => "BlockString"
  | .endOfText => "<EOF>"

/-- How a message names a token. -/
def Token.describe (t : Token) : String :=
  match t.value? with
  | some value => t.kind ++ " '" ++ value ++ "'"
  | none => t.kind

end SchemaClient.Sdl
