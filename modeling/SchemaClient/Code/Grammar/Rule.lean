import SchemaClient.Code.Lexeme
import SchemaClient.Name

/-! The rules of the grammar of modules, and how lexemes are taken. -/
namespace SchemaClient.Code

/-- What an expression looks like, as far as it matters for assigning to it and for deleting it. -/
inductive Shape where
  | name
  /-- An attribute or a subscript. -/
  | place
  /-- A starred expression; the flag says whether it can be assigned to. -/
  | starred (assignable : Bool)
  /-- A tuple or list; the flags say whether each element can be assigned to, and deleted. -/
  | sequence (assignable deletable : Bool)
  | other
deriving DecidableEq, Repr

namespace Shape

def isAssignable : Shape → Bool
  | name | place => true
  | starred b | sequence b _ => b
  | other => false

def isDeletable : Shape → Bool
  | name | place => true
  | sequence _ b => b
  | starred _ | other => false

def empty : Shape := sequence true true

/-- A sequence with another element. -/
def push (elements next : Shape) : Shape :=
  sequence (elements.isAssignable && next.isAssignable) (elements.isDeletable && next.isDeletable)

/-- A single place: what can be annotated or updated. -/
def isSingle (s : Shape) : Bool :=
  s = .name || s = .place

def isStarred : Shape → Bool
  | starred _ => true
  | _ => false

end Shape

/-- Where reading a list of parameters stands. -/
structure Parameters where
  hasHints : Bool
  count : Nat := 0
  defaults : Bool := false
  slash : Bool := false
  star : Bool := false
  /-- A star alone has to be followed by a parameter. -/
  bareStar : Bool := false
deriving DecidableEq, Repr

/-- Levels of binary operators, loosest first. -/
inductive Level where
  | logic | comparison | arithmetic
deriving DecidableEq, Repr

/-- The rules that rules refer to. Those called `more` read on behind a comma; those with a closing
mark read through it. -/
inductive Rule where
  | expression
  | named
  | chain (level : Level)
  | operand (level : Level)
  | moreOperands (level : Level) (first : Shape)
  | factor
  | trailers (head : Shape)
  | moreElements (close : String) (elements : Shape)
  | moreEntries
  | clauses
  | moreClauses
  | literals (bytes : Bool)
  | arguments (mayBeClauses : Bool) (stage : Nat)
  | subscripts
  | parameters (close : String) (state : Parameters)
  | moreExpressions (elements : Shape)
  | moreTargets (elements : Shape)
  | moreSubjects (elements : Shape)
  | dotted
  | names
  | modules
  | imports (grouped : Bool)
  | moreAssigned (target : Shape)
  | simples
  | statement
  | block
  | moreStatements
  | branches
  | handlers (grouped : Bool)
  | withItems (grouped : Bool)
  | pattern
  | moreAlternatives
  | morePatterns (close : Option String)
  | moreKeys
  | moreFields (stage : Nat)
  | cases
deriving DecidableEq, Repr

abbrev Reader := StateT (List Lexeme) Option

/-- How the rules that a rule refers to are read. -/
abbrev Rules := Rule → Reader Shape

namespace Reader

def fail : Reader α := fun _ => none

def require (b : Bool) : Reader Unit :=
  if b then return () else fail

def next? : Reader (Option Lexeme) := do
  return (← get).head?

def isNext (l : Lexeme) : Reader Bool := do
  return (← next?) = some l

def take (l : Lexeme) : Reader Unit := do
  require (← isNext l)
  modify (List.drop 1)

/-- Takes the lexeme if it is there. -/
def optional (l : Lexeme) : Reader Bool := do
  if ← isNext l then
    take l
    return true
  else return false

def mark (m : String) : Reader Unit := take (.mark m)

def optionalMark (m : String) : Reader Bool := optional (.mark m)

def isMark (m : String) : Reader Bool := isNext (.mark m)

def isMarkOf (ms : List String) : Reader Bool := do
  match ← next? with
  | some (.mark m) => return ms.contains m
  | _ => return false

def word (w : String) : Reader Unit := take (.word w)

def optionalWord (w : String) : Reader Bool := optional (.word w)

def isWord (w : String) : Reader Bool := isNext (.word w)

/-- Takes one of the marks if it is there. -/
def optionalMarkOf (ms : List String) : Reader Bool := do
  if ← isMarkOf ms then
    modify (List.drop 1)
    return true
  else return false

def isIdentifier (w : String) : Bool :=
  !Name.keywords.contains w

/-- A name that is no keyword. -/
def identifier : Reader Unit := do
  match ← next? with
  | some (.word w) =>
    require (isIdentifier w)
    word w
  | _ => fail

/-- Whether an expression, perhaps with a star, can start with a lexeme. -/
def startsExpression : Lexeme → Bool
  | .word w =>
    isIdentifier w || ["None", "True", "False", "not", "lambda", "await"].contains w
  | .number _ | .text _ => true
  | .mark m => ["(", "[", "\x7b", "-", "+", "~", "...", "*"].contains m
  | .hole | .newline | .indent | .dedent => false

def nextStartsExpression : Reader Bool := do
  return (← next?).any startsExpression

end Reader

end SchemaClient.Code
