import SchemaClient.Sdl.Scan

/-! Reading lexemes one after another. A fault of the scan comes up when its place is reached. -/
namespace SchemaClient.Sdl

/-- The current lexeme, those behind it, and the fault that ends them. -/
structure Cursor where
  current : Lexeme
  rest : List Lexeme
  fault : Option Fault

abbrev Parse := StateT Cursor (Except Fault)

def Scan.start (s : Scan) : Except Fault Cursor :=
  match s.lexemes with
  | [] => .error (s.fault.getD .offText)
  | first :: rest => .ok ⟨first, rest, s.fault⟩

namespace Parse

def current : Parse Token := do
  return (← get).current.token

/-- The lexeme behind the current one; the end of the text is behind itself. -/
def lookahead : Parse Lexeme := do
  let c ← get
  match c.rest, c.fault with
  | next :: _, _ => return next
  | [], some fault => throw fault
  | [], none => return c.current

/-- Moves on and returns the lexeme that was current. -/
def advance : Parse Lexeme := do
  let next ← lookahead
  modifyGet fun c => (c.current, { c with current := next, rest := c.rest.drop 1 })

def failAt (place : Lexeme) (cause : Cause) : Parse α :=
  throw (.malformed place.offset cause)

def fail (cause : Token → Cause) : Parse α := do
  let here := (← get).current
  failAt here (cause here.token)

def unexpected : Parse α :=
  fail .unexpected

def symbol (s : Symbol) : Parse Lexeme := do
  if (← current) = .symbol s then advance
  else fail (.expected (Token.symbol s).kind)

def isAt (s : Symbol) : Parse Bool := do
  return (← current) = .symbol s

/-- Takes the symbol if it is there. -/
def optional (s : Symbol) : Parse Bool := do
  if ← isAt s then
    let _ ← advance
    return true
  else return false

def name : Parse String := do
  match ← current with
  | .name text =>
    let _ ← advance
    return text
  | _ => fail (.expected "Name")

def isKeyword (word : String) : Parse Bool := do
  return (← current) = .name word

def optionalKeyword (word : String) : Parse Bool := do
  if ← isKeyword word then
    let _ ← advance
    return true
  else return false

def keyword (word : String) : Parse Unit := do
  unless ← optionalKeyword word do
    fail (.expected ("'" ++ word ++ "'"))

def endOfText : Parse Unit := do
  unless (← current) = .endOfText do
    fail (.expected Token.endOfText.kind)

/-- More repetitions than there are lexemes left cannot come. -/
def bound : Parse Nat := do
  return (← get).rest.length + 2

/-- Items up to a closing symbol, which is taken. -/
def itemsUntil (close : Symbol) (item : Parse α) : Nat → Parse (List α)
  | 0 => unexpected
  | fuel + 1 => do
    if ← optional close then return []
    let first ← item
    return first :: (← itemsUntil close item fuel)

/-- Any number of items between two symbols. -/
def several (opening closing : Symbol) (item : Parse α) : Parse (List α) := do
  let _ ← symbol opening
  itemsUntil closing item (← bound)

/-- At least one item between two symbols. -/
def many (opening closing : Symbol) (item : Parse α) : Parse (List α) := do
  let _ ← symbol opening
  let first ← item
  return first :: (← itemsUntil closing item (← bound))

/-- Nothing, or at least one item between two symbols. -/
def optionalMany (opening closing : Symbol) (item : Parse α) : Parse (List α) := do
  if ← isAt opening then many opening closing item else return []

def delimitedRest (delimiter : Symbol) (item : Parse α) : Nat → Parse (List α)
  | 0 => unexpected
  | fuel + 1 => do
    let first ← item
    if ← optional delimiter then return first :: (← delimitedRest delimiter item fuel)
    return [first]

/-- At least one item, with a delimiter between them and perhaps before the first. -/
def delimited (delimiter : Symbol) (item : Parse α) : Parse (List α) := do
  let _ ← optional delimiter
  delimitedRest delimiter item (← bound)

end Parse

/-- Reads a whole text. -/
def readAll (p : Parse α) (s : String) : Except Fault α := do
  let start ← (scan s).start
  let (result, _) ← (do let a ← p; Parse.endOfText; return a : Parse α).run start
  return result

end SchemaClient.Sdl
