import SchemaClient.Code.Grammar.Rule

/-! Expressions. -/
namespace SchemaClient.Code

open Reader

/-! ### Operators -/

/-- Takes an operator of a level if it is there. -/
def operator (level : Level) : Reader Bool := do
  match level with
  | .logic => if ← optionalWord "and" then return true else optionalWord "or"
  | .arithmetic =>
    optionalMarkOf ["|", "^", "&", "<<", ">>", "+", "-", "*", "/", "//", "%", "@", "**"]
  | .comparison =>
    if ← optionalMarkOf ["==", "!=", "<", ">", "<=", ">="] then return true
    if ← optionalWord "in" then return true
    if ← optionalWord "is" then
      let _ ← optionalWord "not"
      return true
    match ← get with
    | .word "not" :: .word "in" :: rest =>
      set rest
      return true
    | _ => return false

/-- An operand of the operators of a level. -/
def operand (rules : Rules) (level : Level) : Reader Shape := do
  match level with
  | .logic =>
    if ← optionalWord "not" then
      let _ ← rules (.operand .logic)
      return .other
    else rules (.chain .comparison)
  | .comparison => rules (.chain .arithmetic)
  | .arithmetic => rules .factor

/-- Operators and operands behind an operand. -/
def moreOperands (rules : Rules) (level : Level) (first : Shape) : Reader Shape := do
  if ← operator level then
    let _ ← rules (.operand level)
    rules (.moreOperands level .other)
  else return first

/-- Operands of a level with operators between them. -/
def chain (rules : Rules) (level : Level) : Reader Shape := do
  let first ← rules (.operand level)
  rules (.moreOperands level first)

/-! ### Lists of expressions -/

/-- A starred operand, or what another rule reads. -/
def starredOr (rules : Rules) (plain : Rule) : Reader Shape := do
  if ← optionalMark "*" then
    let inner ← rules (.chain .arithmetic)
    return .starred inner.isAssignable
  else rules plain

/-- One element, or several with commas between them and perhaps behind them. -/
def elements (rules : Rules) (element : Rule) (more : Shape → Rule) : Reader Shape := do
  let first ← starredOr rules element
  if ← optionalMark "," then rules (more (Shape.empty.push first)) else return first

def moreFrom (rules : Rules) (element : Rule) (more : Shape → Rule) (elements : Shape) :
    Reader Shape := do
  unless ← nextStartsExpression do return elements
  let elements := elements.push (← starredOr rules element)
  if ← optionalMark "," then rules (more elements) else return elements

def expressionList (rules : Rules) : Reader Shape :=
  elements rules .expression .moreExpressions

/-- What a loop assigns to. -/
def targetList (rules : Rules) : Reader Shape := do
  let targets ← elements rules (.chain .arithmetic) .moreTargets
  require targets.isAssignable
  return targets

def yieldExpression (rules : Rules) : Reader Shape := do
  word "yield"
  if ← optionalWord "from" then
    let _ ← rules .expression
  else if ← nextStartsExpression then
    let _ ← expressionList rules
  return .other

/-! ### Comprehensions -/

def nextIsClause : Reader Bool := do
  match ← get with
  | .word "for" :: _ => return true
  | .word "async" :: .word "for" :: _ => return true
  | _ => return false

def clauses (rules : Rules) : Reader Shape := do
  let _ ← optionalWord "async"
  word "for"
  let _ ← targetList rules
  word "in"
  let _ ← rules (.chain .logic)
  rules .moreClauses

def moreClauses (rules : Rules) : Reader Shape := do
  if ← optionalWord "if" then
    let _ ← rules (.chain .logic)
    rules .moreClauses
  else if ← nextIsClause then rules .clauses
  else return .other

/-! ### Displays -/

/-- Elements behind a comma, through the closing mark. -/
def moreElements (rules : Rules) (close : String) (elements : Shape) : Reader Shape := do
  if ← optionalMark close then return elements
  let elements := elements.push (← starredOr rules .named)
  if ← optionalMark "," then rules (.moreElements close elements)
  else
    mark close
    return elements

/-- Either clauses or more elements behind the first one, through the closing mark. A single element
is given to `alone`. -/
def displayRest (rules : Rules) (close : String) (first : Shape) (alone : Reader Shape) :
    Reader Shape := do
  if ← optionalMark "," then rules (.moreElements close (Shape.empty.push first))
  else if ← nextIsClause then
    require !first.isStarred
    let _ ← rules .clauses
    mark close
    return .other
  else
    mark close
    alone

def parenthesized (rules : Rules) : Reader Shape := do
  mark "("
  if ← optionalMark ")" then return .empty
  if ← isWord "yield" then
    let _ ← yieldExpression rules
    mark ")"
    return .other
  let first ← starredOr rules .named
  displayRest rules ")" first do
    require !first.isStarred
    return first

def listDisplay (rules : Rules) : Reader Shape := do
  mark "["
  if ← optionalMark "]" then return .empty
  let first ← starredOr rules .named
  displayRest rules "]" first (return Shape.empty.push first)

def entriesEnd (rules : Rules) : Reader Shape := do
  if ← optionalMark "," then rules .moreEntries
  else
    mark "\x7d"
    return .other

/-- Entries of a dictionary behind a comma, through the closing brace. -/
def moreEntries (rules : Rules) : Reader Shape := do
  if ← optionalMark "\x7d" then return .other
  if ← optionalMark "**" then
    let _ ← rules (.chain .arithmetic)
  else
    let _ ← rules .expression
    mark ":"
    let _ ← rules .expression
  entriesEnd rules

/-- Whether the next value is given a name. -/
def nextIsNamed : Reader Bool := do
  match ← get with
  | .word _ :: .mark ":=" :: _ => return true
  | _ => return false

/-- A dictionary or a set. -/
def braces (rules : Rules) : Reader Shape := do
  mark "\x7b"
  if ← optionalMark "\x7d" then return .other
  if ← optionalMark "**" then
    let _ ← rules (.chain .arithmetic)
    return ← entriesEnd rules
  let isNamed ← nextIsNamed
  let first ← starredOr rules .named
  if ← optionalMark ":" then
    require (!isNamed && !first.isStarred)
    let _ ← rules .expression
    if ← nextIsClause then
      let _ ← rules .clauses
      mark "\x7d"
      return .other
    else entriesEnd rules
  else
    let _ ← displayRest rules "\x7d" first (return .other)
    return .other

/-! ### Atoms and what follows them -/

/-- Adjacent literals join if they are of one kind. -/
def literals (rules : Rules) (bytes : Bool) : Reader Shape := do
  if ← optional (.text bytes) then rules (.literals bytes)
  else if ← optional .hole then
    let _ ← expressionList rules
    take .newline
    rules (.literals bytes)
  else
    require !(← isNext (.text !bytes))
    return .other

def atom (rules : Rules) : Reader Shape := do
  match ← next? with
  | some (.number imaginary) =>
    take (.number imaginary)
    return .other
  | some (.text bytes) => rules (.literals bytes)
  | some (.word w) =>
    word w
    if isIdentifier w then return .name
    require (["None", "True", "False"].contains w)
    return .other
  | some (.mark "...") =>
    mark "..."
    return .other
  | some (.mark "(") => parenthesized rules
  | some (.mark "[") => listDisplay rules
  | some (.mark "\x7b") => braces rules
  | _ => fail

def trailers (rules : Rules) (head : Shape) : Reader Shape := do
  if ← optionalMark "." then
    identifier
    rules (.trailers .place)
  else if ← optionalMark "[" then
    let _ ← rules .subscripts
    rules (.trailers .place)
  else if ← optionalMark "(" then
    let _ ← rules (.arguments true 0)
    rules (.trailers .other)
  else return head

def factor (rules : Rules) : Reader Shape := do
  if ← optionalMarkOf ["+", "-", "~"] then
    let _ ← rules .factor
    return .other
  let awaits ← optionalWord "await"
  let shape ← rules (.trailers (← atom rules))
  return if awaits then .other else shape

/-- Arguments of a call, through the closing parenthesis. Stage 1 begins with the first argument by
name, stage 2 with the first double star. A single argument of a function may have clauses. -/
def arguments (rules : Rules) (mayBeClauses : Bool) (stage : Nat) : Reader Shape := do
  if ← optionalMark ")" then return .other
  let next := fun (stage : Nat) => do
    if ← optionalMark "," then rules (.arguments false stage)
    else
      mark ")"
      return .other
  if ← optionalMark "**" then
    let _ ← rules .expression
    next 2
  else if ← optionalMark "*" then
    require (stage < 2)
    let _ ← rules .expression
    next stage
  else
    match ← get with
    | .word w :: .mark "=" :: rest =>
      require (isIdentifier w)
      set rest
      let _ ← rules .expression
      next (max 1 stage)
    | _ =>
      require (stage = 0)
      let _ ← rules .named
      if ← nextIsClause then
        require mayBeClauses
        let _ ← rules .clauses
        mark ")"
        return .other
      else next 0

def optionalExpression (rules : Rules) : Reader Unit := do
  if ← nextStartsExpression then
    let _ ← rules .expression

/-- A subscript, a starred one or a slice. -/
def subscript (rules : Rules) : Reader Unit := do
  if ← optionalMark "*" then
    let _ ← rules .expression
  else if ← nextIsNamed then
    let _ ← rules .named
  else
    unless ← isMark ":" do
      let _ ← rules .expression
    if ← optionalMark ":" then
      optionalExpression rules
      if ← optionalMark ":" then optionalExpression rules

/-- Subscripts through the closing bracket. -/
def subscripts (rules : Rules) : Reader Shape := do
  subscript rules
  if ← optionalMark "," then
    if ← optionalMark "]" then return .other else rules .subscripts
  else
    mark "]"
    return .other

/-! ### Parameters -/

def hint (rules : Rules) (state : Parameters) : Reader Unit := do
  if state.hasHints then
    if ← optionalMark ":" then
      let _ ← rules .expression

/-- The hint of a parameter for all further values. -/
def starredHint (rules : Rules) (state : Parameters) : Reader Unit := do
  if state.hasHints then
    if ← optionalMark ":" then
      let _ ← starredOr rules .expression

/-- Parameters through the closing mark. -/
def parameters (rules : Rules) (close : String) (state : Parameters) : Reader Shape := do
  let next := fun (state : Parameters) => do
    if ← optionalMark "," then rules (.parameters close { state with count := state.count + 1 })
    else
      mark close
      return .other
  if ← optionalMark close then
    require !state.bareStar
    return .other
  if ← optionalMark "/" then
    require (!state.slash && !state.star && 0 < state.count)
    next { state with slash := true }
  else if ← optionalMark "**" then
    require !state.bareStar
    identifier
    hint rules state
    let _ ← optionalMark ","
    mark close
    return .other
  else if ← optionalMark "*" then
    require !state.star
    if ← isMark "," then next { state with star := true, bareStar := true }
    else
      identifier
      starredHint rules state
      next { state with star := true }
  else
    identifier
    hint rules state
    if ← optionalMark "=" then
      let _ ← rules .expression
      next { state with defaults := true, bareStar := false }
    else
      require (!state.defaults || state.star)
      next { state with bareStar := false }

/-! ### Whole expressions -/

/-- A lambda, a conditional, or operands. -/
def expression (rules : Rules) : Reader Shape := do
  if ← optionalWord "lambda" then
    let _ ← rules (.parameters ":" { hasHints := false })
    let _ ← rules .expression
    return .other
  let first ← rules (.chain .logic)
  if ← optionalWord "if" then
    let _ ← rules (.chain .logic)
    word "else"
    let _ ← rules .expression
    return .other
  else return first

/-- An expression that may name its value. -/
def named (rules : Rules) : Reader Shape := do
  match ← get with
  | .word w :: .mark ":=" :: rest =>
    require (isIdentifier w)
    set rest
    let _ ← rules .expression
    return .other
  | _ => rules .expression

end SchemaClient.Code
