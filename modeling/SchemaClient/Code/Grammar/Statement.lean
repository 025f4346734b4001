import SchemaClient.Code.Grammar.Pattern

/-! Statements. -/
namespace SchemaClient.Code

open Reader

/-! ### Imports -/

def dotted (rules : Rules) : Reader Shape := do
  identifier
  if ← optionalMark "." then rules .dotted else return .other

def rename : Reader Unit := do
  if ← optionalWord "as" then identifier

/-- Names with commas between them. -/
def names (rules : Rules) : Reader Shape := do
  identifier
  if ← optionalMark "," then rules .names else return .other

/-- Modules to import, with commas between them. -/
def modules (rules : Rules) : Reader Shape := do
  let _ ← rules .dotted
  rename
  if ← optionalMark "," then rules .modules else return .other

/-- Names to import; within parentheses a comma may stand behind the last. -/
def imports (rules : Rules) (grouped : Bool) : Reader Shape := do
  identifier
  rename
  let close : Reader Shape := do
    if grouped then mark ")"
    return .other
  if ← optionalMark "," then
    if grouped && (← isMark ")") then close else rules (.imports grouped)
  else close

def isDots (l : Lexeme) : Bool :=
  l = .mark "." || l = .mark "..."

def importFrom (rules : Rules) : Reader Shape := do
  word "from"
  let relative := (← next?).any isDots
  modify (List.dropWhile isDots)
  unless relative && (← isWord "import") do
    let _ ← rules .dotted
  word "import"
  if ← optionalMark "*" then return .other
  if ← optionalMark "(" then rules (.imports true) else rules (.imports false)

/-! ### Simple statements -/

def updateMarks : List String := [
  "+=", "-=", "*=", "/=", "//=", "%=", "@=", "&=", "|=", "^=", ">>=", "<<=", "**="]

/-- What may be assigned. -/
def assigned (rules : Rules) : Reader Shape := do
  if ← isWord "yield" then yieldExpression rules else expressionList rules

/-- Further assignments; whatever stands before an equals sign is assigned to. -/
def moreAssigned (rules : Rules) (target : Shape) : Reader Shape := do
  if ← optionalMark "=" then
    require target.isAssignable
    let value ← assigned rules
    rules (.moreAssigned value)
  else return target

/-- A single place in parentheses. -/
def groupedPlace (rules : Rules) : Reader Unit := do
  mark "("
  require (← rules (.chain .arithmetic)).isSingle
  mark ")"

/-- An expression, an assignment, an update or a hint. A place in parentheses is hinted as it is, or
not at all. -/
def assignment (rules : Rules) : Reader Shape := do
  let start ← get
  let first ← assigned rules
  if ← optionalMark ":" then
    require first.isSingle
    if let some (_, rest) := (groupedPlace rules).run start then
      require (rest.head? = some (.mark ":"))
    let _ ← rules .expression
    if ← optionalMark "=" then
      let _ ← assigned rules
    return .other
  else if ← optionalMarkOf updateMarks then
    require first.isSingle
    assigned rules
  else rules (.moreAssigned first)

def simple (rules : Rules) : Reader Shape := do
  let plain := fun (w : String) => do
    word w
    return Shape.other
  match ← next? with
  | some (.word "pass") => plain "pass"
  | some (.word "break") => plain "break"
  | some (.word "continue") => plain "continue"
  | some (.word "return") =>
    word "return"
    if ← nextStartsExpression then expressionList rules else return .other
  | some (.word "raise") =>
    word "raise"
    if ← nextStartsExpression then
      let _ ← rules .expression
      if ← optionalWord "from" then
        let _ ← rules .expression
    return .other
  | some (.word "global") =>
    word "global"
    rules .names
  | some (.word "nonlocal") =>
    word "nonlocal"
    rules .names
  | some (.word "del") =>
    word "del"
    let target ← targetList rules
    require target.isDeletable
    return .other
  | some (.word "assert") =>
    word "assert"
    let _ ← rules .expression
    if ← optionalMark "," then rules .expression else return .other
  | some (.word "import") =>
    word "import"
    rules .modules
  | some (.word "from") => importFrom rules
  | _ => assignment rules

/-- Simple statements on one line, through its end. -/
def simples (rules : Rules) : Reader Shape := do
  let _ ← simple rules
  if ← optionalMark ";" then
    if ← optional .newline then return .other else rules .simples
  else
    take .newline
    return .other

/-! ### Compound statements -/

def block (rules : Rules) : Reader Shape := do
  if ← optional .newline then
    take .indent
    rules .moreStatements
  else rules .simples

/-- Statements through the end of the indentation. -/
def moreStatements (rules : Rules) : Reader Shape := do
  let _ ← rules .statement
  if ← optional .dedent then return .other else rules .moreStatements

def body (rules : Rules) : Reader Shape := do
  mark ":"
  rules .block

def optionalElse (rules : Rules) : Reader Shape := do
  if ← optionalWord "else" then body rules else return .other

/-- What follows a branch of a condition. -/
def branches (rules : Rules) : Reader Shape := do
  if ← optionalWord "elif" then
    let _ ← rules .named
    let _ ← body rules
    rules .branches
  else optionalElse rules

def optionalFinally (rules : Rules) : Reader Shape := do
  if ← optionalWord "finally" then body rules else return .other

/-- What follows a block that is tried. Handlers for groups have a star and always name an error. -/
def handlers (rules : Rules) (grouped : Bool) : Reader Shape := do
  if ← optionalWord "except" then
    if grouped then mark "*"
    unless !grouped && (← isMark ":") do
      let _ ← rules .expression
      rename
    let _ ← body rules
    rules (.handlers grouped)
  else
    let _ ← optionalElse rules
    optionalFinally rules

def tryStatement (rules : Rules) : Reader Shape := do
  let _ ← body rules
  if ← isWord "finally" then optionalFinally rules
  else
    match ← get with
    | .word "except" :: .mark "*" :: _ => rules (.handlers true)
    | .word "except" :: _ => rules (.handlers false)
    | _ => fail

def withItems (rules : Rules) (grouped : Bool) : Reader Shape := do
  let _ ← rules .expression
  if ← optionalWord "as" then
    let target ← starredOr rules (.chain .arithmetic)
    require target.isAssignable
  if ← optionalMark "," then
    if grouped && (← isMark ")") then return .other else rules (.withItems grouped)
  else return .other

def withStatement (rules : Rules) : Reader Shape :=
  let plain : Reader Shape := do
    let _ ← rules (.withItems false)
    body rules
  let grouped : Reader Shape := do
    mark "("
    let _ ← rules (.withItems true)
    mark ")"
    body rules
  plain <|> grouped

def forStatement (rules : Rules) : Reader Shape := do
  let _ ← targetList rules
  word "in"
  let _ ← expressionList rules
  let _ ← body rules
  optionalElse rules

def functionStatement (rules : Rules) : Reader Shape := do
  identifier
  mark "("
  let _ ← rules (.parameters ")" { hasHints := true })
  if ← optionalMark "->" then
    let _ ← rules .expression
  body rules

def classStatement (rules : Rules) : Reader Shape := do
  identifier
  if ← optionalMark "(" then
    let _ ← rules (.arguments false 0)
  body rules

def asyncStatement (rules : Rules) : Reader Shape := do
  if ← optionalWord "def" then functionStatement rules
  else if ← optionalWord "for" then forStatement rules
  else
    word "with"
    withStatement rules

/-- A decorator stands before another one, a function or a class. -/
def decorated (rules : Rules) : Reader Shape := do
  let _ ← rules .named
  take .newline
  let decorates ← match ← get with
    | .mark "@" :: _ => pure true
    | .word "def" :: _ => pure true
    | .word "class" :: _ => pure true
    | .word "async" :: .word "def" :: _ => pure true
    | _ => pure false
  require decorates
  rules .statement

/-- A case with its patterns and its guard, and the cases behind it, through the end of the
indentation. -/
def cases (rules : Rules) : Reader Shape := do
  word "case"
  let _ ← patterns rules
  if ← optionalWord "if" then
    let _ ← rules .named
  let _ ← body rules
  if ← optional .dedent then return .other else rules .cases

/-- Several values are matched as a sequence. -/
def matchStatement (rules : Rules) : Reader Shape := do
  word "match"
  let subject ← elements rules .named .moreSubjects
  require !subject.isStarred
  mark ":"
  take .newline
  take .indent
  rules .cases

def statement (rules : Rules) : Reader Shape := do
  if ← optionalMark "@" then decorated rules
  else if ← optionalWord "if" then
    let _ ← rules .named
    let _ ← body rules
    rules .branches
  else if ← optionalWord "while" then
    let _ ← rules .named
    let _ ← body rules
    optionalElse rules
  else if ← optionalWord "for" then forStatement rules
  else if ← optionalWord "try" then tryStatement rules
  else if ← optionalWord "with" then withStatement rules
  else if ← optionalWord "def" then functionStatement rules
  else if ← optionalWord "class" then classStatement rules
  else if ← optionalWord "async" then asyncStatement rules
  else if ← isWord "match" then matchStatement rules <|> rules .simples
  else rules .simples

end SchemaClient.Code
