import SchemaClient.Code.Grammar.Expression

/-! Patterns that values are matched with. -/
namespace SchemaClient.Code

open Reader

/-! ### Names and literals -/

/-- A name that a value is bound to. What looks like an attribute, a call or an argument is none. -/
def capture : Reader Unit := do
  require !(← isWord "_")
  identifier
  require !(← isMarkOf [".", "(", "="])

/-- A number with its sign, or the sum of a real number and an imaginary one. -/
def numberPattern : Reader Unit := do
  let _ ← optionalMark "-"
  match ← next? with
  | some (.number imaginary) =>
    take (.number imaginary)
    if ← optionalMarkOf ["+", "-"] then
      require !imaginary
      take (.number true)
  | _ => fail

/-- Reads a literal; `false` if there is none. -/
def optionalLiteral (rules : Rules) : Reader Bool := do
  match ← next? with
  | some (.number _) | some (.mark "-") =>
    numberPattern
    return true
  | some (.text bytes) =>
    let _ ← rules (.literals bytes)
    return true
  | some (.word w) =>
    if ["None", "True", "False"].contains w then optionalWord w else return false
  | _ => return false

/-! ### Patterns within patterns -/

/-- A pattern, or the name of all further elements. The flag says that it is such a name. -/
def starredPattern (rules : Rules) : Reader Bool := do
  if ← optionalMark "*" then
    unless ← optionalWord "_" do capture
    return true
  else
    let _ ← rules .pattern
    return false

/-- Patterns behind a comma, through the closing mark or up to the end of a list without one. -/
def morePatterns (rules : Rules) (close : Option String) : Reader Shape := do
  let ends ← match close with
    | some m => optionalMark m
    | none => if ← isMark ":" then pure true else isWord "if"
  if ends then return .other
  let _ ← starredPattern rules
  if ← optionalMark "," then rules (.morePatterns close)
  else
    if let some m := close then mark m
    return .other

/-- A sequence, or a pattern in parentheses. -/
def groupPattern (rules : Rules) : Reader Shape := do
  mark "("
  if ← optionalMark ")" then return .other
  let isStarred ← starredPattern rules
  if ← optionalMark "," then rules (.morePatterns (some ")"))
  else
    require !isStarred
    mark ")"
    return .other

/-- The entries of a mapping, through the closing brace. A key is a literal or an attribute. The
name of all further entries comes last. -/
def moreKeys (rules : Rules) : Reader Shape := do
  if ← optionalMark "\x7d" then return .other
  if ← optionalMark "**" then
    capture
    let _ ← optionalMark ","
    mark "\x7d"
    return .other
  unless ← optionalLiteral rules do
    identifier
    mark "."
    let _ ← rules .dotted
  mark ":"
  let _ ← rules .pattern
  if ← optionalMark "," then rules .moreKeys
  else
    mark "\x7d"
    return .other

/-- The fields of a class, through the closing parenthesis. Stage 1 begins behind the first field by
position, stage 2 behind the first field by name. Behind a field by position an underscore is always
a pattern. -/
def moreFields (rules : Rules) (stage : Nat) : Reader Shape := do
  if ← optionalMark ")" then return .other
  let stage ← match ← get with
    | .word w :: .mark "=" :: rest => do
      require (isIdentifier w && (w != "_" || stage != 1))
      set rest
      pure 2
    | _ => do
      require (stage < 2)
      pure 1
  let _ ← rules .pattern
  if ← optionalMark "," then rules (.moreFields stage)
  else
    mark ")"
    return .other

/-! ### Whole patterns -/

/-- A name that is bound, a dotted name that is looked up, or a class. -/
def namePattern (rules : Rules) : Reader Shape := do
  let _ ← rules .dotted
  if ← optionalMark "(" then rules (.moreFields 0)
  else
    require !(← isMark "=")
    return .other

/-- A pattern without alternatives. -/
def closedPattern (rules : Rules) : Reader Shape := do
  if ← optionalLiteral rules then return .other
  match ← next? with
  | some (.word "_") =>
    word "_"
    return .other
  | some (.word _) => namePattern rules
  | some (.mark "(") => groupPattern rules
  | some (.mark "[") =>
    mark "["
    rules (.morePatterns (some "]"))
  | some (.mark "\x7b") =>
    mark "\x7b"
    rules .moreKeys
  | _ => fail

/-- Alternatives, and perhaps a name for the value. -/
def pattern (rules : Rules) : Reader Shape := do
  let _ ← closedPattern rules
  rules .moreAlternatives

def moreAlternatives (rules : Rules) : Reader Shape := do
  if ← optionalMark "|" then rules .pattern
  else
    if ← optionalWord "as" then capture
    return .other

/-- The patterns of a case. With a comma they are a sequence. -/
def patterns (rules : Rules) : Reader Shape := do
  let isStarred ← starredPattern rules
  if ← optionalMark "," then rules (.morePatterns none)
  else
    require !isStarred
    return .other

end SchemaClient.Code
