import SchemaClient.Sdl.Definition
import SchemaClient.Sdl.Parse

/-! The grammar of documents, type references and literals. -/
namespace SchemaClient.Sdl

open Parse

/-! ### Literals -/

def namedLiteral (text : String) : Literal :=
  match text with
  | "true" => .boolean true
  | "false" => .boolean false
  | "null" => .null
  | _ => .enum text

def variableLiteral (constant : Bool) : Parse Literal := do
  let dollar ← symbol .dollar
  if constant then
    match ← current with
    | .name text => failAt dollar (.variableInConstant text)
    | _ => failAt dollar (.unexpected dollar.token)
  else return .var (← name)

/-- A literal; a constant one holds no variables. Nesting takes a lexeme each time, so that `fuel`
need not exceed their number. -/
def literalWithin (constant : Bool) : Nat → Parse Literal
  | 0 => unexpected
  | fuel + 1 => do
    match ← current with
    | .symbol .openBracket =>
      return .list (← several .openBracket .closeBracket (literalWithin constant fuel))
    | .symbol .openBrace =>
      let entry : Parse (String × Literal) := do
        let key ← name
        let _ ← symbol .colon
        return (key, ← literalWithin constant fuel)
      return .object (← several .openBrace .closeBrace entry)
    | .symbol .dollar => variableLiteral constant
    | .int text => let _ ← advance; return .int text
    | .float text => let _ ← advance; return .float text
    | .string text | .block text => let _ ← advance; return .string text
    | .name text => let _ ← advance; return namedLiteral text
    | _ => unexpected

def literal (constant : Bool) : Parse Literal := do
  literalWithin constant (← bound)

/-! ### Types, arguments and directives -/

def typeRefWithin : Nat → Parse TypeRef
  | 0 => unexpected
  | fuel + 1 => do
    let inner ← if ← optional .openBracket then do
        let element ← typeRefWithin fuel
        let _ ← symbol .closeBracket
        pure (.list element)
      else .named <$> name
    if ← optional .bang then return .nonNull inner else return inner

def typeRef : Parse TypeRef := do
  typeRefWithin (← bound)

def argument (constant : Bool) : Parse Unit := do
  let _ ← name
  let _ ← symbol .colon
  let _ ← literal constant

def arguments (constant : Bool) : Parse Unit := do
  let _ ← optionalMany .openParen .closeParen (argument constant)

def directivesWithin (constant : Bool) : Nat → Parse Nat
  | 0 => unexpected
  | fuel + 1 => do
    unless ← optional .atSign do return 0
    let _ ← name
    arguments constant
    return (← directivesWithin constant fuel) + 1

/-- Reads directives and returns how many there are. -/
def directives (constant : Bool) : Parse Nat := do
  directivesWithin constant (← bound)

/-! ### Operations and fragments -/

def fragmentName : Parse Unit := do
  if (← current).value? = some "on" then unexpected
  let _ ← name

/-- The selections between two braces. -/
def selectionSetWithin : Nat → Parse Unit
  | 0 => unexpected
  | fuel + 1 => do
    let fragment : Parse Unit := do
      let _ ← symbol .spread
      let typed ← optionalKeyword "on"
      let spread := !typed && (match ← current with | .name _ => true | _ => false)
      if spread then
        fragmentName
        let _ ← directives false
      else
        if typed then let _ ← name
        let _ ← directives false
        selectionSetWithin fuel
    let field : Parse Unit := do
      let _ ← name
      if ← optional .colon then let _ ← name
      arguments false
      let _ ← directives false
      if ← isAt .openBrace then selectionSetWithin fuel
    let selection : Parse Unit := do
      if ← isAt .spread then fragment else field
    let _ ← many .openBrace .closeBrace selection

def selectionSet : Parse Unit := do
  selectionSetWithin (← bound)

def variableDefinition : Parse Unit := do
  let _ ← symbol .dollar
  let _ ← name
  let _ ← symbol .colon
  let _ ← typeRef
  if ← optional .equals then let _ ← literal true
  let _ ← directives true

def operationType : Parse Operation := do
  let place := (← get).current
  match Operation.ofName? (← name) with
  | some operation => return operation
  | none => failAt place (.unexpected place.token)

def operationDefinition : Parse Definition := do
  unless ← isAt .openBrace do
    let _ ← operationType
    if let .name _ ← current then let _ ← advance
    let _ ← optionalMany .openParen .closeParen variableDefinition
    let _ ← directives false
  selectionSet
  return .operation

def fragmentDefinition : Parse Definition := do
  keyword "fragment"
  fragmentName
  keyword "on"
  let _ ← name
  let _ ← directives false
  selectionSet
  return .fragment

/-! ### Members of types -/

/-- A description, if there is one. -/
def description : Parse (Option String) := do
  match ← current with
  | .string text | .block text => let _ ← advance; return some text
  | _ => return none

def inputValue : Parse InputValue := do
  let description ← description
  let name ← name
  let _ ← symbol .colon
  let type ← typeRef
  let default ← if ← optional .equals then some <$> literal true else pure none
  let _ ← directives true
  return { name, type, default, description }

def argumentDefinitions : Parse (List InputValue) :=
  optionalMany .openParen .closeParen inputValue

def objectField : Parse ObjectField := do
  let description ← description
  let name ← name
  let arguments ← argumentDefinitions
  let _ ← symbol .colon
  let type ← typeRef
  let _ ← directives true
  return { name, type, arguments, description }

def enumValue : Parse EnumValue := do
  let description ← description
  let spelling := (← current).value?
  if ["true", "false", "null"].any fun word => spelling == some word then
    fail .reservedEnumValue
  let name ← name
  let _ ← directives true
  return { name, description }

def interfaces : Parse (List String) := do
  if ← optionalKeyword "implements" then delimited .ampersand name else return []

def unionMembers : Parse (List String) := do
  if ← optional .equals then delimited .pipe name else return []

def body (item : Parse α) : Parse (List α) :=
  optionalMany .openBrace .closeBrace item

def rootType : Parse RootType := do
  let operation ← operationType
  let _ ← symbol .colon
  return { operation, type := ← name }

/-! ### Type system definitions and extensions -/

def directiveLocations : List String := [
  "QUERY", "MUTATION", "SUBSCRIPTION", "FIELD", "FRAGMENT_DEFINITION", "FRAGMENT_SPREAD",
  "INLINE_FRAGMENT", "VARIABLE_DEFINITION", "SCHEMA", "SCALAR", "OBJECT", "FIELD_DEFINITION",
  "ARGUMENT_DEFINITION", "INTERFACE", "UNION", "ENUM", "ENUM_VALUE", "INPUT_OBJECT",
  "INPUT_FIELD_DEFINITION"]

def directiveLocation : Parse Unit := do
  let place := (← get).current
  unless directiveLocations.contains (← name) do
    failAt place (.unexpected place.token)

def directiveDefinition : Parse Definition := do
  let _ ← symbol .atSign
  let name ← name
  let _ ← argumentDefinitions
  let _ ← optionalKeyword "repeatable"
  keyword "on"
  let _ ← delimited .pipe directiveLocation
  return .directive name

/-- What follows the keyword of a definition or, if `isExtension`, of an extension. An extension has
to add something. -/
def typeSystemBody (word : String) (isExtension : Bool) (description : Option String) :
    Parse Definition := do
  let adds := fun (something : Bool) => if isExtension && !something then unexpected else pure ()
  match word with
  | "schema" =>
    let count ← directives true
    let roots ← if isExtension then body rootType else many .openBrace .closeBrace rootType
    adds (count != 0 || !roots.isEmpty)
    return if isExtension then .schemaExtension roots else .schema roots
  | "scalar" =>
    let name ← name
    let count ← directives true
    adds (count != 0)
    return if isExtension then .scalarExtension name else .scalar name
  | "type" =>
    let name ← name
    let interfaces ← interfaces
    let count ← directives true
    let members ← body objectField
    adds (!interfaces.isEmpty || count != 0 || !members.isEmpty)
    return .object { name, description, members } interfaces
  | "interface" =>
    let name ← name
    let interfaces ← interfaces
    let count ← directives true
    let members ← body objectField
    adds (!interfaces.isEmpty || count != 0 || !members.isEmpty)
    return .interface name
  | "union" =>
    let name ← name
    let count ← directives true
    let members ← unionMembers
    adds (count != 0 || !members.isEmpty)
    return .union name
  | "enum" =>
    let name ← name
    let count ← directives true
    let members ← body enumValue
    adds (count != 0 || !members.isEmpty)
    return .enum { name, description, members }
  | "input" =>
    let name ← name
    let count ← directives true
    let members ← body inputValue
    adds (count != 0 || !members.isEmpty)
    return .input { name, description, members }
  | _ => unexpected

def typeSystemWords : List String :=
  ["schema", "scalar", "type", "interface", "union", "enum", "input"]

/-- Starts at the word `extend`. -/
def extensionDefinition : Parse Definition := do
  let place ← lookahead
  match place.token with
  | .name word =>
    unless typeSystemWords.contains word do failAt place (.unexpected place.token)
    let _ ← advance
    let _ ← advance
    typeSystemBody word true none
  | _ => failAt place (.unexpected place.token)

/-- A definition with the given description, from its keyword on. -/
def described (description : Option String) (word : String) : Parse Definition := do
  let _ ← advance
  if word = "directive" then directiveDefinition
  else typeSystemBody word false description

def definition : Parse Definition := do
  if ← isAt .openBrace then return ← operationDefinition
  let start := (← get).current
  let hasDescription := match start.token with
    | .string _ | .block _ => true
    | _ => false
  let place ← if hasDescription then lookahead else pure start
  match place.token with
  | .name word =>
    if typeSystemWords.contains word || word = "directive" then
      described (← description) word
    else if hasDescription then failAt start .strayDescription
    else
      match word with
      | "query" | "mutation" | "subscription" => operationDefinition
      | "fragment" => fragmentDefinition
      | "extend" => extensionDefinition
      | _ => failAt place (.unexpected place.token)
  | _ => failAt place (.unexpected place.token)

/-- Definitions up to the end of the text, at least one. -/
def definitionsWithin : Nat → Parse (List Definition)
  | 0 => unexpected
  | fuel + 1 => do
    let first ← definition
    if (← current) = .endOfText then return [first]
    return first :: (← definitionsWithin fuel)

def document : Parse (List Definition) := do
  definitionsWithin (← bound)

/-! ### Whole texts -/

def readDocument (s : String) : Except Fault (List Definition) :=
  readAll document s

def readTypeRef (s : String) : Except Fault TypeRef :=
  readAll typeRef s

/-- A literal that may hold variables. -/
def readLiteral (s : String) : Except Fault Literal :=
  readAll (literal false) s

end SchemaClient.Sdl
