import SchemaClient.Descriptor
import SchemaClient.Text.Literal
import SchemaClient.Text.Basic

/-! Declarations of a module and how they are written. -/
namespace SchemaClient.Module

def indent : String := "    "

/-- A description, unless it is empty. -/
def nonEmpty : Option String → Option String
  | some "" => none
  | d => d

inductive FieldOption where
  /-- A value that all instances share. -/
  | default (expression : String)
  /-- An expression that is evaluated anew for each instance. -/
  | factory (expression : String)
  | wireName (wire : String)
  | description (text : String)
  | hidden
deriving Repr, DecidableEq

def FieldOption.text : FieldOption → String
  | default expression => "default=" ++ expression
  | factory expression => "default_factory=lambda: " ++ expression
  | wireName wire => "alias=" ++ Text.stringLiteral wire
  | description text => "description=" ++ Text.stringLiteral text
  | hidden => "repr=False"

structure Attribute where
  name : String
  hint : String
  options : List FieldOption
deriving Repr, DecidableEq

def Attribute.text (a : Attribute) : String :=
  indent ++ a.name ++ ": " ++ a.hint ++ " = pydantic.Field(" ++
    Text.join ", " (a.options.map FieldOption.text) ++ ")"

structure Parameter where
  name : String
  hint : Option String := none
deriving Repr, DecidableEq

def Parameter.text (p : Parameter) : String :=
  match p.hint with
  | none => p.name
  | some hint => p.name ++ ": " ++ hint

structure Method where
  name : String
  parameters : List Parameter
  returns : String
  docstring : Option String
  body : Expr
deriving Repr, DecidableEq

/-- The mark on every accessor. -/
def selectorDecorator : String := "@runtime.graphql_selector"

/-- A longer signature gets one parameter per line. -/
def maxSignature : Nat := 99

def Method.signature (m : Method) : List String :=
  let parameters := m.parameters.map Parameter.text
  let line := indent ++ "def " ++ m.name ++ "(" ++ Text.join ", " parameters ++ ") -> " ++
    m.returns ++ ":"
  if line.length ≤ maxSignature then [line]
  else
    [indent ++ "def " ++ m.name ++ "("] ++ parameters.map (fun p => indent ++ indent ++ p ++ ",") ++
      [indent ++ ") -> " ++ m.returns ++ ":"]

/-- A docstring between its quotes. -/
def quotedDocstring (description : String) : String :=
  "\"\"\"" ++ Text.docstring description ++ "\"\"\""

def Method.text (m : Method) : String :=
  Text.join "\n" ([indent ++ selectorDecorator] ++ m.signature ++
    (m.docstring.map fun d => indent ++ indent ++ quotedDocstring d).toList ++
    [indent ++ indent ++ "return " ++ m.body.text])

structure ClassDeclaration where
  name : String
  base : String
  description : Option String
  attributes : List Attribute
  methods : List Method
deriving Repr, DecidableEq

/-- The names that the body of a class binds. -/
def ClassDeclaration.boundNames (c : ClassDeclaration) : List String :=
  c.attributes.map Attribute.name ++ c.methods.map Method.name

/-- Attributes on consecutive lines, then the methods with a blank line before each. -/
def ClassDeclaration.body (c : ClassDeclaration) : String :=
  let attributes := if c.attributes.isEmpty then []
    else [Text.join "\n" (c.attributes.map Attribute.text)]
  match attributes ++ c.methods.map Method.text with
  | [] => indent ++ "pass"
  | parts => Text.join "\n\n" parts

def classLine (name base : String) : String :=
  "\n\nclass " ++ name ++ "(" ++ base ++ "):\n"

def docstringLines (description : String) : String :=
  indent ++ quotedDocstring description ++ "\n\n"

/-- A description of white space alone is left out. -/
def ClassDeclaration.text (c : ClassDeclaration) : String :=
  let description := (nonEmpty (c.description.map Text.docstring)).bind fun _ => c.description
  classLine c.name c.base ++ (description.map docstringLines).getD "" ++ c.body ++ "\n"

end SchemaClient.Module
