import SchemaClient.Model.Basic
import SchemaClient.Sdl.Definition
import SchemaClient.Text.Literal
import SchemaClient.Text.Basic

/-! Default values of input fields: literals coerced to the type of their field. -/
namespace SchemaClient

open Sdl (Literal)

/-- Why a literal does not fit a type. -/
inductive Misfit where
  | nullOnNonNull
  | listOnNonList
  | notEnumLiteral (enum kind : String)
  | unknownValue (value enum : String)
  | inputObject (kind type : String)
  | notScalarLiteral (kind scalar : String)
  | foreignType (label : String)
deriving Repr, DecidableEq

def Misfit.reason : Misfit → String
  | nullOnNonNull => "null default on a non-null field"
  | listOnNonList => "list literal on a non-list field"
  | notEnumLiteral enum kind => "expected a " ++ enum ++ " value, got " ++ kind
  | unknownValue value enum => "'" ++ value ++ "' is not a value of " ++ enum
  | inputObject kind type => kind ++ " default for input object " ++ type
  | notScalarLiteral kind scalar => kind ++ " literal for scalar " ++ scalar
  | foreignType label => "unsupported type " ++ label

/-- A default value. Numbers keep their spelling. -/
inductive Value where
  | none
  | number (spelling : String)
  | text (s : String)
  | boolean (value : Bool)
  | member (enum name : String)
  | list (items : List Value)
deriving Repr

mutual

/-- The expression that denotes a value. -/
def Value.expression : Value → String
  | .none => "None"
  | .number spelling => spelling
  | .text s => Text.stringLiteral s
  | .boolean true => "True"
  | .boolean false => "False"
  | .member enum name => enum ++ "." ++ name
  | .list items => "[" ++ Text.join ", " (Value.expressions items) ++ "]"

def Value.expressions : List Value → List String
  | [] => []
  | v :: rest => v.expression :: Value.expressions rest

end

/-- The enum of a name; of several, the last. -/
def enumNamed? (enums : List Enum) (name : String) : Option Enum :=
  (Table.ofPairs (enums.map fun e => (e.name, e))).get? name

/-- The value of a literal other than null and lists, at a named type. -/
def coerceLeaf (enums : List Enum) (kind : Kind) (name : String) (v : Literal) :
    Except Misfit Value :=
  match kind, v with
  | .enum, .enum value =>
    match (enumNamed? enums name).bind fun e => e.wireToMember.get? value with
    | some member => .ok (.member name member)
    | none => .error (.unknownValue value name)
  | .enum, v => .error (.notEnumLiteral name v.kind)
  | .object, v => .error (.inputObject v.kind name)
  | .scalar, .int spelling => .ok (.number spelling)
  | .scalar, .float spelling => .ok (.number spelling)
  | .scalar, .string s => .ok (.text s)
  | .scalar, .boolean b => .ok (.boolean b)
  | .scalar, v => .error (.notScalarLiteral v.kind name)
  | .foreign, _ => .error (.foreignType name)

/-- The value that a literal has at a type. A single literal at a list level becomes a list of one
element. -/
def coerce (enums : List Enum) : Descriptor → Literal → Except Misfit Value
  | d, .null => if d.nullable then .ok .none else .error .nullOnNonNull
  | .list element _, .list items => (items.mapM (coerce enums element)).map .list
  | .list element _, v => (coerce enums element v).map fun item => .list [item]
  | .leaf .., .list _ => .error .listOnNonList
  | .leaf kind name _, v => coerceLeaf enums kind name v

/-- The default expression of an input field. -/
def defaultExpression (enums : List Enum) (type : Descriptor) (owner field : String) (v : Literal) :
    Except Error String :=
  match coerce enums type v with
  | .ok value => .ok value.expression
  | .error misfit => .error (.unsupportedDefault owner field misfit.reason)

end SchemaClient
