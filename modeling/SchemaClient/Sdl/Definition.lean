/-! Definitions of a schema document. -/
namespace SchemaClient.Sdl

/-- A reference to a type. -/
inductive TypeRef where
  | named (name : String)
  | list (of : TypeRef)
  | nonNull (of : TypeRef)
deriving DecidableEq, Repr

/-- A reference as it is written, without spaces. -/
def TypeRef.text : TypeRef → String
  | .named name => name
  | .list of => "[" ++ of.text ++ "]"
  | .nonNull of => of.text ++ "!"

/-- Numbers keep their spelling. -/
inductive Literal where
  | null
  | int (spelling : String)
  | float (spelling : String)
  | string (text : String)
  | boolean (value : Bool)
  | enum (name : String)
  | list (items : List Literal)
  | object (fields : List (String × Literal))
  | var (name : String)
deriving Repr

/-- The name of a literal's kind. -/
def Literal.kind : Literal → String
  | .null => "null_value"
  | .int _ => "int_value"
  | .float _ => "float_value"
  | .string _ => "string_value"
  | .boolean _ => "boolean_value"
  | .enum _ => "enum_value"
  | .list _ => "list_value"
  | .object _ => "object_value"
  | .var _ => "variable"

/-- A field of an input type, or an argument of a field. -/
structure InputValue where
  name : String
  type : TypeRef
  default : Option Literal := none
  description : Option String := none
deriving Repr

/-- A field of an object type. -/
structure ObjectField where
  name : String
  type : TypeRef
  arguments : List InputValue := []
  description : Option String := none
deriving Repr

structure EnumValue where
  name : String
  description : Option String := none
deriving DecidableEq, Repr

inductive Operation where
  | query | mutation | subscription
deriving DecidableEq, Repr

def Operation.ofName? (name : String) : Option Operation :=
  match name with
  | "query" => some .query
  | "mutation" => some .mutation
  | "subscription" => some .subscription
  | _ => none

/-- The root type of an operation. -/
structure RootType where
  operation : Operation
  type : String
deriving DecidableEq, Repr

/-- One block of a type: its definition or an extension of it. Extensions have no description. -/
structure Block (μ : Type) where
  name : String
  description : Option String := none
  members : List μ := []
deriving Repr

/-- What a document may define. A block of a type is a definition or an extension alike. -/
inductive Definition where
  | schema (roots : List RootType)
  | schemaExtension (roots : List RootType)
  | scalar (name : String)
  | scalarExtension (name : String)
  | object (block : Block ObjectField) (interfaces : List String)
  | input (block : Block InputValue)
  | enum (block : Block EnumValue)
  | interface (name : String)
  | union (name : String)
  | directive (name : String)
  | operation
  | fragment
deriving Repr

end SchemaClient.Sdl
