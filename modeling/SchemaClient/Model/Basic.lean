import SchemaClient.Descriptor
import SchemaClient.Table
import SchemaClient.Text.Basic

/-! The model of a client module: its classes and enums, with the names that they get. -/
namespace SchemaClient

/-- A parameter of an accessor. -/
structure Argument where
  name : String
  wireName : String
  hint : String
  type : Option Descriptor := none
deriving Repr, DecidableEq

/-- A member of a class. The default is an expression. -/
structure Field where
  name : String
  wireName : String
  type : Descriptor
  arguments : List Argument := []
  default : Option String := none
  description : Option String := none
deriving Repr, DecidableEq

namespace Field

/-- The name of the attribute that holds the value of an accessor called `name`. -/
def backing (name : String) : String :=
  "raw_" ++ name

def backingName (f : Field) : String :=
  backing f.name

/-- Values that need a selector or arguments are read through a method. -/
def isAccessor (f : Field) : Bool :=
  f.type.requiresSelector || !f.arguments.isEmpty

/-- All types that the field mentions, its own first. -/
def types (f : Field) : List Descriptor :=
  f.type :: f.arguments.filterMap Argument.type

/-- The objects, inputs and enums that the field mentions, sorted. -/
def references (f : Field) : List String :=
  let named := f.types.filter fun d => d.kind = .object || d.kind = .enum
  Text.sortedSet (named.map Descriptor.name)

end Field

structure EnumEntry where
  wireName : String
  memberName : String
  description : Option String := none
deriving Repr, DecidableEq

structure Enum where
  name : String
  entries : List EnumEntry := []
  description : Option String := none
deriving Repr, DecidableEq

namespace Enum

def wireToMember (e : Enum) : Table String String :=
  .ofPairs (e.entries.map fun v => (v.wireName, v.memberName))

def memberToWire (e : Enum) : Table String String :=
  .ofPairs (e.entries.map fun v => (v.memberName, v.wireName))

end Enum

/-- The class of an object or input type. -/
structure Class where
  name : String
  fields : List Field := []
  isInput : Bool := false
  description : Option String := none
deriving Repr, DecidableEq

structure Model where
  namespaceName : String
  clientName : String
  queryType : Option String := none
  mutationType : Option String := none
  types : List Class := []
  inputs : List Class := []
  enums : List Enum := []
  scalarImports : List String := []
deriving Repr, DecidableEq

def Model.classes (m : Model) : List Class :=
  m.types ++ m.inputs

end SchemaClient
