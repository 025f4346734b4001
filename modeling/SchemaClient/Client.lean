import SchemaClient.Model.Member
import SchemaClient.Text.Literal

/-! What generated modules rely on: converters for enum values, the life of a client and the mark of
its selectors. -/
namespace SchemaClient

/-! ### Conversion of enum values -/

/-- The two tables of an enum. -/
structure Converter where
  wireToMember : Table String String
  memberToWire : Table String String
deriving Repr, DecidableEq

inductive ConversionError where
  | noEnum (name : String)
  | noMember (name : String)
  | unregistered (enum : String)
  /-- `shown` is how the message shows the value. -/
  | unknownValue (shown enum : String)
  /-- A text stands in the place of a method of the class. -/
  | replacedMethod
  /-- A member does not know its class. -/
  | replacedClass
deriving Repr, DecidableEq

def ConversionError.message? : ConversionError → Option String
  | noEnum name | noMember name => some name
  | unregistered enum => some ("No converter registered for " ++ enum)
  | unknownValue shown enum => some (shown ++ " is not a known value of " ++ enum)
  | replacedMethod | replacedClass => none

namespace EnumClass

/-- The class of a name; of several, the last. -/
def find (classes : List EnumClass) (name : String) : Except ConversionError EnumClass :=
  match (Table.ofPairs (classes.map fun c => (c.enum.name, c))).get? name with
  | some c => .ok c
  | none => .error (.noEnum name)

/-- The member that a name stands for. -/
def findMember (c : EnumClass) (name : String) : Except ConversionError String :=
  if c.hasMember name then .ok (c.canonicalMember name) else .error (.noMember name)

/-- A member as the key of a table. -/
def keyOf (c : EnumClass) (member : String) : Except ConversionError String :=
  if c.isKeyed then .ok member else .error .replacedMethod

/-- How a message shows a member. -/
def showMember (c : EnumClass) (member : String) : Except ConversionError String :=
  let wire := (c.enum.memberToWire.get? member).getD ""
  if c.replaces ["__repr__"] then .error .replacedMethod
  else if c.replaces ["__class__"] then .error .replacedClass
  else .ok ("<" ++ c.enum.name ++ "." ++ member ++ ": " ++ Text.echo wire ++ ">")

end EnumClass

namespace Converter

/-- Tables over the members of an enum; a repeated key keeps its last value. -/
def ofTables (c : EnumClass) (wireToMember memberToWire : List (String × String)) :
    Except ConversionError Converter := do
  let wireToMember ← wireToMember.mapM fun p => do return (p.1, ← c.findMember p.2)
  let memberToWire ← memberToWire.mapM fun p => do return (← c.keyOf (← c.findMember p.1), p.2)
  return { wireToMember := .ofPairs wireToMember, memberToWire := .ofPairs memberToWire }

/-- The enum's own tables. -/
def ofClass (c : EnumClass) : Except ConversionError Converter :=
  ofTables c c.enum.wireToMember c.enum.memberToWire

end Converter

/-- A class of an enum with what tells it from all other classes, also from those of its name. -/
structure EnumType (κ : Type) extends EnumClass where
  identity : κ

/-- Converters by the identity of their class. Registering a class again replaces its tables. -/
abbrev ConverterRegistry (κ : Type) := Table κ Converter

namespace ConverterRegistry

variable {κ : Type} [DecidableEq κ]

def register (r : ConverterRegistry κ) (identity : κ) (c : Converter) : ConverterRegistry κ :=
  r.put identity c

def contains (r : ConverterRegistry κ) (identity : κ) : Bool :=
  (r.get? identity).isSome

def find (r : ConverterRegistry κ) (t : EnumType κ) : Except ConversionError Converter :=
  match r.get? t.identity with
  | some converter => .ok converter
  | none => .error (.unregistered t.enum.name)

def fromWire (r : ConverterRegistry κ) (t : EnumType κ) (wire : String) :
    Except ConversionError String := do
  match (← r.find t).wireToMember.get? wire with
  | some member => return member
  | none => throw (.unknownValue (Text.echo wire) t.enum.name)

def toWire (r : ConverterRegistry κ) (t : EnumType κ) (name : String) :
    Except ConversionError String := do
  let member ← t.findMember name
  let converter ← r.find t
  match converter.memberToWire.get? (← t.keyOf member) with
  | some wire => return wire
  | none => throw (.unknownValue (← t.showMember member) t.enum.name)

end ConverterRegistry

/-! ### Clients -/

/-- A client by the number of times that its transport was closed. -/
structure Client where
  hasPipeline : Bool
  closed : Nat := 0
deriving Repr, DecidableEq

inductive ClientStep where
  | close
  | enter
  | exit
  /-- A scope that holds the client; `fails` if an error is raised inside. -/
  | scope (fails : Bool)
deriving Repr, DecidableEq

namespace Client

def close (c : Client) : Client :=
  { c with closed := c.closed + 1 }

/-- Leaving a scope closes the transport and lets an error pass. -/
def step (c : Client) : ClientStep → Client
  | .close | .exit | .scope _ => c.close
  | .enter => c

/-- Whether the step raises an error. -/
def raises : ClientStep → Bool
  | .scope fails => fails
  | .close | .enter | .exit => false

/-- The client after each step. -/
def run (c : Client) : List ClientStep → List Client
  | [] => []
  | s :: rest => c.step s :: (c.step s).run rest

end Client

/-! ### Selectors -/

/-- The value of the mark attribute. Only truth itself marks a selector. -/
inductive MarkValue where
  | boolean (value : Bool)
  | other
deriving Repr, DecidableEq

/-- Functions with the attribute, by name. -/
abbrev Marks := Table String MarkValue

namespace Marks

/-- Marks a function as a selector. -/
def mark (m : Marks) (function : String) : Marks :=
  m.put function (.boolean true)

def set (m : Marks) (function : String) (value : MarkValue) : Marks :=
  m.put function value

/-- A bound method has the mark of its function; no function has none. -/
def isSelector (m : Marks) (function : Option String) : Bool :=
  match function with
  | none => false
  | some f => m.get? f == some (.boolean true)

end Marks

end SchemaClient
