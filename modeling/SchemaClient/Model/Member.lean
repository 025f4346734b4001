import SchemaClient.Model.Basic
import SchemaClient.Text.Basic

/-! The class of an enum: which of its entries are members, and when there is no such class. -/
namespace SchemaClient

/-- Why an enum has no class. -/
inductive EnumFault where
  | repeatedMember
  | reservedMember
  /-- The name of the enum holds a NUL character. -/
  | nulInName
  /-- A text stands in the place of a method that makes members. -/
  | replacedMethod
  /-- The members are not in the order that the enum states. -/
  | wrongOrder
deriving DecidableEq, Repr

/-- Whether exactly `n` underscores stand on either side of a name. -/
def isFramed (n : Nat) (name : String) : Bool :=
  let leading := fun (cs : List Char) => (cs.takeWhile (· == '_')).length
  2 * n < name.length && leading name.toList == n && leading name.toList.reverse == n

/-- Whether a name is private to a class. -/
def isPrivateTo (className name : String) : Bool :=
  let start := "_" ++ className ++ "__"
  start.length < name.length && Text.startsWith start.toList name.toList &&
    !Text.endsWith "__".toList name.toList

/-- Names between blanks and commas. -/
def listedNames (s : String) : List String :=
  let spaced := s.toList.map fun c => if Text.isBlank c || c == ',' then ' ' else c
  ((Text.splitAt ' ' spaced).filter fun name => !name.isEmpty).map String.ofList

structure EnumClass where
  enum : Enum
  members : List EnumEntry := []
  /-- Entries between double underscores: texts where a class has its methods. -/
  attributes : List String := []
  /-- Names that are to be no members. -/
  ignored : List String := []
  /-- Entries that were ignored. -/
  skipped : List String := []
  /-- The order that is stated for the members. -/
  order : List String := []

namespace EnumClass

def hasMember (c : EnumClass) (name : String) : Bool :=
  c.members.any fun v => v.memberName == name

/-- Members that share a wire name are one member: the first. -/
def canonicalMember (c : EnumClass) (name : String) : String :=
  match c.members.find? fun v => v.memberName == name with
  | none => name
  | some v => ((c.members.find? fun w => w.wireName == v.wireName).getD v).memberName

/-- Framed names that may be given, though they mean nothing for members of text. -/
def idleDirectives : List String := [
  "_generate_next_value_", "_numeric_repr_", "_missing_", "_iter_member_",
  "_iter_member_by_value_", "_iter_member_by_def_"]

/-- Adds an entry with one underscore on either side of its name. -/
def direct (c : EnumClass) (v : EnumEntry) : Except EnumFault EnumClass :=
  match v.memberName with
  | "_order_" => .ok { c with order := listedNames v.wireName }
  | "_ignore_" =>
    let ignored := listedNames v.wireName
    if ignored.any c.hasMember then .error .reservedMember else .ok { c with ignored }
  | name => if idleDirectives.contains name then .ok c else .error .reservedMember

def add (c : EnumClass) (v : EnumEntry) : Except EnumFault EnumClass :=
  let name := v.memberName
  if isPrivateTo c.enum.name name then .ok c
  else if isFramed 1 name then c.direct v
  else if name == "__order__" then .ok { c with order := listedNames v.wireName }
  else if isFramed 2 name then .ok { c with attributes := name :: c.attributes }
  else if c.hasMember name then .error .repeatedMember
  else if c.ignored.contains name then .ok { c with skipped := name :: c.skipped }
  else if c.skipped.contains name then .error .repeatedMember
  else .ok { c with members := c.members ++ [v] }

/-- Whether a text stands in the place of one of some methods. -/
def replaces (c : EnumClass) (methods : List String) : Bool :=
  methods.any fun m => c.attributes.contains m && !c.ignored.contains m

/-- Whether members can be the keys of a table. -/
def isKeyed (c : EnumClass) : Bool :=
  !c.replaces ["__hash__", "__eq__"]

def canMakeMembers (c : EnumClass) : Bool :=
  !c.replaces ["__classcell__"] && (c.members.isEmpty ||
    !c.replaces ["__new__", "__init__", "__getattr__", "__getattribute__", "__setattr__"])

def followsOrder (c : EnumClass) : Bool :=
  let canonical := fun (names : List String) => names.filter fun n => c.canonicalMember n == n
  c.order.isEmpty || c.ignored.contains "_order_" || canonical c.order == canonical
    (c.members.map EnumEntry.memberName)

end EnumClass

/-- The class of an enum. -/
def Enum.makeClass (e : Enum) : Except EnumFault EnumClass := do
  let c ← e.entries.foldlM EnumClass.add { enum := e }
  if c.hasMember "mro" || c.hasMember "" then throw .reservedMember
  if e.name.toList.any fun ch => ch.toNat == 0 then throw .nulInName
  unless c.canMakeMembers do throw .replacedMethod
  unless c.followsOrder do throw .wrongOrder
  return c

end SchemaClient
