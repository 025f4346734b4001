import SchemaClient.Scalar
import SchemaClient.Schema

/-! Types of values: a named type under any number of list levels, each level nullable or not. -/
namespace SchemaClient

inductive Kind where
  | scalar | enum | object
  /-- A kind of type that no client models. -/
  | foreign
deriving DecidableEq, Repr

inductive Descriptor where
  | leaf (kind : Kind) (name : String) (nullable : Bool)
  | list (element : Descriptor) (nullable : Bool)
deriving DecidableEq, Repr

namespace Descriptor

def nullable : Descriptor → Bool
  | leaf _ _ n => n
  | list _ n => n

/-- The named type under all list levels. -/
def innermost : Descriptor → Descriptor
  | leaf kind name n => leaf kind name n
  | list element _ => element.innermost

/-- The kind of the named type under all list levels. -/
def kind : Descriptor → Kind
  | leaf kind _ _ => kind
  | list element _ => element.kind

/-- The name of the named type under all list levels. -/
def name : Descriptor → String
  | leaf _ name _ => name
  | list element _ => element.name

def isList : Descriptor → Bool
  | leaf .. => false
  | list .. => true

/-- Values with objects in them are projected by a selector. -/
def requiresSelector (d : Descriptor) : Bool :=
  d.kind = .object

/-- Fails on a type that no client models. -/
def supported (d : Descriptor) : Except Error Unit :=
  if d.kind = .foreign then .error (.unsupportedConstruct "type descriptor" (some d.name))
  else .ok ()

end Descriptor

/-! ### Type hints -/

/-- A hint that also admits the absent value. The hint for any value already does. -/
def orNone (hint : String) (nullable : Bool) : String :=
  if nullable && hint != ScalarRegistry.unmapped then hint ++ " | None" else hint

namespace Descriptor

/-- `list[str] | None` for a nullable list of texts. -/
def hint (scalars : ScalarRegistry) : Descriptor → String
  | leaf .scalar name n => orNone (scalars.typeText name) n
  | leaf _ name n => orNone name n
  | list element n => orNone ("list[" ++ element.hint scalars ++ "]") n

/-- The hint with `result` in place of the innermost object: what an accessor returns. -/
def selectedHint (scalars : ScalarRegistry) (result : String) : Descriptor → String
  | leaf .object _ n => orNone result n
  | leaf kind name n => (leaf kind name n).hint scalars
  | list element n => orNone ("list[" ++ element.selectedHint scalars result ++ "]") n

end Descriptor

/-! ### Projections -/

inductive Expr where
  /-- A variable or an attribute. -/
  | atom (text : String)
  | call (function : String) (argument : Expr)
  /-- `value`, or nothing where `subject` is absent. -/
  | ifPresent (subject value : Expr)
  /-- `body` for every `item` in `source`. -/
  | each (body : Expr) (item : String) (source : Expr)
deriving DecidableEq, Repr

def Expr.text : Expr → String
  | atom text => text
  | call function argument => function ++ "(" ++ argument.text ++ ")"
  | ifPresent subject value => value.text ++ " if " ++ subject.text ++ " is not None else None"
  | each body item source =>
    "[" ++ body.text ++ " for " ++ item ++ " in " ++ source.text ++ "]"

/-- The loop variable at a list level. -/
def itemName (depth : Int) : String :=
  if depth = 0 then "item" else "item" ++ toString depth

namespace Descriptor

def guarded (nullable : Bool) (subject value : Expr) : Expr :=
  if nullable then .ifPresent subject value else value

/-- Absent values stay absent, lists are projected element by element, and values without objects
stay as they are. -/
def project (selector : String) (depth : Int) (subject : Expr) : Descriptor → Expr
  | leaf .object _ n => guarded n subject (.call selector subject)
  | leaf .. => subject
  | list element n =>
    if element.requiresSelector then
      let item := itemName depth
      guarded n subject (.each (element.project selector (depth + 1) (.atom item)) item subject)
    else subject

end Descriptor

open Sdl

/-! ### From type references to descriptors -/

/-- The names that are known to be enums and scalars. Any other name is an object. -/
structure Resolver where
  enums : List String
  scalars : List String

namespace Resolver

def ofDocument (d : Schema.Document) : Resolver :=
  ⟨d.enums.map Block.name, ScalarRegistry.builtinNames ++ d.scalars⟩

def kindOf (r : Resolver) (name : String) : Kind :=
  if r.enums.contains name then .enum
  else if r.scalars.contains name then .scalar
  else .object

/-- `nullable` holds for the outermost level unless the reference says otherwise. -/
def resolve (r : Resolver) (nullable : Bool) : TypeRef → Descriptor
  | .nonNull of => r.resolve false of
  | .list of => .list (r.resolve true of) nullable
  | .named name => .leaf (r.kindOf name) name nullable

end Resolver

/-- A tree that should be a type reference, but may hold another construct. -/
inductive TypeNode where
  | named (name : String)
  | list (of : TypeNode)
  | nonNull (of : TypeNode)
  | other (construct : String)
deriving DecidableEq, Repr

def TypeNode.typeRef : TypeNode → Except Error TypeRef
  | .named name => .ok (.named name)
  | .list of => of.typeRef.map .list
  | .nonNull of => of.typeRef.map .nonNull
  | .other construct => .error (.unsupportedConstruct "type reference" (some construct))

def Resolver.resolveNode (r : Resolver) (nullable : Bool) (node : TypeNode) :
    Except Error Descriptor :=
  node.typeRef.map (r.resolve nullable)

end SchemaClient
