import SchemaClient.Descriptor
import SchemaClient.Model.Basic
import SchemaClient.Module.Declaration
import SchemaClient.Name

/-! From the classes of a model to declarations. -/
namespace SchemaClient.Module

def describe (description : Option String) : List FieldOption :=
  ((nonEmpty description).map .description).toList

/-- A response holds the selected fields only, so that every attribute may be absent. -/
def plainAttribute (scalars : ScalarRegistry) (f : Field) : Attribute :=
  { name := f.name
    hint := f.type.hint scalars
    options := [.default "None", .wireName f.wireName] ++ describe f.description }

/-- The attribute that holds the value of an accessor. -/
def backingAttribute (scalars : ScalarRegistry) (f : Field) : Attribute :=
  { name := f.backingName
    hint := f.type.hint scalars
    options := [.default "None", .wireName f.wireName, .hidden] }

/-- Lists must not be shared, and enums are declared behind the inputs: such defaults are
evaluated when an instance is made. -/
def defaultOption (f : Field) : Option FieldOption :=
  match f.default with
  | some expression =>
    if expression != "None" && (f.type.isList || f.type.kind = .enum) then
      some (.factory expression)
    else some (.default expression)
  | none => if f.type.nullable then some (.default "None") else none

def inputAttribute (scalars : ScalarRegistry) (f : Field) : Attribute :=
  { name := f.name
    hint := f.type.hint scalars
    options := (defaultOption f).toList ++ [.wireName f.wireName] ++ describe f.description }

/-- The name of the selector parameter, apart from the arguments. -/
def selectorName (arguments : List String) : String :=
  if arguments.contains "selector" then Name.unique arguments "field_selector" else "selector"

/-- A method that projects the value by a selector or, where there is nothing to select, returns
it. -/
def accessor (scalars : ScalarRegistry) (f : Field) : Method :=
  let arguments := f.arguments.map fun a => ({ name := a.name, hint := a.hint } : Parameter)
  let value := Expr.atom ("self." ++ f.backingName)
  if f.type.requiresSelector then
    let selector := selectorName (f.arguments.map Argument.name)
    { name := f.name
      parameters := { name := "self" } :: arguments ++
        [{ name := selector, hint := "typing.Callable[[" ++ f.type.name ++ "], T]" }]
      returns := f.type.selectedHint scalars "T"
      docstring := nonEmpty f.description
      body := f.type.project selector 0 value }
  else
    { name := f.name
      parameters := { name := "self" } :: arguments
      returns := f.type.hint scalars
      docstring := nonEmpty f.description
      body := value }

/-- The base class; roots are told apart by their names. -/
def baseOf (m : Model) (c : Class) : String :=
  if c.isInput then "runtime.GraphQLModel"
  else if some c.name == m.queryType then "runtime.QueryRoot"
  else if some c.name == m.mutationType then "runtime.MutationRoot"
  else "runtime.GraphQLModel"

def attributeOf (scalars : ScalarRegistry) (c : Class) (f : Field) : Attribute :=
  if c.isInput then inputAttribute scalars f
  else if f.isAccessor then backingAttribute scalars f
  else plainAttribute scalars f

def declare (scalars : ScalarRegistry) (m : Model) (c : Class) : ClassDeclaration :=
  { name := c.name
    base := baseOf m c
    description := c.description
    attributes := c.fields.map (attributeOf scalars c)
    methods := if c.isInput then [] else (c.fields.filter Field.isAccessor).map (accessor scalars) }

end SchemaClient.Module
