import SchemaClient.Descriptor
import SchemaClient.Model.Default
import SchemaClient.Name
import SchemaClient.Text.Character

/-! Building the model of a client from a schema document. -/
namespace SchemaClient

open Sdl

namespace Model

def defaultClientName : String := "GraphQLClient"

/-- What the members of all classes depend on. -/
structure Context where
  resolver : Resolver
  scalars : ScalarRegistry
  enums : List Enum
  reserved : List String

/-! ### Names of types -/

/-- Names that the module binds or reads besides those of the schema's own types. -/
def moduleNames (d : Schema.Document) (scalars : ScalarRegistry) : List String :=
  Name.moduleNames ++ Name.builtinNames ++
    d.scalars.map fun s => .ofList (Text.leadingName (scalars.typeText s).toList)

def typeNames (d : Schema.Document) : List String :=
  d.objects.map Block.name ++ d.inputs.map Block.name ++ d.enums.map Block.name

def moduleConflict : String := "a name used by the generated module"

def clientConflict : String := "the client class name"

/-- What a type name conflicts with, if anything. -/
def conflict? (moduleNames : List String) (clientName name : String) : Option Error :=
  if moduleNames.contains name then some (.nameConflict name moduleConflict)
  else if name == clientName then some (.nameConflict name clientConflict)
  else none

/-- The client name is checked first, then the type names in their order. -/
def checkNames (moduleNames : List String) (clientName : String) (typeNames : List String) :
    Except Error Unit :=
  if moduleNames.contains clientName then .error (.nameConflict clientName moduleConflict)
  else
    match typeNames.findSome? (conflict? moduleNames clientName) with
    | some e => .error e
    | none => .ok ()

/-! ### Members -/

/-- A member name that is free, and whose backing name is free too if it is `backed`. A reserved
name gets an underscore first. -/
def allocate (reserved taken : List String) (wire : String) (backed : Bool) : String :=
  let preferred := Name.memberName wire
  let name := if reserved.contains preferred then preferred ++ "_" else preferred
  let free := fun n => !taken.contains n && !(backed && taken.contains (Field.backing n))
  Name.fresh free name (2 * taken.length + 1)

/-- The names that a field takes in its class. -/
def takenBy (f : Field) (backed : Bool) : List String :=
  if backed then [f.name, f.backingName] else [f.name]

def renameEvents (f : Field) : List Event :=
  if f.name == Name.memberName f.wireName then [] else [.renamedMember f.wireName f.name]

/-- The parameters of an accessor, apart from each other and from those in `taken`. -/
def buildArguments (c : Context) (taken : List String) : List InputValue → List Argument
  | [] => []
  | a :: rest =>
    let preferred := Name.memberName a.name
    let name := Name.unique taken (if preferred == "self" then "self_" else preferred)
    let type := c.resolver.resolve true a.type
    { name, wireName := a.name, hint := type.hint c.scalars, type := some type } ::
      buildArguments c (name :: taken) rest

def buildObjectField (c : Context) (taken : List String) (f : ObjectField) : Field :=
  let type := c.resolver.resolve true f.type
  let arguments := buildArguments c ["self"] f.arguments
  let backed := type.requiresSelector || !arguments.isEmpty
  { name := allocate c.reserved taken f.name backed
    wireName := f.name
    type
    arguments
    description := f.description }

def buildObjectFields (c : Context) (taken : List String) : List ObjectField → List Field
  | [] => []
  | f :: rest =>
    let built := buildObjectField c taken f
    built :: buildObjectFields c (takenBy built built.isAccessor ++ taken) rest

def buildObject (c : Context) (b : Block ObjectField) : Class :=
  { name := b.name
    fields := buildObjectFields c [] b.members
    description := b.description }

def buildInputField (c : Context) (owner : String) (taken : List String) (f : InputValue) :
    Except Error Field := do
  let type := c.resolver.resolve true f.type
  let default ← f.default.mapM (defaultExpression c.enums type owner f.name)
  return {
    name := allocate c.reserved taken f.name false
    wireName := f.name
    type
    default
    description := f.description }

def buildInputFields (c : Context) (owner : String) (taken : List String) :
    List InputValue → Traced (List Field)
  | [] => return []
  | f :: rest => do
    let built ← buildInputField c owner taken f
    Traced.tell (renameEvents built)
    return built :: (← buildInputFields c owner (takenBy built false ++ taken) rest)

def buildInput (c : Context) (b : Block InputValue) : Traced Class := do
  return {
    name := b.name
    fields := ← buildInputFields c b.name [] b.members
    isInput := true
    description := b.description }

def buildEntries (taken : List String) : List EnumValue → List EnumEntry
  | [] => []
  | v :: rest =>
    let member := Name.unique taken (Name.enumMemberName v.name)
    { wireName := v.name, memberName := member, description := v.description } ::
      buildEntries (member :: taken) rest

def buildEnum (b : Block EnumValue) : Enum :=
  { name := b.name, entries := buildEntries [] b.members, description := b.description }

/-! ### The whole model -/

/-- Roots that no object type defines. -/
def rootEvents (d : Schema.Document) : List Event :=
  let roots := d.queryType.toList ++ d.mutationType.toList
  (roots.filter fun r => !(d.objects.map Block.name).contains r).map .undefinedRoot

/-- The name given, unless it is missing or empty. -/
def effectiveClientName : Option String → String
  | none | some "" => defaultClientName
  | some name => name

def context (d : Schema.Document) (scalars : ScalarRegistry) : Context :=
  { resolver := .ofDocument d
    scalars
    enums := d.enums.map buildEnum
    reserved := moduleNames d scalars ++ typeNames d ++ Name.modelAttributes }

/-- Fails on a conflict of names, then on the first default that does not fit its field. -/
def build (d : Schema.Document) (scalars : ScalarRegistry) (namespaceName : String)
    (clientName : Option String) : Traced Model := do
  let clientName := effectiveClientName clientName
  checkNames (moduleNames d scalars) clientName (typeNames d)
  Traced.tell (rootEvents d)
  let c := context d scalars
  let types := d.objects.map (buildObject c)
  Traced.tell (types.flatMap fun t => t.fields.flatMap renameEvents)
  let inputs ← d.inputs.mapM (buildInput c)
  Traced.tell [.builtModel types.length inputs.length c.enums.length]
  return {
    namespaceName
    clientName
    queryType := d.queryType
    mutationType := d.mutationType
    types
    inputs
    enums := c.enums
    scalarImports := scalars.importsFor d.scalars }

end Model

end SchemaClient
