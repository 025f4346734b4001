import SchemaClient.Sdl.Grammar
import SchemaClient.Traced

/-! From a schema text to its document. -/
namespace SchemaClient.Schema

open Sdl

/-! ### The document that definitions merge into -/

/-- Types in order of first appearance, each with the members of all its blocks. -/
structure Document where
  objects : List (Block ObjectField) := []
  inputs : List (Block InputValue) := []
  enums : List (Block EnumValue) := []
  scalars : List String := []
  queryType : Option String := none
  mutationType : Option String := none

/-- Appends the members whose names are not there yet. -/
def addMembers (name : μ → String) (present : List μ) : List μ → List μ
  | [] => present
  | m :: rest =>
    if present.any fun p => name p == name m then addMembers name present rest
    else addMembers name (present ++ [m]) rest

/-- Takes in another block of the same type; a later description wins. -/
def absorb (name : μ → String) (old new : Block μ) : Block μ :=
  { old with
    description := new.description.or old.description
    members := addMembers name old.members new.members }

/-- Takes a block into the type of its name, or makes it a new type at the end. -/
def addBlock (name : μ → String) (new : Block μ) : List (Block μ) → List (Block μ)
  | [] => [absorb name { name := new.name } new]
  | b :: rest =>
    if b.name == new.name then absorb name b new :: rest else b :: addBlock name new rest

/-- Roots that are already known stay; subscriptions have no place. -/
def Document.addRoots (d : Document) (roots : List RootType) : Document :=
  roots.foldl (fun d root =>
    match root.operation with
    | .query => { d with queryType := d.queryType.or (some root.type) }
    | .mutation => { d with mutationType := d.mutationType.or (some root.type) }
    | .subscription => d) d

/-- A document in the making. -/
structure Draft extends Document where
  hasSchema : Bool := false

/-- Takes in a definition. Of several schema blocks the first counts. -/
def Draft.add (d : Draft) : Definition → Draft
  | .schema roots =>
    if d.hasSchema then d else { toDocument := d.toDocument.addRoots roots, hasSchema := true }
  | .schemaExtension roots => { d with toDocument := d.toDocument.addRoots roots }
  | .scalar name =>
    if d.scalars.contains name then d else { d with scalars := d.scalars ++ [name] }
  | .object block _ => { d with objects := addBlock ObjectField.name block d.objects }
  | .input block => { d with inputs := addBlock InputValue.name block d.inputs }
  | .enum block => { d with enums := addBlock EnumValue.name block d.enums }
  | .scalarExtension _ | .interface _ | .union _ | .directive _ | .operation | .fragment => d

/-- Why a definition has no place in a client. -/
def rejection? : Definition → Option Error
  | .interface name => some (.unsupportedConstruct "interface" (some name))
  | .union name => some (.unsupportedConstruct "union" (some name))
  | .directive name => some (.unsupportedConstruct "directive" (some name))
  | .object block (interface :: _) =>
    some (.unsupportedConstruct "interface implementation"
      (some (block.name ++ " implements " ++ interface)))
  | _ => none

def subscriptionEvents (roots : List RootType) : List Event :=
  (roots.filter fun root => root.operation = .subscription).map fun root =>
    .ignoredSubscription root.type

/-- What is told when a definition is taken in. -/
def Draft.events (d : Draft) : Definition → List Event
  | .schema roots => if d.hasSchema then [.extraSchema] else subscriptionEvents roots
  | .schemaExtension roots => subscriptionEvents roots
  | .scalarExtension _ => [.skippedDefinition "scalar_type_extension"]
  | .operation => [.skippedExecutable "operation_definition"]
  | .fragment => [.skippedExecutable "fragment_definition"]
  | _ => []

def Draft.step (d : Draft) (definition : Definition) : Traced Draft :=
  match rejection? definition with
  | some e => .fail e
  | none => do
    Traced.tell (d.events definition)
    return d.add definition

/-- Merges definitions in their order. The first one without a place is an error, and so is the
lack of a schema block. -/
def merge (definitions : List Definition) : Traced Document := do
  let d ← definitions.foldlM Draft.step {}
  if d.hasSchema then return d.toDocument else Traced.fail .noSchema

/-! ### Reading -/

/-- The error that a fault of the text becomes. One whose place cannot be shown is not reported. -/
def faultError (s : String) : Fault → Error
  | .offText => .offText
  | .malformed offset cause =>
    match report? s offset cause with
    | some report => .schemaSyntax report
    | none => .offText

def faultEvents : Fault → List Event
  | .offText => []
  | .malformed _ cause => [.schemaFault cause.report]

def read (s : String) : Traced Document :=
  if s.toList.all Text.isBlank then .fail .noSchema
  else
    match readDocument s with
    | .error fault => do
      Traced.tell (faultEvents fault)
      Traced.fail (faultError s fault)
    | .ok definitions => merge definitions

end SchemaClient.Schema
