import SchemaClient.Module.Member

/-! The text of a whole module. -/
namespace SchemaClient

/-- What a module is made of. Roots are written as references. -/
structure Module where
  namespaceName : String
  clientName : String
  queryRoot : String
  mutationRoot : String
  imports : List String
  types : List Module.ClassDeclaration
  inputs : List Module.ClassDeclaration
  enums : List Enum

namespace Module

/-- A root by its quoted name, or the neutral root. -/
def rootReference : Option String → String
  | none => "runtime.Unit"
  | some name => Text.stringLiteral name

def ofModel (scalars : ScalarRegistry) (m : Model) : Module :=
  { namespaceName := m.namespaceName
    clientName := m.clientName
    queryRoot := rootReference m.queryType
    mutationRoot := rootReference m.mutationType
    imports := m.scalarImports
    types := m.types.map (declare scalars m)
    inputs := m.inputs.map (declare scalars m)
    enums := m.enums }

/-- All classes but the client and the enums. -/
def classes (m : Module) : List ClassDeclaration :=
  m.types ++ m.inputs

@[simp] theorem classes_ofModel (scalars : ScalarRegistry) (m : Model) :
    (ofModel scalars m).classes = m.classes.map (declare scalars m) :=
  List.map_append.symm

/-- The classes as a tuple: a single one is followed by a comma. -/
def rebuildTargets (m : Module) : String :=
  match m.classes with
  | [c] => c.name ++ ","
  | classes => Text.join ", " (classes.map ClassDeclaration.name)

def header (m : Module) : String :=
  "# This file was generated by selectql. Do not edit.\n" ++
  "\"\"\"GraphQL client module for the " ++ Text.docstring m.namespaceName ++
  " namespace.\"\"\"\n\nfrom __future__ import annotations\n\nimport enum\nimport typing\n"

def importLines (m : Module) : String :=
  Text.join "" (m.imports.map (· ++ "\n"))

def clientText (m : Module) : String :=
  "\nimport httpx\nimport pydantic\n\nfrom selectql import runtime\n\n" ++
  "T = typing.TypeVar(\"T\")\n" ++
  classLine m.clientName
    ("runtime.GraphQLClient[" ++ m.queryRoot ++ ", " ++ m.mutationRoot ++ "]") ++
  "    \"\"\"GraphQL client bound to the " ++ Text.docstring m.namespaceName ++
  " schema roots.\"\"\"\n\n" ++
  "    def __init__(\n" ++
  "        self,\n" ++
  "        http_client: httpx.AsyncClient,\n" ++
  "        query_pipeline: runtime.QueryPipeline | None = None,\n" ++
  "    ):\n" ++
  "        super().__init__(http_client, query_pipeline)\n"

def enumText (e : Enum) : String :=
  let members := if e.entries.isEmpty then "    pass\n"
    else Text.join "" (e.entries.map fun v =>
      "    " ++ v.memberName ++ " = " ++ Text.stringLiteral v.wireName ++ "\n")
  classLine e.name "str, enum.Enum" ++
    ((nonEmpty e.description).map docstringLines).getD "" ++ members

/-- Registers both conversion tables of an enum. -/
def registrationText (e : Enum) : String :=
  let row := fun (key value : String) => "            " ++ key ++ ": " ++ value ++ ",\n"
  let member := fun (v : EnumEntry) => e.name ++ "." ++ v.memberName
  let wire := fun (v : EnumEntry) => Text.stringLiteral v.wireName
  "    registry.register(\n        " ++ e.name ++ ",\n        \x7b\n" ++
    Text.join "" (e.entries.map fun v => row (wire v) (member v)) ++
    "        \x7d,\n        \x7b\n" ++
    Text.join "" (e.entries.map fun v => row (member v) (wire v)) ++
    "        \x7d,\n    )\n"

def registrationHeader : String :=
  "\n\ndef register_enum_converters(registry: runtime.EnumConverterRegistry) -> None:\n" ++
  "    \"\"\"Register the wire-name conversion tables of every enum in this module.\n\n" ++
  "    Call once at startup with the registry used for (de)serialization.\n" ++
  "    \"\"\"\n"

/-- Resolves the references between classes once all are defined. -/
def rebuildText (m : Module) : String :=
  if m.rebuildTargets == "" then ""
  else "\n\nfor _model in (" ++ m.rebuildTargets ++ "):\n    _model.model_rebuild()\n"

def text (m : Module) : String :=
  m.header ++ m.importLines ++ m.clientText ++
    Text.join "" (m.classes.map ClassDeclaration.text) ++
    Text.join "" (m.enums.map enumText) ++
    registrationHeader ++ Text.join "" (m.enums.map registrationText) ++
    m.rebuildText

end Module

end SchemaClient
