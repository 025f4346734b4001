import SchemaClient.Generate

/-! A small template language for the command line: text with slots that parts of a module fill.
Whatever else a template holds is refused. -/
namespace SchemaClient

inductive TemplateFilter where
  | snakeCase | pascalCase | stringLiteral | docstring
deriving DecidableEq, Repr

namespace TemplateFilter

def ofName? (name : String) : Option TemplateFilter :=
  match name with
  | "snake_case" => some .snakeCase
  | "pascal_case" => some .pascalCase
  | "string_literal" => some .stringLiteral
  | "safe_docstring" => some .docstring
  | _ => none

def apply (f : TemplateFilter) (s : String) : String :=
  match f with
  | snakeCase => Name.snakeCase s
  | pascalCase => Name.pascalCase s
  | stringLiteral => Text.stringLiteral s
  | docstring => Text.docstring s

end TemplateFilter

/-- A piece of a template. -/
inductive TemplatePiece where
  | literal (text : List Char)
  | slot (name : String) (filters : List TemplateFilter)

abbrev Template := List TemplatePiece

namespace Template

def unsupported : Error := .foreign "TemplateSyntaxError"

/-- Names with a meaning of their own, and those of lists. -/
def reservedNames : List String := [
  "and", "else", "if", "in", "is", "not", "or", "true", "false", "none", "True", "False", "None",
  "self", "range", "dict", "lipsum", "cycler", "joiner", "scalar_imports", "types", "inputs",
  "enums"]

/-- What stands between two pairs of braces: a variable and its filters, in between bars. -/
def slotOf (inside : List Char) : Except Error TemplatePiece :=
  match (Text.splitAt '|' inside).map Text.trim with
  | [] => .error unsupported
  | name :: filters => do
    let isName := name.head?.any Sdl.isNameStart && name.all Sdl.isNamePart
    unless isName && !reservedNames.contains (.ofList name) do throw unsupported
    let filters ← filters.mapM fun f =>
      match TemplateFilter.ofName? (.ofList f) with
      | some filter => .ok filter
      | none => .error unsupported
    return .slot (.ofList name) filters

/-- Reads on in a literal, or in a slot once `inside` is there. Both are kept back to front. -/
def readFrom (literal : List Char) (inside : Option (List Char)) :
    List Char → Except Error Template
  | [] => if inside.isNone then .ok [.literal literal.reverse] else .error unsupported
  | '{' :: '{' :: rest =>
    match inside with
    | none => readFrom literal (some []) rest
    | some _ => .error unsupported
  | '}' :: '}' :: rest =>
    match inside with
    | none => readFrom ('}' :: '}' :: literal) none rest
    | some slot => do
      let slot ← slotOf slot.reverse
      return .literal literal.reverse :: slot :: (← readFrom [] none rest)
  | '{' :: c :: rest =>
    -- other tags
    if c == '%' || c == '#' then .error unsupported
    else
      match inside with
      | none => readFrom ('{' :: literal) none (c :: rest)
      | some slot => readFrom literal (some ('{' :: slot)) (c :: rest)
  | c :: rest =>
    match inside with
    | none => readFrom (c :: literal) none rest
    | some slot => readFrom literal (some (c :: slot)) rest

/-- All newlines of a template are line feeds. -/
def ofText (s : String) : Except Error Template :=
  readFrom [] none (Text.unifyNewlines s.toList)

/-- An undefined variable is empty text, also as a docstring; other filters refuse it. -/
def fill (value : Option String) (filters : List TemplateFilter) : Except Error String :=
  match value, filters with
  | some s, _ => .ok (filters.foldl (fun s f => f.apply s) s)
  | none, [] => .ok ""
  | none, .docstring :: rest => .ok (rest.foldl (fun s f => f.apply s) "")
  | none, _ => .error (.foreign "TypeError")

/-- The parts of a module that a slot can name. -/
def value? (m : Module) (name : String) : Option String :=
  match name with
  | "namespace" => some m.namespaceName
  | "client_name" => some m.clientName
  | "query_root" => some m.queryRoot
  | "mutation_root" => some m.mutationRoot
  | "rebuild_targets" => some m.rebuildTargets
  | _ => none

def render (t : Template) : Renderer := fun m => do
  let parts ← t.mapM fun
    | .literal text => .ok (String.ofList text)
    | .slot name filters => fill (value? m name) filters
  return Text.join "" parts

end Template

/-- The platform of the command line. It has no table of character names and takes every text that is
spelled like a name for one. -/
def Platform.basic : Platform where
  characterNames name :=
    if name.all fun c => c.isAlphanum || c == ' ' || c == '-' then some 0xFFFD else none
  loadTemplate text := (Template.ofText text).map Template.render

end SchemaClient
