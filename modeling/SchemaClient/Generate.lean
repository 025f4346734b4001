import SchemaClient.Code.WellFormed
import SchemaClient.Hook
import SchemaClient.Model.Build
import SchemaClient.Module.Layout

/-! From a schema text to a client module. -/
namespace SchemaClient

/-! ### From a model to checked text -/

/-- What a template makes of a module, if it makes anything of it. -/
abbrev Renderer := Module → Except Error String

/-- What the program finds where it runs: the names of characters, by which module text may escape
them, and a template language. -/
structure Platform where
  characterNames : Code.CharacterNames
  /-- The template of a text, if the text is one. -/
  loadTemplate : String → Except Error Renderer

/-- How a module is laid out: as usual, or by a template. -/
inductive Layout where
  | standard
  | template (text : String)
  /-- By a template that cannot be read. -/
  | unreadable
deriving Repr, DecidableEq

def Layout.load (l : Layout) (p : Platform) : Except Error Renderer :=
  match l with
  | standard => .ok fun m => .ok m.text
  | template text => p.loadTemplate text
  | unreadable => .error .notText

namespace Model

/-- Every field has a type that a client can hold. -/
def supported (m : Model) : Except Error Unit :=
  m.classes.forM fun c => c.fields.forM fun f => f.type.supported

/-- Module text has no NUL character and follows the grammar. -/
def checkText (names : Code.CharacterNames) (filename content : String) : Except Error String :=
  if content.toList.contains (Char.ofNat 0) then .error .nulCharacter
  else if Code.wellFormed names content then .ok content
  else .error (.invalidModuleFor filename)

/-- Runs the hooks around the layout and checks the text that they leave. A template is loaded before
the module is made. -/
def render (m : Model) (p : Platform) (scalars : ScalarRegistry) (layout : Layout) (hooks : Hooks)
    (filename : String) : Traced String := do
  let m ← hooks.runPre m
  let renderer ← layout.load p
  m.supported
  let content ← renderer (.ofModel scalars m)
  let content ← hooks.runPost filename content
  checkText p.characterNames filename content

end Model

/-! ### From a schema text to a module -/

/-- How a client is generated. -/
structure Settings where
  namespaceName : String
  clientName : Option String := none
  scalars : ScalarRegistry := .standard
  layout : Layout := .standard
  /-- A directory for templates that is not there. -/
  missingTemplateDir : Option String := none
  hooks : Hooks := {}
  filename : String := "client.py"

/-- The text for a schema without a schema block. -/
def placeholder : String := "# Schema definition not found\n"

/-- The module of a document. -/
def generateFrom (p : Platform) (d : Schema.Document) (s : Settings) : Traced String := do
  let model ← Model.build d s.scalars s.namespaceName s.clientName
  Traced.tell (s.missingTemplateDir.toList.map .missingTemplateDir)
  model.render p s.scalars s.layout s.hooks s.filename

/-- A text without a schema block yields the placeholder, and nothing is built or run. All other
errors remain. -/
def generate (p : Platform) (sdl : String) (s : Settings) : Traced String :=
  let document := Schema.read sdl
  match document.result with
  | .error (.schemaNotFound message) =>
    ⟨document.events ++ [.placeholder message], .ok placeholder⟩
  | _ => document >>= fun d => generateFrom p d s

end SchemaClient
