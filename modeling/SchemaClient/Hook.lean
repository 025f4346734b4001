import SchemaClient.Model.Basic
import SchemaClient.Text.Basic
import SchemaClient.Traced

/-! Hooks: changes to a model before it becomes text, and to the text before it is checked. Anyone
may bring hooks; a filter of types and a header are at hand. -/
namespace SchemaClient

/-- Which type names stay, by how they start and end. Empty texts do not count. -/
structure TypeFilter where
  excludeStart : Option String := none
  excludeEnd : Option String := none
  includeStart : Option String := none
  includeEnd : Option String := none
deriving Repr, DecidableEq

namespace TypeFilter

/-- Whether a condition is set and `test` holds for its text. -/
def applies (condition : Option String) (test : List Char → Bool) : Bool :=
  match condition with
  | none => false
  | some text => text != "" && test text.toList

def keeps (f : TypeFilter) (name : String) : Bool :=
  let starts := fun p => Text.startsWith p name.toList
  let ends := fun p => Text.endsWith p name.toList
  !applies f.excludeStart starts && !applies f.excludeEnd ends &&
    !applies f.includeStart (fun p => !starts p) && !applies f.includeEnd (fun p => !ends p)

/-- Root types always stay. -/
def keepsClass (f : TypeFilter) (m : Model) (c : Class) : Bool :=
  some c.name == m.queryType || some c.name == m.mutationType || f.keeps c.name

/-- The names of everything that goes. -/
def dropped (f : TypeFilter) (m : Model) : List String :=
  (m.types.filter fun c => !f.keepsClass m c).map Class.name ++
    (m.inputs.filter fun c => !f.keeps c.name).map Class.name ++
    (m.enums.filter fun e => !f.keeps e.name).map Enum.name

/-- The dropped types that a field mentions. -/
def missing (dropped : List String) (field : Field) : List String :=
  field.references.filter dropped.contains

/-- A field that mentions a dropped type goes too. -/
def prune (dropped : List String) (c : Class) : Class :=
  { c with fields := c.fields.filter fun f => (missing dropped f).isEmpty }

def keptTypes (f : TypeFilter) (m : Model) : List Class :=
  m.types.filter (f.keepsClass m)

def keptInputs (f : TypeFilter) (m : Model) : List Class :=
  m.inputs.filter fun c => f.keeps c.name

/-- The model with what is kept. -/
def apply (f : TypeFilter) (m : Model) : Model :=
  let dropped := f.dropped m
  { m with
    types := (f.keptTypes m).map (prune dropped)
    inputs := (f.keptInputs m).map (prune dropped)
    enums := m.enums.filter fun e => f.keeps e.name }

/-! A type that no client models has no name to look up, so that a field with one stops the
pruning: the classes before its own are pruned, and the others stay. -/

/-- The field mentions named types only. -/
def isNamed (field : Field) : Bool :=
  field.types.all fun d => d.kind ≠ .foreign

def isPrunable (c : Class) : Bool :=
  c.fields.all isNamed

/-- Whether a field stops the pruning. -/
def stops (f : TypeFilter) (m : Model) : Bool :=
  !(f.dropped m).isEmpty && !(f.keptTypes m ++ f.keptInputs m).all isPrunable

private def pruneWhile (dropped : List String) (classes : List Class) : List Class :=
  (classes.takeWhile isPrunable).map (prune dropped) ++ classes.dropWhile isPrunable

/-- The model as it is left where a field stops the pruning. -/
def stopped (f : TypeFilter) (m : Model) : Model :=
  let dropped := f.dropped m
  let types := f.keptTypes m
  let inputs := f.keptInputs m
  { m with
    types := pruneWhile dropped types
    inputs := if types.all isPrunable then pruneWhile dropped inputs else inputs
    enums := m.enums.filter fun e => f.keeps e.name }

def fieldEvents (dropped : List String) (c : Class) : List Event :=
  (c.fields.takeWhile isNamed).flatMap fun f =>
    match missing dropped f with
    | [] => []
    | names => [.droppedField c.name f.wireName names]

def events (f : TypeFilter) (m : Model) : List Event :=
  match f.dropped m with
  | [] => []
  | dropped =>
    let classes := f.keptTypes m ++ f.keptInputs m
    .filteredTypes (Text.sortedSet dropped) ::
      (classes.take ((classes.takeWhile isPrunable).length + 1)).flatMap (fieldEvents dropped)

end TypeFilter

/-! ### Hooks -/

/-- A change to a model before it becomes text. -/
structure PreHook where
  /-- The changed model and what is told of it, or why there is none. -/
  run : Model → Traced Model
  /-- What is left of the model where the change fails. -/
  leave : Model → Model := id

/-- A change to the text for a file. -/
abbrev PostHook := (filename content : String) → Except Error String

/-- What may be run around the layout: anything that has one of the two changes, or both. -/
structure Hook where
  pre : Option PreHook := none
  post : Option PostHook := none

namespace Hook

/-- Puts a text before the module, with a blank line between them. -/
def header (text : String) : Hook where
  post := some fun _ content =>
    .ok (String.ofList (Text.dropEndWhile (· == '\n') text.toList) ++ "\n\n" ++ content)

/-- Drops types by their names. -/
def filter (f : TypeFilter) : Hook where
  pre := some
    { run := fun m => ⟨f.events m, if f.stops m then .error .missingPart else .ok (f.apply m)⟩
      leave := f.stopped }

/-- The hook changes models. -/
def isPre (h : Hook) : Bool :=
  h.pre.isSome

/-- The hook changes text. -/
def isPost (h : Hook) : Bool :=
  h.post.isSome

def runPre (h : Hook) (m : Model) : Traced Model :=
  match h.pre with
  | some hook => hook.run m
  | none => .fail .missingPart

/-- The model that the hook leaves behind, also if it fails. -/
def leave (h : Hook) (m : Model) : Model :=
  match (h.runPre m).result, h.pre with
  | .ok changed, _ => changed
  | .error _, some hook => hook.leave m
  | .error _, none => m

def runPost (h : Hook) (filename content : String) : Except Error String :=
  match h.post with
  | some hook => hook filename content
  | none => .error .missingPart

end Hook

/-- Hooks in the order in which they run. -/
structure Hooks where
  pre : List Hook := []
  post : List Hook := []

namespace Hooks

def runPre (hs : Hooks) (m : Model) : Traced Model :=
  hs.pre.foldlM (fun m h => h.runPre m) m

/-- The model that the hooks leave behind; none runs after one that fails. -/
def leave (hs : Hooks) (m : Model) : Model :=
  go hs.pre m
where
  go : List Hook → Model → Model
    | [], m => m
    | h :: rest, m =>
      match (h.runPre m).result with
      | .ok changed => go rest changed
      | .error _ => h.leave m

def runPost (hs : Hooks) (filename content : String) : Except Error String :=
  hs.post.foldlM (fun content h => h.runPost filename content) content

end Hooks

end SchemaClient
