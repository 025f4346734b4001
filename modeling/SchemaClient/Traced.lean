import SchemaClient.Error

/-! Computations that may fail and leave a trace of events, also when they fail. -/
namespace SchemaClient

/-! ### Events -/

inductive Level where
  | debug | warning | error
deriving DecidableEq, Repr

inductive Event where
  | schemaFault (message : String)
  | skippedExecutable (kind : String)
  | skippedDefinition (kind : String)
  | extraSchema
  | ignoredSubscription (type : String)
  | undefinedRoot (type : String)
  | renamedMember (wire name : String)
  | builtModel (types inputs enums : Nat)
  | filteredTypes (names : List String)
  | droppedField (owner field : String) (missing : List String)
  | missingTemplateDir (path : String)
  | placeholder (message : String)
deriving DecidableEq, Repr

namespace Event

def level : Event → Level
  | schemaFault _ => .error
  | skippedExecutable _ | extraSchema | undefinedRoot _ | missingTemplateDir _ | placeholder _ =>
    .warning
  | skippedDefinition _ | ignoredSubscription _ | renamedMember .. | builtModel .. |
    filteredTypes _ | droppedField .. => .debug

def message : Event → String
  | schemaFault message => "Error parsing schema: " ++ message
  | skippedExecutable kind => "Skipping executable definition " ++ kind ++ " in schema"
  | skippedDefinition kind => "Skipping " ++ kind
  | extraSchema => "Multiple schema definitions found, using the first one"
  | ignoredSubscription type => "Ignoring subscription root " ++ type
  | undefinedRoot type => "Root type " ++ type ++ " is not defined in the schema"
  | renamedMember wire name => "Renamed member " ++ wire ++ " to " ++ name
  | builtModel types inputs enums =>
    "Built model with " ++ toString types ++ " types, " ++ toString inputs ++ " inputs, " ++
      toString enums ++ " enums"
  | filteredTypes names => "Filtered out types: " ++ Text.join ", " names
  | droppedField owner field missing =>
    "Dropping " ++ owner ++ "." ++ field ++ ", which refers to " ++ Text.join ", " missing
  | missingTemplateDir path => "Template directory " ++ path ++ " not found, using defaults"
  | placeholder message => message ++ ", emitting placeholder"

end Event

/-! ### Traced computations -/

structure Traced (α : Type) where
  events : List Event
  result : Except Error α

namespace Traced

def ok (a : α) : Traced α :=
  ⟨[], .ok a⟩

def fail (e : Error) : Traced α :=
  ⟨[], .error e⟩

def tell (events : List Event) : Traced Unit :=
  ⟨events, .ok ()⟩

/-- A failure keeps the events before it. -/
def andThen (x : Traced α) (f : α → Traced β) : Traced β :=
  match x.result with
  | .ok a =>
    let y := f a
    ⟨x.events ++ y.events, y.result⟩
  | .error e => ⟨x.events, .error e⟩

instance : Monad Traced where
  pure := ok
  bind := andThen

instance : MonadLift (Except Error) Traced where
  monadLift result := ⟨[], result⟩

@[simp] theorem result_pure (a : α) : (pure a : Traced α).result = .ok a := rfl

@[simp] theorem result_fail (e : Error) : (fail e : Traced α).result = .error e := rfl

@[simp] theorem result_tell (events : List Event) : (tell events).result = .ok () := rfl

theorem result_bind (x : Traced α) (f : α → Traced β) :
    (x >>= f).result = x.result.bind fun a => (f a).result := by
  obtain ⟨events, result⟩ := x
  cases result <;> rfl

end Traced

end SchemaClient
