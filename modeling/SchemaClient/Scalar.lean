import SchemaClient.Table
import SchemaClient.Text.Basic

/-! Scalars: which type text stands for each of them, and what it needs to be imported. -/
namespace SchemaClient

/-- The type text of a scalar and its import line, if it needs one. -/
structure ScalarMapping where
  typeText : String
  importLine : Option String
deriving DecidableEq, Repr

abbrev ScalarRegistry := Table String ScalarMapping

namespace ScalarRegistry

/-- The scalars of the language itself. -/
def builtins : Table String String := [
  ("String", "str"), ("Int", "int"), ("Float", "float"), ("Boolean", "bool"), ("ID", "str")]

def builtinNames : List String :=
  builtins.map Prod.fst

/-- Type text of a scalar without a mapping. -/
def unmapped : String := "typing.Any"

def standard : ScalarRegistry := [
  ("DateTime", ⟨"datetime", some "from datetime import datetime"⟩),
  ("Date", ⟨"date", some "from datetime import date"⟩),
  ("UUID", ⟨"UUID", some "from uuid import UUID"⟩),
  ("JSON", ⟨unmapped, none⟩),
  ("JSONObject", ⟨unmapped, none⟩)]

def register (r : ScalarRegistry) (name : String) (mapping : ScalarMapping) : ScalarRegistry :=
  r.put name mapping

def has (r : ScalarRegistry) (name : String) : Bool :=
  (r.get? name).isSome

/-- What was registered for a scalar of the language itself does not count. -/
def typeText (r : ScalarRegistry) (name : String) : String :=
  match builtins.get? name with
  | some text => text
  | none =>
    match r.get? name with
    | some mapping => mapping.typeText
    | none => unmapped

/-- The import line of a scalar that needs one. -/
def importLine? (r : ScalarRegistry) (name : String) : Option String :=
  if builtinNames.contains name then none else (r.get? name).bind ScalarMapping.importLine

/-- The import lines that the scalars need, sorted. -/
def importsFor (r : ScalarRegistry) (names : List String) : List String :=
  Text.sortedSet (names.filterMap r.importLine?)

end ScalarRegistry

end SchemaClient
