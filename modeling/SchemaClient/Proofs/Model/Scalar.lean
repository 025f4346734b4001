import SchemaClient.Proofs.Model.Build
import SchemaClient.Proofs.Table
import SchemaClient.Proofs.Text.Sorted
import SchemaClient.Schema

/-! The scalars of a model: each one is builtin or declared, and a module imports what the mappings
of the declared ones need and nothing else, whatever was registered before. -/
namespace SchemaClient

/-! ### Registrations -/

namespace ScalarRegistry

/-- The standard registry after a history of registrations. -/
def ofHistory (history : List (String × ScalarMapping)) : ScalarRegistry :=
  history.foldl (fun r p => r.register p.1 p.2) standard

/-- The mapping in force after a history: the last one registered, or else the standard one. -/
def inForce? (history : List (String × ScalarMapping)) (name : String) : Option ScalarMapping :=
  (history.reverse.lookup name).or (standard.get? name)

/-- A history as if nothing had been registered for the scalars of the language itself. -/
def withoutBuiltins (history : List (String × ScalarMapping)) : List (String × ScalarMapping) :=
  history.filter fun p => !builtinNames.contains p.1

theorem get?_ofHistory (history : List (String × ScalarMapping)) (name : String) :
    (ofHistory history).get? name = inForce? history name :=
  Table.get?_foldl_put history standard name

theorem inForce?_withoutBuiltins {name : String} (h : name ∉ builtinNames)
    (history : List (String × ScalarMapping)) :
    inForce? (withoutBuiltins history) name = inForce? history name := by
  have hlookup : (withoutBuiltins history).reverse.lookup name = history.reverse.lookup name := by
    rw [withoutBuiltins, ← List.filter_reverse]
    exact Table.lookup_filter (fun n => !builtinNames.contains n) (by simpa using h) _
  rw [inForce?, hlookup, inForce?]

/-! ### Type texts and import lines -/

theorem typeText_of_mem_builtins (r : ScalarRegistry) {name text : String}
    (h : (name, text) ∈ builtins) : r.typeText name = text := by
  have hkeys : (builtins.map Prod.fst).Nodup := by decide
  have hget : builtins.get? name = some text := (Table.get?_eq_some_iff hkeys).mpr h
  rw [typeText, hget]

theorem importLine?_eq_some_iff {r : ScalarRegistry} {name line : String} :
    r.importLine? name = some line ↔
      name ∉ builtinNames ∧ ∃ mapping, r.get? name = some mapping ∧
        mapping.importLine = some line := by
  unfold importLine?
  split_ifs with hbuiltin
  · simp_all
  · rw [Option.bind_eq_some_iff]
    simp_all

theorem mem_importsFor {r : ScalarRegistry} {names : List String} {line : String} :
    line ∈ r.importsFor names ↔ ∃ name ∈ names, r.importLine? name = some line := by
  rw [importsFor, Text.mem_sortedSet, List.mem_filterMap]

/-- Imports do not depend on what is registered for the scalars of the language itself. -/
theorem importsFor_congr {r r' : ScalarRegistry}
    (h : ∀ name ∉ builtinNames, r.get? name = r'.get? name) (names : List String) :
    r.importsFor names = r'.importsFor names := by
  have hline : r.importLine? = r'.importLine? := by
    funext name
    unfold importLine?
    split_ifs with hbuiltin
    · rfl
    · rw [h name (by simpa using hbuiltin)]
  rw [importsFor, importsFor, hline]

end ScalarRegistry

/-! ### Scalars in types -/

theorem Resolver.mem_scalars_of_kindOf {r : Resolver} {name : String}
    (h : r.kindOf name = .scalar) : name ∈ r.scalars := by
  unfold kindOf at h
  split_ifs at h with henum hscalar
  exact List.contains_iff_mem.mp hscalar

/-- The scalar stands in the type of a field or of an argument, under any list levels. -/
def Model.UsesScalar (m : Model) (name : String) : Prop :=
  ∃ c ∈ m.classes, ∃ f ∈ c.fields, ∃ t ∈ f.types, t.kind = .scalar ∧ t.name = name

instance (m : Model) (name : String) : Decidable (m.UsesScalar name) :=
  inferInstanceAs (Decidable (∃ c ∈ m.classes, ∃ f ∈ c.fields, ∃ t ∈ f.types,
    t.kind = .scalar ∧ t.name = name))

section Built

variable {d : Schema.Document} {scalars : ScalarRegistry} {namespaceName : String}
  {clientName : Option String} {m : Model}

theorem Model.known_of_usesScalar
    (hm : (build d scalars namespaceName clientName).result = .ok m) {name : String}
    (h : m.UsesScalar name) : name ∈ ScalarRegistry.builtinNames ∨ name ∈ d.scalars := by
  obtain ⟨c, hc, f, hf, t, ht, hkind, rfl⟩ := h
  obtain ⟨reference, rfl⟩ := resolved_of_build hm hc hf t ht
  rw [Resolver.kind_resolve] at hkind
  exact List.mem_append.mp (Resolver.mem_scalars_of_kindOf hkind)

theorem Model.scalarImports_eq (hm : (build d scalars namespaceName clientName).result = .ok m) :
    m.scalarImports = scalars.importsFor d.scalars := by
  obtain ⟨-, _, -, rfl⟩ := result_build.mp hm
  rfl

end Built

open ScalarRegistry in
/-- Whatever was registered, the scalars in the types of a model are builtin or declared. The builtin
ones have their own type texts, and registrations for them do not change the imports. The imports
are in ascending order, and they are the lines of the declared scalars by the mappings in force, so
that every scalar in a type has what it needs. -/
theorem scalarImports_of_build {d : Schema.Document} {history : List (String × ScalarMapping)}
    {namespaceName : String} {clientName : Option String} {m : Model}
    (hm : (Model.build d (ofHistory history) namespaceName clientName).result = .ok m) :
    (∀ s, m.UsesScalar s → s ∈ builtinNames ∨ s ∈ d.scalars) ∧
    (∀ s text, (s, text) ∈ builtins → ∀ nullable,
      (Descriptor.leaf .scalar s nullable).hint (ofHistory history) = orNone text nullable) ∧
    m.scalarImports = (ofHistory (withoutBuiltins history)).importsFor d.scalars ∧
    (∀ s, m.UsesScalar s → s ∉ builtinNames → ∀ mapping line, inForce? history s = some mapping →
      mapping.importLine = some line → line ∈ m.scalarImports) ∧
    m.scalarImports.Pairwise (· < ·) ∧
    ∀ line ∈ m.scalarImports, ∃ s ∈ d.scalars, s ∉ builtinNames ∧
      ∃ mapping, inForce? history s = some mapping ∧ mapping.importLine = some line := by
  have himports := Model.scalarImports_eq hm
  refine ⟨fun s hs => Model.known_of_usesScalar hm hs, ?_, ?_, ?_, ?_, ?_⟩
  · intro s text htext nullable
    rw [Descriptor.hint, typeText_of_mem_builtins _ htext]
  · rw [himports]
    refine importsFor_congr (fun name hname => ?_) d.scalars
    rw [get?_ofHistory, get?_ofHistory, inForce?_withoutBuiltins hname]
  · intro s hs hbuiltin mapping line hmapping hline
    have hdeclared : s ∈ d.scalars := (Model.known_of_usesScalar hm hs).resolve_left hbuiltin
    rw [himports, mem_importsFor]
    refine ⟨s, hdeclared, importLine?_eq_some_iff.mpr ⟨hbuiltin, mapping, ?_, hline⟩⟩
    rw [get?_ofHistory, hmapping]
  · rw [himports]
    exact Text.pairwise_sortedSet _
  · intro line hline
    rw [himports, mem_importsFor] at hline
    obtain ⟨s, hs, hline⟩ := hline
    obtain ⟨hbuiltin, mapping, hmapping, hline⟩ := importLine?_eq_some_iff.mp hline
    rw [get?_ofHistory] at hmapping
    exact ⟨s, hs, hbuiltin, mapping, hmapping, hline⟩

/-- A scalar mapped twice, a standard one and a builtin one mapped anew, and one that is called like
an enum. -/
def remappings : List (String × ScalarMapping) := [
  ("Money", ⟨"Decimal", some "from decimal import Decimal"⟩),
  ("Date", ⟨"str", none⟩),
  ("ID", ⟨"UUID", some "from uuid import UUID"⟩),
  ("Kind", ⟨"kinds.Kind", some "import kinds"⟩),
  ("Money", ⟨"Money", some "from money import Money"⟩)]

def remappedScalars : String :=
  "schema\x7bquery:Q\x7d scalar Money scalar ID scalar Kind scalar Date scalar DateTime " ++
    "enum Kind\x7bA\x7d type Q\x7ba(x:[[Money!]]):[ID!]b:Kind c:Date\x7d input In\x7bt:[DateTime]\x7d"

open ScalarRegistry in
theorem scalarImports_of_build_remappings :
    ∃ d m, (Schema.read remappedScalars).result = .ok d ∧
      (Model.build d (ofHistory remappings) "Demo" none).result = .ok m ∧
      (d.scalars, m.scalarImports) = (["Money", "ID", "Kind", "Date", "DateTime"],
        ["from datetime import datetime", "from money import Money", "import kinds"]) ∧
      m.UsesScalar "Money" ∧ "from money import Money" ∈ m.scalarImports ∧
      (Descriptor.leaf .scalar "ID" true).hint (ofHistory remappings) = "str | None" ∧
      m.scalarImports = (ofHistory (withoutBuiltins remappings)).importsFor d.scalars ∧
      m.scalarImports.Pairwise (· < ·) := by
  obtain ⟨d, m, hd, hm, hview⟩ := Traced.exists_of_view (x := Schema.read remappedScalars)
    (f := fun d => Model.build d (ofHistory remappings) "Demo" none)
    (g := fun d m => ((d.scalars, m.scalarImports), decide (m.UsesScalar "Money")))
    (v := ((["Money", "ID", "Kind", "Date", "DateTime"],
      ["from datetime import datetime", "from money import Money", "import kinds"]), true))
    (by decide +kernel)
  obtain ⟨hscalars, huses⟩ := Prod.mk.inj hview
  have hmoney : m.UsesScalar "Money" := of_decide_eq_true huses
  obtain ⟨-, hbuiltins, hwithout, hcomplete, hsorted, -⟩ := scalarImports_of_build hm
  refine ⟨d, m, hd, hm, hscalars, hmoney, ?_, hbuiltins "ID" "str" (by decide) true, hwithout,
    hsorted⟩
  exact hcomplete "Money" hmoney (by decide) ⟨"Money", some "from money import Money"⟩ _
    (by decide) rfl

end SchemaClient
