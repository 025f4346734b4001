import SchemaClient.Proofs.Filter.Restriction
import SchemaClient.Proofs.Model.Default

/-! References of a filtered model: a field goes just if it mentions what was dropped, so that none
is left with a reference to a definition that is gone. -/
namespace SchemaClient

open Sdl

/-! ### Mentions -/

/-- The descriptor is of the object, input or enum `name`, under any list levels. -/
inductive Descriptor.Names (name : String) : Descriptor → Prop
  | object (nullable) : Names name (.leaf .object name nullable)
  | enum (nullable) : Names name (.leaf .enum name nullable)
  | list {element} (nullable) : Names name element → Names name (.list element nullable)

theorem Descriptor.names_iff {name : String} {d : Descriptor} :
    d.Names name ↔ (d.kind = .object ∨ d.kind = .enum) ∧ d.name = name := by
  constructor
  · intro h
    induction h with
    | object => exact ⟨.inl rfl, rfl⟩
    | enum => exact ⟨.inr rfl, rfl⟩
    | list _ _ ih => exact ih
  · intro h
    induction d with
    | leaf kind own nullable =>
      obtain ⟨rfl | rfl, rfl⟩ := h
      · exact .object nullable
      · exact .enum nullable
    | list element nullable ih => exact .list nullable (ih h)

/-- The field needs the definition of `name` for its type or for that of an argument. -/
def Field.Mentions (f : Field) (name : String) : Prop :=
  f.type.Names name ∨ ∃ a ∈ f.arguments, ∃ d, a.type = some d ∧ d.Names name

theorem Field.mem_references {f : Field} {name : String} :
    name ∈ f.references ↔ f.Mentions name := by
  unfold references types Mentions
  simp only [Text.mem_sortedSet, List.mem_map, List.mem_filter, List.mem_cons, List.mem_filterMap,
    Bool.or_eq_true, decide_eq_true_eq, Descriptor.names_iff]
  constructor
  · rintro ⟨d, ⟨rfl | ⟨a, ha, hd⟩, hkind⟩, hname⟩
    · exact .inl ⟨hkind, hname⟩
    · exact .inr ⟨a, ha, d, hd, hkind, hname⟩
  · rintro (⟨hkind, hname⟩ | ⟨a, ha, d, hd, hkind, hname⟩)
    · exact ⟨f.type, ⟨.inl rfl, hkind⟩, hname⟩
    · exact ⟨d, ⟨.inr ⟨a, ha, hd⟩, hkind⟩, hname⟩

/-- The value has a member of `enum` in it. -/
inductive Value.Writes (enum : String) : Value → Prop
  | member (name) : Writes enum (.member enum name)
  | list {items v} : v ∈ items → Writes enum v → Writes enum (.list items)

/-- A value has members of no enum but that of its type. -/
theorem Value.Conforms.names_of_writes {d : Descriptor} {v : Value} {enum : String}
    (h : v.Conforms d) (hv : v.Writes enum) : d.Names enum := by
  induction hv generalizing d with
  | member =>
    cases h
    exact .enum _
  | list hmem _ ih =>
    cases h with
    | list hitems => exact .list _ (ih (hitems _ hmem))

/-- The enums of a coerced value are there. -/
theorem Coerced.mem_enums_of_writes {enums : List Enum} {d : Descriptor} {literal : Literal}
    {v : Value} {enum : String}
    (h : Coerced (fun enum wire m => memberOf? enums enum wire = some m) d literal v)
    (hv : v.Writes enum) : enum ∈ enums.map Enum.name := by
  induction hv generalizing d literal with
  | member name =>
    cases h with
    | enum hmember =>
      obtain ⟨e, hmem, hname, -⟩ := mem_of_memberOf? hmember
      exact List.mem_map.mpr ⟨e, hmem, hname⟩
  | list hmem _ ih =>
    cases h with
    | items hitems =>
      obtain ⟨item, -, hitem⟩ := exists_of_forall₂_right (coercedAll_iff.mp hitems) hmem
      exact ih hitem
    | single _ hone =>
      rw [List.mem_singleton] at hmem
      subst hmem
      exact ih hone

/-! ### What a filter drops -/

namespace TypeFilter

/-- A definition of this name is dropped. -/
def Drops (f : TypeFilter) (m : Model) (name : String) : Prop :=
  (∃ c ∈ m.types, c.name = name ∧ ¬(some name = m.queryType ∨ some name = m.mutationType) ∧
      f.keeps name = false) ∨
    (∃ c ∈ m.inputs, c.name = name ∧ f.keeps name = false) ∨
    ∃ e ∈ m.enums, e.name = name ∧ f.keeps name = false

theorem drops_iff {f : TypeFilter} {m : Model} {name : String} :
    f.Drops m name ↔ name ∈ f.dropped m := by
  rw [mem_dropped, Model.mem_droppedBy, Model.mem_droppable]
  simp only [Drops, Model.isRoot, List.mem_map, Bool.or_eq_false_iff, beq_eq_false_iff_ne, not_or]
  grind

/-- The field mentions nothing that is dropped. -/
def Spares (f : TypeFilter) (m : Model) (field : Field) : Prop :=
  ∀ name, field.Mentions name → ¬f.Drops m name

theorem spares_iff {f : TypeFilter} {m : Model} {field : Field} :
    f.Spares m field ↔ (missing (f.dropped m) field).isEmpty := by
  rw [isEmpty_missing_iff]
  simp only [Spares, drops_iff, Field.mem_references]

instance (f : TypeFilter) (m : Model) : DecidablePred (f.Spares m) :=
  fun _ => decidable_of_iff _ spares_iff.symm

/-- The class with the fields that are spared. -/
def spared (f : TypeFilter) (m : Model) (c : Class) : Class :=
  { c with fields := c.fields.filter fun field => f.Spares m field }

theorem spared_eq_prune (f : TypeFilter) (m : Model) : f.spared m = prune (f.dropped m) := by
  funext c
  unfold spared prune
  congr 1
  refine List.filter_congr fun field _ => ?_
  rw [Bool.eq_iff_iff, decide_eq_true_iff, spares_iff]

theorem apply_eq_spared (f : TypeFilter) (m : Model) : f.apply m =
    { m with
      types := (m.types.filter fun c =>
        some c.name = m.queryType ∨ some c.name = m.mutationType ∨ f.keeps c.name).map (f.spared m)
      inputs := (m.inputs.filter fun c => f.keeps c.name).map (f.spared m)
      enums := m.enums.filter fun e => f.keeps e.name } := by
  have hkept : f.keptTypes m = m.types.filter fun c =>
      some c.name = m.queryType ∨ some c.name = m.mutationType ∨ f.keeps c.name := by
    refine List.filter_congr fun c _ => ?_
    rw [Bool.eq_iff_iff, decide_eq_true_iff]
    simp [keepsClass, or_assoc]
  rw [spared_eq_prune, ← hkept]
  rfl

/-- A field that is left was there before, and mentions nothing that is dropped. -/
theorem mem_fields_of_mem_apply {f : TypeFilter} {m : Model} {c : Class}
    (hc : c ∈ (f.apply m).classes) {field : Field} (hfield : field ∈ c.fields) :
    ∃ old ∈ m.classes, old.name = c.name ∧ field ∈ old.fields ∧ f.Spares m field := by
  have hspared : ∃ old ∈ m.classes, f.spared m old = c := by
    rw [apply_eq_spared] at hc
    rcases List.mem_append.mp hc with hc | hc
    · obtain ⟨old, hold, rfl⟩ := List.mem_map.mp hc
      exact ⟨old, List.mem_append_left _ (List.mem_filter.mp hold).1, rfl⟩
    · obtain ⟨old, hold, rfl⟩ := List.mem_map.mp hc
      exact ⟨old, List.mem_append_right _ (List.mem_filter.mp hold).1, rfl⟩
  obtain ⟨old, hold, rfl⟩ := hspared
  obtain ⟨hmem, hspares⟩ := List.mem_filter.mp hfield
  exact ⟨old, hold, rfl, hmem, of_decide_eq_true hspares⟩

end TypeFilter

namespace Model

/-- Definitions of a name that is not dropped all stay. -/
theorem mem_names_restrict {m : Model} {keeps : String → Bool} {n : String}
    (h : n ∉ m.droppedBy keeps) :
    (n ∈ m.types.map Class.name → n ∈ (m.restrict keeps).types.map Class.name) ∧
      (n ∈ m.inputs.map Class.name → n ∈ (m.restrict keeps).inputs.map Class.name) ∧
      (n ∈ m.enums.map Enum.name → n ∈ (m.restrict keeps).enums.map Enum.name) := by
  rw [mem_droppedBy, mem_droppable, not_and_or, Bool.not_eq_false] at h
  rw [types_restrict_names, inputs_restrict_names, enums_restrict_names]
  simp only [List.mem_filter, Bool.or_eq_true]
  grind

/-! ### Built models -/

section Built

variable {c : Context} {taken : List String}

theorem kind_resolve_ne_foreign (r : Resolver) (nullable : Bool) (t : TypeRef) :
    (r.resolve nullable t).kind ≠ .foreign := by
  rw [r.kind_resolve]
  unfold Resolver.kindOf
  split_ifs <;> simp

theorem default_of_mem_buildObjectFields {members : List ObjectField} {f : Field}
    (h : f ∈ buildObjectFields c taken members) : f.default = none := by
  induction members generalizing taken with
  | nil => cases h
  | cons first rest ih =>
    rw [buildObjectFields] at h
    rcases List.mem_cons.mp h with rfl | h
    · rfl
    · exact ih h

variable {d : Schema.Document} {scalars : ScalarRegistry} {namespaceName : String}
  {clientName : Option String} {m : Model}

theorem isTyped_of_build (hm : (build d scalars namespaceName clientName).result = .ok m) :
    m.isTyped := by
  simp only [isTyped, TypeFilter.isPrunable, TypeFilter.isNamed, List.all_eq_true,
    decide_eq_true_eq]
  intro c hc f hf t ht
  obtain ⟨reference, rfl⟩ := resolved_of_build hm hc hf t ht
  exact kind_resolve_ne_foreign _ _ _

/-- A default is the text of the value that the literal of its field has at the field's type. -/
theorem default_of_build (hm : (build d scalars namespaceName clientName).result = .ok m)
    {c : Class} (hc : c ∈ m.classes) {f : Field} (hf : f ∈ c.fields) {text : String}
    (htext : f.default = some text) :
    ∃ b ∈ d.inputs, b.name = c.name ∧ ∃ v ∈ b.members, v.name = f.wireName ∧
      ∃ literal value, v.default = some literal ∧ coerce m.enums f.type literal = .ok value ∧
        text = value.expression := by
  rcases List.mem_append.mp hc with hc | hc
  · rw [types_of_build hm] at hc
    obtain ⟨b, -, rfl⟩ := List.mem_map.mp hc
    rw [default_of_mem_buildObjectFields hf] at htext
    cases htext
  · obtain ⟨b, hb, hname, v, hv, before, hfield⟩ := buildInputField_of_build hm hc hf
    obtain ⟨hwire, -, hdefault⟩ := buildInputField_cases hfield
    refine ⟨b, hb, hname, v, hv, hwire.symm, ?_⟩
    rcases hdefault with ⟨-, hnone⟩ | ⟨literal, value, hliteral, hvalue, hexpression⟩
    · cases hnone.symm.trans htext
    · rw [enums_of_build hm]
      exact ⟨literal, value, hliteral, hvalue, Option.some.inj (htext.symm.trans hexpression)⟩

end Built

end Model

/-- What a field that is left mentions is defined in the filtered model as it was before. -/
theorem TypeFilter.defined_of_mentions (f : TypeFilter) {m : Model} {c : Class} {field : Field}
    {name : String} (hc : c ∈ (f.apply m).classes) (hfield : field ∈ c.fields)
    (hname : field.Mentions name) :
    (name ∈ m.types.map Class.name → name ∈ (f.apply m).types.map Class.name) ∧
    (name ∈ m.inputs.map Class.name → name ∈ (f.apply m).inputs.map Class.name) ∧
    (name ∈ m.enums.map Enum.name → name ∈ (f.apply m).enums.map Enum.name) := by
  obtain ⟨-, -, -, -, hspares⟩ := TypeFilter.mem_fields_of_mem_apply hc hfield
  have hdropped : name ∉ m.droppedBy f.keeps := by
    rw [← f.mem_dropped m, ← TypeFilter.drops_iff]
    exact hspares name hname
  rw [f.apply_eq_restrict m]
  exact Model.mem_names_restrict hdropped

/-- A filter keeps the root types and whatever it keeps by name, and of each class the fields that
mention nothing it drops. Whatever such a field mentions is defined afterwards if it was before, and
so are the enums of its default, which is the text of the value of a literal in the schema. -/
theorem filter_keeps_references (f : TypeFilter) {m : Model} (hm : m.isTyped) :
    ∃ m', ((Hook.filter f).runPre m).result = .ok m' ∧
      m' = { m with
        types := (m.types.filter fun c => some c.name = m.queryType ∨
          some c.name = m.mutationType ∨ f.keeps c.name).map (f.spared m)
        inputs := (m.inputs.filter fun c => f.keeps c.name).map (f.spared m)
        enums := m.enums.filter fun e => f.keeps e.name } ∧
      (∀ c ∈ m'.classes, ∀ field ∈ c.fields, ∀ name, field.Mentions name →
        (name ∈ m.types.map Class.name → name ∈ m'.types.map Class.name) ∧
        (name ∈ m.inputs.map Class.name → name ∈ m'.inputs.map Class.name) ∧
        (name ∈ m.enums.map Enum.name → name ∈ m'.enums.map Enum.name)) ∧
      ∀ (d : Schema.Document) (scalars : ScalarRegistry) (namespaceName : String)
        (clientName : Option String),
        (Model.build d scalars namespaceName clientName).result = .ok m →
        ∀ c ∈ m'.classes, ∀ field ∈ c.fields, ∀ text, field.default = some text →
          ∃ b ∈ d.inputs, b.name = c.name ∧ ∃ v ∈ b.members, v.name = field.wireName ∧
            ∃ literal value, v.default = some literal ∧
              coerce m.enums field.type literal = .ok value ∧ text = value.expression ∧
              ∀ enum, value.Writes enum → enum ∈ m'.enums.map Enum.name := by
  have hrun : ((Hook.filter f).runPre m).result = .ok (f.apply m) := by
    rw [f.result_runPre hm, f.apply_eq_restrict m]
  refine ⟨f.apply m, hrun, f.apply_eq_spared m,
    fun c hc field hfield name hname => f.defined_of_mentions hc hfield hname, ?_⟩
  intro d scalars namespaceName clientName hbuild c hc field hfield text htext
  obtain ⟨old, hold, hname, hmem, -⟩ := TypeFilter.mem_fields_of_mem_apply hc hfield
  obtain ⟨b, hb, hblock, v, hv, hwire, literal, value, hliteral, hvalue, hexpression⟩ :=
    Model.default_of_build hbuild hold hmem htext
  refine ⟨b, hb, hblock.trans hname, v, hv, hwire, literal, value, hliteral, hvalue, hexpression,
    ?_⟩
  intro enum henum
  have hcoerced := coerce_eq_ok_iff.mp hvalue
  have hmentions : field.Mentions enum := .inl (hcoerced.conforms.names_of_writes henum)
  exact (f.defined_of_mentions hc hfield hmentions).2.2 (hcoerced.mem_enums_of_writes henum)

/-- Types under lists, in arguments and in defaults, some of which are private by their names. -/
def privateTypes : String :=
  "schema\x7bquery:_Q\x7d" ++
    "type _Q\x7ba(x:[In!]):Int b(x:[[_Old]]):Int c:[[_User]] d:[_Q]\x7d type _User\x7bid:ID\x7d" ++
    "input In\x7brole:[Role!]=ADMIN old:_Old=GONE n:Int=1\x7d" ++
    "enum Role\x7bADMIN\x7d enum _Old\x7bGONE\x7d"

theorem filter_keeps_references_privateTypes :
    ∃ d m m', (Schema.read privateTypes).result = .ok d ∧
      (Model.build d .standard "Demo" none).result = .ok m ∧ m.isTyped ∧
      ((Hook.filter { excludeStart := some "_" }).runPre m).result = .ok m' ∧
      m'.classes.map (fun c => (c.name, c.fields.map fun f => (f.name, f.default))) =
        [("_Q", [("a", none), ("d", none)]),
          ("In", [("role", some "[Role.ADMIN]"), ("n", some "1")])] ∧
      ∀ c ∈ m'.classes, ∀ field ∈ c.fields, ∀ text, field.default = some text →
        ∃ value : Value, text = value.expression ∧
          ∀ enum, value.Writes enum → enum ∈ m'.enums.map Enum.name := by
  obtain ⟨d, m, hd, hm, hnames⟩ := Traced.exists_of_view (x := Schema.read privateTypes)
    (f := fun d => Model.build d .standard "Demo" none)
    (g := fun _ m => (TypeFilter.apply { excludeStart := some "_" } m).classes.map fun c =>
      (c.name, c.fields.map fun f => (f.name, f.default)))
    (v := [("_Q", [("a", none), ("d", none)]),
      ("In", [("role", some "[Role.ADMIN]"), ("n", some "1")])]) (by decide +kernel)
  have htyped := Model.isTyped_of_build hm
  obtain ⟨m', hm', heq, -, hdefaults⟩ :=
    filter_keeps_references { excludeStart := some "_" } htyped
  rw [TypeFilter.apply_eq_spared, ← heq] at hnames
  refine ⟨d, m, m', hd, hm, htyped, hm', hnames, ?_⟩
  intro c hc field hfield text htext
  obtain ⟨-, -, -, -, -, -, -, value, -, -, hexpression, henums⟩ :=
    hdefaults d _ _ _ hm c hc field hfield text htext
  exact ⟨value, hexpression, henums⟩

end SchemaClient
