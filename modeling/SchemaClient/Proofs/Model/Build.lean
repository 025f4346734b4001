import SchemaClient.Proofs.Traced
import SchemaClient.Model.Build

/-! What a model that could be built is made of. -/
namespace SchemaClient

open Sdl

theorem Resolver.kind_resolve (r : Resolver) (nullable : Bool) (t : TypeRef) :
    (r.resolve nullable t).kind = r.kindOf (r.resolve nullable t).name := by
  induction t generalizing nullable with
  | named name => rfl
  | list of ih => exact ih true
  | nonNull of ih => exact ih false

namespace Model

/-- A build succeeds where no names are in conflict and every input type can be built. -/
theorem result_build {d : Schema.Document} {scalars : ScalarRegistry} {namespaceName : String}
    {clientName : Option String} {m : Model} :
    (build d scalars namespaceName clientName).result = .ok m ↔
      checkNames (moduleNames d scalars) (effectiveClientName clientName) (typeNames d) = .ok () ∧
        ∃ inputs, List.Forall₂ (fun b c => (buildInput (context d scalars) b).result = .ok c)
            d.inputs inputs ∧
          m = { namespaceName
                clientName := effectiveClientName clientName
                queryType := d.queryType
                mutationType := d.mutationType
                types := d.objects.map (buildObject (context d scalars))
                inputs
                enums := d.enums.map buildEnum
                scalarImports := scalars.importsFor d.scalars } := by
  unfold build
  simp only [Traced.result_bind_eq_ok, Traced.result_liftM, Traced.result_tell,
    Traced.result_mapM_eq_ok, Traced.result_pure]
  constructor
  · rintro ⟨_, hcheck, _, -, _, -, inputs, hinputs, _, -, hm⟩
    exact ⟨hcheck, inputs, hinputs, (Except.ok.inj hm).symm⟩
  · rintro ⟨hcheck, inputs, hinputs, rfl⟩
    exact ⟨(), hcheck, (), trivial, (), trivial, inputs, hinputs, (), trivial, rfl⟩

section Built

variable {d : Schema.Document} {scalars : ScalarRegistry} {namespaceName : String}
  {clientName : Option String} {m : Model}

theorem types_of_build (h : (build d scalars namespaceName clientName).result = .ok m) :
    m.types = d.objects.map (buildObject (context d scalars)) := by
  obtain ⟨-, _, -, rfl⟩ := result_build.mp h
  rfl

theorem enums_of_build (h : (build d scalars namespaceName clientName).result = .ok m) :
    m.enums = d.enums.map buildEnum := by
  obtain ⟨-, _, -, rfl⟩ := result_build.mp h
  rfl

theorem inputs_of_build (h : (build d scalars namespaceName clientName).result = .ok m) :
    List.Forall₂ (fun b c => (buildInput (context d scalars) b).result = .ok c)
      d.inputs m.inputs := by
  obtain ⟨-, _, hinputs, rfl⟩ := result_build.mp h
  exact hinputs

end Built

/-! ### Input types -/

variable {c : Context} {owner : String} {taken : List String}

theorem buildInputField_eq_ok {f : InputValue} {built : Field} :
    buildInputField c owner taken f = .ok built ↔
      ∃ default, f.default.mapM (defaultExpression c.enums (c.resolver.resolve true f.type) owner
          f.name) = .ok default ∧
        built = { name := allocate c.reserved taken f.name false
                  wireName := f.name
                  type := c.resolver.resolve true f.type
                  default
                  description := f.description } := by
  unfold buildInputField
  change Except.bind _ _ = _ ↔ _
  rw [bind_eq_ok_iff]
  constructor
  · rintro ⟨default, hdefault, h⟩
    exact ⟨default, hdefault, (Except.ok.inj h).symm⟩
  · rintro ⟨default, hdefault, rfl⟩
    exact ⟨default, hdefault, rfl⟩

theorem result_buildInputFields_cons {f : InputValue} {rest : List InputValue}
    {fields : List Field} :
    (buildInputFields c owner taken (f :: rest)).result = .ok fields ↔
      ∃ built more, buildInputField c owner taken f = .ok built ∧
        (buildInputFields c owner (built.name :: taken) rest).result = .ok more ∧
        fields = built :: more := by
  simp only [buildInputFields, Traced.result_bind_eq_ok, Traced.result_liftM, Traced.result_tell,
    Traced.result_pure]
  constructor
  · rintro ⟨built, hbuilt, _, -, more, hmore, h⟩
    exact ⟨built, more, hbuilt, hmore, (Except.ok.inj h).symm⟩
  · rintro ⟨built, more, hbuilt, hmore, rfl⟩
    exact ⟨built, hbuilt, (), trivial, more, hmore, rfl⟩

theorem result_buildInput {b : Block InputValue} {built : Class} :
    (buildInput c b).result = .ok built ↔
      ∃ fields, (buildInputFields c b.name [] b.members).result = .ok fields ∧
        built = { name := b.name, fields, isInput := true, description := b.description } := by
  unfold buildInput
  simp only [Traced.result_bind_eq_ok, Traced.result_pure]
  constructor
  · rintro ⟨fields, hfields, h⟩
    exact ⟨fields, hfields, (Except.ok.inj h).symm⟩
  · rintro ⟨fields, hfields, rfl⟩
    exact ⟨fields, hfields, rfl⟩

theorem buildInputField_of_mem {members : List InputValue} {fields : List Field} {f : Field}
    (h : (buildInputFields c owner taken members).result = .ok fields) (hf : f ∈ fields) :
    ∃ v ∈ members, ∃ before, buildInputField c owner before v = .ok f := by
  induction members generalizing taken fields with
  | nil =>
    cases h
    cases hf
  | cons first rest ih =>
    obtain ⟨built, more, hbuilt, hmore, rfl⟩ := result_buildInputFields_cons.mp h
    rcases List.mem_cons.mp hf with rfl | hf
    · exact ⟨first, List.mem_cons_self, taken, hbuilt⟩
    · obtain ⟨v, hv, hfield⟩ := ih hmore hf
      exact ⟨v, List.mem_cons_of_mem _ hv, hfield⟩

/-! ### Types of fields and arguments -/

theorem type_of_mem_buildArguments {arguments : List InputValue} {a : Argument}
    (h : a ∈ buildArguments c taken arguments) :
    ∃ t, a.type = some (c.resolver.resolve true t) := by
  induction arguments generalizing taken with
  | nil => cases h
  | cons first rest ih =>
    rw [buildArguments] at h
    rcases List.mem_cons.mp h with rfl | h
    · exact ⟨first.type, rfl⟩
    · exact ih h

theorem resolved_of_mem_buildObjectFields {members : List ObjectField} {f : Field}
    (h : f ∈ buildObjectFields c taken members) :
    ∀ t ∈ f.types, ∃ reference, t = c.resolver.resolve true reference := by
  induction members generalizing taken with
  | nil => cases h
  | cons first rest ih =>
    rw [buildObjectFields] at h
    rcases List.mem_cons.mp h with rfl | h
    · intro t ht
      rw [Field.types, List.mem_cons, List.mem_filterMap] at ht
      rcases ht with rfl | ⟨a, ha, ht⟩
      · exact ⟨first.type, rfl⟩
      · obtain ⟨reference, hreference⟩ := type_of_mem_buildArguments ha
        exact ⟨reference, Option.some.inj (ht.symm.trans hreference)⟩
    · exact ih h

section Built

variable {d : Schema.Document} {scalars : ScalarRegistry} {namespaceName : String}
  {clientName : Option String} {m : Model}

/-- A field of an input is built from a member of its block. -/
theorem buildInputField_of_build (hm : (build d scalars namespaceName clientName).result = .ok m)
    {c : Class} (hc : c ∈ m.inputs) {f : Field} (hf : f ∈ c.fields) :
    ∃ b ∈ d.inputs, b.name = c.name ∧ ∃ v ∈ b.members, ∃ before,
      buildInputField (context d scalars) b.name before v = .ok f := by
  obtain ⟨b, hb, hbuilt⟩ := exists_of_forall₂_right (inputs_of_build hm) hc
  obtain ⟨fields, hfields, rfl⟩ := result_buildInput.mp hbuilt
  exact ⟨b, hb, rfl, buildInputField_of_mem hfields hf⟩

/-- Every type in a model is resolved from a reference. -/
theorem resolved_of_build (hm : (build d scalars namespaceName clientName).result = .ok m)
    {c : Class} (hc : c ∈ m.classes) {f : Field} (hf : f ∈ c.fields) :
    ∀ t ∈ f.types, ∃ reference, t = (Resolver.ofDocument d).resolve true reference := by
  rcases List.mem_append.mp hc with hc | hc
  · rw [types_of_build hm] at hc
    obtain ⟨b, -, rfl⟩ := List.mem_map.mp hc
    exact resolved_of_mem_buildObjectFields hf
  · obtain ⟨b, -, -, v, -, before, hfield⟩ := buildInputField_of_build hm hc hf
    obtain ⟨default, -, rfl⟩ := buildInputField_eq_ok.mp hfield
    intro t ht
    exact ⟨v.type, List.mem_singleton.mp ht⟩

end Built

end Model

end SchemaClient
