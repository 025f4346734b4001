import SchemaClient.Proofs.Model.Default

/-! What classes depend on beyond their own type: contexts that agree build the same classes, and
enum values that are added to a context spoil no default. -/
namespace SchemaClient.Model

open Sdl

/-- `c'` settles kinds, hints and reserved names as `c` does, and keeps the members of its enums. -/
structure Context.Extends (c' c : Context) : Prop where
  kindOf : ∀ name, c'.resolver.kindOf name = c.resolver.kindOf name
  scalars : c'.scalars = c.scalars
  reserved : ∀ name, c'.reserved.contains name = c.reserved.contains name
  members : ∀ enum wire member, memberOf? c.enums enum wire = some member →
    memberOf? c'.enums enum wire = some member

namespace Context.Extends

variable {c' c : Context} (h : c'.Extends c)

include h

theorem resolve (nullable : Bool) (type : TypeRef) :
    c'.resolver.resolve nullable type = c.resolver.resolve nullable type := by
  induction type generalizing nullable with
  | named name => rw [Resolver.resolve, Resolver.resolve, h.kindOf]
  | list of ih => rw [Resolver.resolve, Resolver.resolve, ih]
  | nonNull of ih => rw [Resolver.resolve, Resolver.resolve, ih]

theorem allocate (taken : List String) (wire : String) (backed : Bool) :
    Model.allocate c'.reserved taken wire backed = Model.allocate c.reserved taken wire backed := by
  simp only [Model.allocate, h.reserved]

/-! ### Objects -/

theorem buildArguments (taken : List String) (arguments : List InputValue) :
    Model.buildArguments c' taken arguments = Model.buildArguments c taken arguments := by
  induction arguments generalizing taken with
  | nil => rfl
  | cons a rest ih => simp only [Model.buildArguments, h.resolve, h.scalars, ih]

theorem buildObjectFields (taken : List String) (members : List ObjectField) :
    Model.buildObjectFields c' taken members = Model.buildObjectFields c taken members := by
  induction members generalizing taken with
  | nil => rfl
  | cons f rest ih =>
    have hfield : buildObjectField c' taken f = buildObjectField c taken f := by
      simp only [buildObjectField, h.resolve, h.buildArguments, h.allocate]
    simp only [Model.buildObjectFields, hfield, ih]

theorem buildObject (b : Block ObjectField) : Model.buildObject c' b = Model.buildObject c b := by
  simp only [Model.buildObject, h.buildObjectFields]

/-! ### Inputs -/

theorem defaultExpression {type : Descriptor} {owner field : String} {v : Literal} {text : String}
    (htext : SchemaClient.defaultExpression c.enums type owner field v = .ok text) :
    SchemaClient.defaultExpression c'.enums type owner field v = .ok text := by
  obtain ⟨value, hvalue, rfl⟩ := defaultExpression_eq_ok_iff.mp htext
  have hkept := (coerce_eq_ok_iff.mp hvalue).mono h.members
  exact defaultExpression_eq_ok_iff.mpr ⟨value, coerce_eq_ok_iff.mpr hkept, rfl⟩

theorem buildInputField {owner : String} {taken : List String} {f : InputValue} {built : Field}
    (hbuilt : Model.buildInputField c owner taken f = .ok built) :
    Model.buildInputField c' owner taken f = .ok built := by
  obtain ⟨default, hdefault, rfl⟩ := buildInputField_eq_ok.mp hbuilt
  refine buildInputField_eq_ok.mpr ⟨default, ?_, ?_⟩
  · rw [h.resolve]
    cases hliteral : f.default with
    | none => rwa [hliteral] at hdefault
    | some v =>
      rw [hliteral] at hdefault
      obtain ⟨text, htext, hsome⟩ := bind_eq_ok_iff.mp hdefault
      exact bind_eq_ok_iff.mpr ⟨text, h.defaultExpression htext, hsome⟩
  · rw [h.resolve, h.allocate]

theorem buildInputFields {owner : String} {taken : List String} {members : List InputValue}
    {fields : List Field}
    (hfields : (Model.buildInputFields c owner taken members).result = .ok fields) :
    (Model.buildInputFields c' owner taken members).result = .ok fields := by
  induction members generalizing taken fields with
  | nil => exact hfields
  | cons f rest ih =>
    obtain ⟨built, more, hbuilt, hmore, rfl⟩ := result_buildInputFields_cons.mp hfields
    exact result_buildInputFields_cons.mpr ⟨built, more, h.buildInputField hbuilt, ih hmore, rfl⟩

/-- An input type that can be built stays as it is. -/
theorem buildInput {b : Block InputValue} {built : Class}
    (hbuilt : (Model.buildInput c b).result = .ok built) :
    (Model.buildInput c' b).result = .ok built := by
  obtain ⟨fields, hfields, rfl⟩ := result_buildInput.mp hbuilt
  exact result_buildInput.mpr ⟨fields, h.buildInputFields hfields, rfl⟩

end Context.Extends

/-! ### Names of types -/

theorem checkNames_eq_ok_iff {moduleNames typeNames : List String} {clientName : String} :
    checkNames moduleNames clientName typeNames = .ok () ↔
      clientName ∉ moduleNames ∧ ∀ name ∈ typeNames, name ∉ moduleNames ∧ name ≠ clientName := by
  have hconflict : ∀ name, conflict? moduleNames clientName name = none ↔
      name ∉ moduleNames ∧ name ≠ clientName := by
    intro name
    unfold conflict?
    split_ifs with hmodule hclient <;> simp_all
  unfold checkNames
  split_ifs with hclient
  · simp_all
  · cases hfind : typeNames.findSome? (conflict? moduleNames clientName) with
    | none =>
      rw [List.findSome?_eq_none_iff] at hfind
      simp_all
    | some e =>
      have hsome : ¬ ∀ name ∈ typeNames, conflict? moduleNames clientName name = none := by
        rw [← List.findSome?_eq_none_iff, hfind]
        simp
      simp only [hconflict] at hsome
      simp [hsome]

/-! ### From definitions to a model -/

/-- The model of a list of definitions. -/
def ofDefinitions (definitions : List Definition) (scalars : ScalarRegistry)
    (namespaceName : String) (clientName : Option String) : Traced Model := do
  let d ← Schema.merge definitions
  build d scalars namespaceName clientName

end SchemaClient.Model
