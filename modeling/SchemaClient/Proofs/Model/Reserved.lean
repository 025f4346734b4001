import SchemaClient.Proofs.Model.Allocation

/-! Reserved names: those of every module are never bound by a class, and those of the schema only
where a name was changed to be free or backs an accessor. -/
namespace SchemaClient

open Sdl

namespace Name

/-- The names that are reserved whatever the schema. -/
def fixed : List String :=
  moduleNames ++ builtinNames ++ modelAttributes

theorem not_isSuffixed_of_mem_fixed {n : String} (h : n ∈ fixed) : isSuffixed n = false := by
  have hall : ∀ n ∈ fixed, isSuffixed n = false := by decide +kernel
  exact hall n h

theorem backing_not_mem_fixed (name : String) : Field.backing name ∉ fixed := by
  have hall : ∀ n ∈ fixed, n.toList.take 4 ≠ "raw_".toList := by decide +kernel
  intro hmem
  refine hall _ hmem ?_
  rw [Field.backing, String.toList_append]
  rfl

end Name

/-- The names that are reserved for the types and scalars of a schema. -/
def Model.schemaNames (d : Schema.Document) (scalars : ScalarRegistry) : List String :=
  typeNames d ++ d.scalars.map fun s => .ofList (Text.leadingName (scalars.typeText s).toList)

theorem Model.mem_reserved_iff {d : Schema.Document} {scalars : ScalarRegistry} {n : String} :
    n ∈ (context d scalars).reserved ↔ n ∈ Name.fixed ∨ n ∈ schemaNames d scalars := by
  simp only [context, moduleNames, schemaNames, Name.fixed, List.mem_append]
  tauto

namespace Class.Regular

variable {reserved : List String} {c : Class} (h : c.Regular reserved) {f : Field}
  (hf : f ∈ c.fields)

include h hf

/-- A field that bears a reserved name does not bear the name that it was meant to have. -/
theorem name_ne_memberName (hreserved : f.name ∈ reserved) :
    f.name ≠ Name.memberName f.wireName := by
  obtain ⟨taken, hname⟩ := h.exists_allocated hf
  intro hmember
  rw [hmember] at hreserved
  exact Model.not_mem_reserved_of_allocate_eq (hname.symm.trans hmember) hreserved

/-- What is reserved in every module is left alone: its names look like no name that was changed. -/
theorem not_mem_fixed (hfixed : Name.fixed ⊆ reserved) {n : String} (hn : n ∈ c.bound f) :
    n ∉ Name.fixed := by
  rcases mem_bound.mp hn with rfl | ⟨-, rfl⟩
  · obtain ⟨taken, hname⟩ := h.exists_allocated hf
    intro hmem
    have hsuffixed := Name.not_isSuffixed_of_mem_fixed hmem
    rcases Model.allocate_cases reserved taken f.wireName (c.isBacked f) with
      ⟨heq, hfree⟩ | heq | ⟨k, heq⟩
    · rw [hname, heq] at hmem
      exact hfree (hfixed hmem)
    · rw [hname, heq, Name.isSuffixed_append_underscore] at hsuffixed
      cases hsuffixed
    · rw [hname, heq, Name.isSuffixed_numbered] at hsuffixed
      cases hsuffixed
  · exact Name.backing_not_mem_fixed f.name

end Class.Regular

/-- The body of a class binds no name that is reserved in every module. It binds a name that is
reserved for a type or scalar of its schema only if the name was changed to be free, or backs an
accessor: these are not looked up among the reserved names again. -/
theorem boundNames_reserved_of_build {sdl : String} {scalars : ScalarRegistry}
    {namespaceName : String} {clientName : Option String} {d : Schema.Document} {m : Model}
    (hd : (Schema.read sdl).result = .ok d)
    (hm : (Model.build d scalars namespaceName clientName).result = .ok m) :
    ∀ c ∈ m.classes, ∀ n ∈ (Module.declare scalars m c).boundNames,
      n ∉ Name.fixed ∧
      (n ∈ (Model.context d scalars).reserved →
        n ∈ Model.schemaNames d scalars ∧
        ∃ f ∈ c.fields, n = f.name ∧ n ≠ Name.memberName f.wireName ∨
          c.isBacked f = true ∧ n = f.backingName) := by
  intro c hc n hn
  have hregular := Model.regular_of_build hd hm c hc
  obtain ⟨f, hf, hbound⟩ := Module.mem_boundNames_declare.mp hn
  have hfixed : n ∉ Name.fixed :=
    hregular.not_mem_fixed hf (fun _ hmem => Model.mem_reserved_iff.mpr (.inl hmem)) hbound
  refine ⟨hfixed, fun hreserved => ⟨?_, f, hf, ?_⟩⟩
  · exact (Model.mem_reserved_iff.mp hreserved).resolve_left hfixed
  · rcases Class.mem_bound.mp hbound with rfl | hbacking
    · exact .inl ⟨rfl, hregular.name_ne_memberName hf hreserved⟩
    · exact .inr hbacking

/-- A numbered name and a backing name that are types of the schema. -/
def typesLikeMembers : String :=
  "schema\x7bquery:Query\x7d type Query\x7bn:Int N:Int x:Query\x7d" ++
    "type n_2\x7ba:Int\x7d enum raw_x\x7bA\x7d"

theorem boundNames_reserved_of_build_typesLikeMembers :
    ∃ d m, (Schema.read typesLikeMembers).result = .ok d ∧
      (Model.build d .standard "Demo" none).result = .ok m ∧
      m.types.map (fun c => c.fields.map Field.name) = [["n", "n_2", "x"], ["a"]] ∧
      ∀ c ∈ m.classes, ∀ n ∈ (Module.declare .standard m c).boundNames,
        n ∉ Name.fixed ∧
        (n ∈ (Model.context d .standard).reserved →
          n ∈ Model.schemaNames d .standard ∧
          ∃ f ∈ c.fields, n = f.name ∧ n ≠ Name.memberName f.wireName ∨
            c.isBacked f = true ∧ n = f.backingName) := by
  obtain ⟨d, m, hd, hm, hnames⟩ := Traced.exists_of_view (x := Schema.read typesLikeMembers)
    (f := fun d => Model.build d .standard "Demo" none)
    (g := fun _ m => m.types.map fun c => c.fields.map Field.name)
    (v := [["n", "n_2", "x"], ["a"]]) (by decide +kernel)
  exact ⟨d, m, hd, hm, hnames, boundNames_reserved_of_build hd hm⟩

/-- A name that is reserved gets an underscore, and is then that of another type. -/
def typeWithUnderscore : String :=
  "schema \x7b query: Query \x7d type Query \x7b foo: Int a: foo_ \x7d " ++
    "type foo \x7b x: Int \x7d type foo_ \x7b x: Int \x7d"

theorem boundNames_reserved_typeWithUnderscore :
    ∃ d m, (Schema.read typeWithUnderscore).result = .ok d ∧
      (Model.build d .standard "Demo" none).result = .ok m ∧
      ¬∀ c ∈ m.classes, ∀ n ∈ (Module.declare .standard m c).boundNames,
        n ∉ (Model.context d .standard).reserved := by
  obtain ⟨d, m, hd, hm, hclash⟩ := Traced.exists_of_view (x := Schema.read typeWithUnderscore)
    (f := fun d => Model.build d .standard "Demo" none)
    (g := fun d m => decide (∀ c ∈ m.classes, ∀ n ∈ (Module.declare .standard m c).boundNames,
      n ∉ (Model.context d .standard).reserved)) (v := false) (by decide +kernel)
  exact ⟨d, m, hd, hm, of_decide_eq_false hclash⟩

end SchemaClient
