import SchemaClient.Proofs.Model.Allocation

/-! Keys of a response: an attribute is also filled from a key of its own name. Where that is the
name of another field on the wire, the other field had to be renamed. -/
namespace SchemaClient

open Sdl

theorem Name.IsSettled.backing {name : String} (h : Name.IsSettled name) :
    Name.IsSettled (Field.backing name) := by
  have hkeywords : ∀ w ∈ Name.keywords ++ Name.softKeywords, w.toList.take 4 ≠ "raw_".toList := by
    decide +kernel
  have hlist : (Field.backing name).toList = "raw_".toList ++ name.toList := String.toList_append
  refine ⟨?_, ⟨'r', ?_, by decide⟩, fun hmem => hkeywords _ hmem ?_⟩
  · rw [hlist]
    exact List.forall_mem_append.mpr ⟨List.all_iff_forall_prop.mp (by decide), h.parts⟩
  · rw [hlist]
    rfl
  · rw [hlist]
    rfl

namespace Class.Regular

variable {reserved : List String} {c : Class} (h : c.Regular reserved)

include h

theorem isSettled_of_mem_bound {f : Field} (hf : f ∈ c.fields) {n : String} (hn : n ∈ c.bound f) :
    Name.IsSettled n := by
  obtain ⟨taken, hname⟩ := h.exists_allocated hf
  have hsettled : Name.IsSettled f.name := by
    rw [hname]
    exact Model.isSettled_allocate (h.wireNames f hf)
  rcases mem_bound.mp hn with rfl | ⟨-, rfl⟩
  · exact hsettled
  · exact hsettled.backing

/-- A name that one field binds is the wire name of another only if that field was to be called so
too, and found the name reserved or taken. -/
theorem renamed_of_mem_bound {before after : List Field} {f g : Field} (hf : f ∈ c.fields)
    (hsplit : c.fields = before ++ g :: after) (hne : f ≠ g) (hbound : g.wireName ∈ c.bound f) :
    Name.memberName g.wireName = g.wireName ∧ g.name ≠ g.wireName ∧
      (g.wireName ∈ reserved ∨ ∃ e ∈ before, g.wireName ∈ c.bound e ∨
        c.isBacked g = true ∧ Field.backing g.wireName ∈ c.bound e) := by
  have hg : g ∈ c.fields := hsplit ▸ List.mem_append_right _ List.mem_cons_self
  have hmember : Name.memberName g.wireName = g.wireName :=
    (h.isSettled_of_mem_bound hf hbound).memberName_eq
  have hname : g.name ≠ g.wireName := by
    intro heq
    exact hne (h.eq_of_mem_bound hf hg hbound (mem_bound.mpr (.inl heq.symm)))
  refine ⟨hmember, hname, ?_⟩
  by_contra hfree
  rw [not_or, not_exists] at hfree
  obtain ⟨hreserved, hbefore⟩ := hfree
  have htaken : ∀ n ∈ before.reverse.flatMap c.bound, ∃ e ∈ before, n ∈ c.bound e := by
    intro n hn
    obtain ⟨e, he, hmem⟩ := List.mem_flatMap.mp hn
    exact ⟨e, List.mem_reverse.mp he, hmem⟩
  refine hname ((h.allocated before g after hsplit).trans
    ((Model.allocate_eq_memberName ?_ ?_ ?_).trans hmember))
  · rwa [hmember]
  · rw [hmember]
    intro hmem
    obtain ⟨e, he, hmem⟩ := htaken _ hmem
    exact hbefore e ⟨he, .inl hmem⟩
  · rw [hmember]
    intro hbacked hmem
    obtain ⟨e, he, hmem⟩ := htaken _ hmem
    exact hbefore e ⟨he, .inr ⟨hbacked, hmem⟩⟩

end Class.Regular

theorem Module.attributeOf_name_mem_bound (scalars : ScalarRegistry) (c : Class) (f : Field) :
    (attributeOf scalars c f).name ∈ c.bound f := by
  rw [attributeOf_name, Class.mem_bound, ← Class.isBacked]
  cases hbacked : c.isBacked f <;> simp

/-- The attribute of a field is called like another field on the wire only if the other field was to
have this name too and had to be given another one, since the name is reserved or an earlier field
has taken it or what would back it. -/
theorem renamed_of_attribute_eq_wireName {sdl : String} {scalars : ScalarRegistry}
    {namespaceName : String} {clientName : Option String} {d : Schema.Document} {m : Model}
    (hd : (Schema.read sdl).result = .ok d)
    (hm : (Model.build d scalars namespaceName clientName).result = .ok m) :
    ∀ c ∈ m.classes, ∀ f ∈ c.fields, ∀ before g after, c.fields = before ++ g :: after → f ≠ g →
      (Module.attributeOf scalars c f).name = g.wireName →
      Name.memberName g.wireName = g.wireName ∧ g.name ≠ g.wireName ∧
        (g.wireName ∈ (Model.context d scalars).reserved ∨
          ∃ e ∈ before, g.wireName ∈ c.bound e ∨
            c.isBacked g = true ∧ Field.backing g.wireName ∈ c.bound e) := by
  intro c hc f hf before g after hsplit hne hclash
  have hbound := Module.attributeOf_name_mem_bound scalars c f
  rw [hclash] at hbound
  exact (Model.regular_of_build hd hm c hc).renamed_of_mem_bound hf hsplit hne hbound

/-- A field whose backing name is taken leaves its own name to one behind it. -/
def takenBacking : String :=
  "schema\x7bquery:Q\x7d type Q\x7braw_x:Int x:Q X:Int\x7d"

theorem renamed_of_attribute_eq_wireName_takenBacking :
    ∃ d m, (Schema.read takenBacking).result = .ok d ∧
      (Model.build d .standard "Demo" none).result = .ok m ∧
      m.types.map (fun c => c.fields.map fun f =>
        (f.wireName, (Module.attributeOf .standard c f).name)) =
          [[("raw_x", "raw_x"), ("x", "raw_x_2"), ("X", "x")]] ∧
      ∀ c ∈ m.classes, ∀ f ∈ c.fields, ∀ before g after, c.fields = before ++ g :: after → f ≠ g →
        (Module.attributeOf .standard c f).name = g.wireName →
        Name.memberName g.wireName = g.wireName ∧ g.name ≠ g.wireName ∧
          (g.wireName ∈ (Model.context d .standard).reserved ∨
            ∃ e ∈ before, g.wireName ∈ c.bound e ∨
              c.isBacked g = true ∧ Field.backing g.wireName ∈ c.bound e) := by
  obtain ⟨d, m, hd, hm, hnames⟩ := Traced.exists_of_view (x := Schema.read takenBacking)
    (f := fun d => Model.build d .standard "Demo" none)
    (g := fun _ m => m.types.map fun c => c.fields.map fun f =>
      (f.wireName, (Module.attributeOf .standard c f).name))
    (v := [[("raw_x", "raw_x"), ("x", "raw_x_2"), ("X", "x")]]) (by decide +kernel)
  exact ⟨d, m, hd, hm, hnames, renamed_of_attribute_eq_wireName hd hm⟩

/-- Two fields that are to have one name, which is that of the second on the wire. -/
def snakeAndCamel : String :=
  "schema \x7b query: Query \x7d type Query \x7b fooBar: Int foo_bar: String \x7d"

theorem attribute_eq_wireName_snakeAndCamel :
    ∃ d m, (Schema.read snakeAndCamel).result = .ok d ∧
      (Model.build d .standard "Demo" none).result = .ok m ∧
      ¬∀ c ∈ m.classes, ∀ f ∈ c.fields, ∀ g ∈ c.fields, f ≠ g →
        (Module.attributeOf .standard c f).name ≠ g.wireName := by
  obtain ⟨d, m, hd, hm, hclash⟩ := Traced.exists_of_view (x := Schema.read snakeAndCamel)
    (f := fun d => Model.build d .standard "Demo" none)
    (g := fun _ m => decide (∀ c ∈ m.classes, ∀ f ∈ c.fields, ∀ g ∈ c.fields, f ≠ g →
      (Module.attributeOf .standard c f).name ≠ g.wireName)) (v := false) (by decide +kernel)
  exact ⟨d, m, hd, hm, of_decide_eq_false hclash⟩

end SchemaClient
