import SchemaClient.Proofs.Model.Members
import SchemaClient.Proofs.Name.Settled
import SchemaClient.Proofs.Schema.Valid

/-! How the names of a class come about: each field is given a name that the fields before it have
left, in object and input classes alike. -/
namespace SchemaClient

open Sdl

/-! ### Allocation -/

namespace Model

section Allocate

variable (reserved taken : List String) (wire : String) (backed : Bool)

/-- A member is called after its field, or that name has got an underscore or a number. -/
theorem allocate_cases :
    allocate reserved taken wire backed = Name.memberName wire ∧ Name.memberName wire ∉ reserved ∨
      allocate reserved taken wire backed = Name.memberName wire ++ "_" ∨
      ∃ k, allocate reserved taken wire backed =
        Name.numbered (Name.stem (Name.memberName wire)) k := by
  unfold allocate
  dsimp only
  split_ifs with hreserved
  · rcases Name.fresh_eq _ (Name.memberName wire ++ "_") (2 * taken.length + 1) with heq | ⟨k, heq⟩
    · exact .inr (.inl heq)
    · rw [Name.stem_append_underscore] at heq
      exact .inr (.inr ⟨k, heq⟩)
  · rcases Name.fresh_eq _ (Name.memberName wire) (2 * taken.length + 1) with heq | ⟨k, heq⟩
    · exact .inl ⟨heq, by simpa using hreserved⟩
    · exact .inr (.inr ⟨k, heq⟩)

variable {reserved taken wire backed}

/-- A field that is not called as it should be has found its name reserved or taken. -/
theorem allocate_eq_memberName (hreserved : Name.memberName wire ∉ reserved)
    (hname : Name.memberName wire ∉ taken)
    (hbacking : backed = true → Field.backing (Name.memberName wire) ∉ taken) :
    allocate reserved taken wire backed = Name.memberName wire := by
  have hprefers : ¬reserved.contains (Name.memberName wire) = true := by simpa using hreserved
  unfold allocate
  dsimp only
  rw [if_neg hprefers, Name.fresh, if_pos]
  cases backed with
  | false => simpa using hname
  | true => simpa using And.intro hname (hbacking rfl)

theorem not_mem_reserved_of_allocate_eq
    (h : allocate reserved taken wire backed = Name.memberName wire) :
    Name.memberName wire ∉ reserved := by
  rcases allocate_cases reserved taken wire backed with ⟨-, hfree⟩ | heq | ⟨k, heq⟩
  · exact hfree
  · have hlength := congrArg String.length (heq.symm.trans h)
    rw [String.length_append] at hlength
    have hone : "_".length = 1 := rfl
    omega
  · exact absurd (heq.symm.trans h) (Name.numbered_stem_ne _ k)

theorem isSettled_allocate (hwire : isName wire.toList) :
    Name.IsSettled (allocate reserved taken wire backed) := by
  have hsettled := Name.isSettled_memberName hwire
  rcases allocate_cases reserved taken wire backed with ⟨heq, -⟩ | heq | ⟨k, heq⟩
  · rwa [heq]
  · rw [heq]
    exact hsettled.append_underscore
  · rw [heq]
    exact hsettled.numbered k

end Allocate

theorem buildInputFields_allocated {c : Context} {owner : String} {taken : List String}
    {members : List InputValue} {before after : List Field} {f : Field}
    (h : (buildInputFields c owner taken members).result = .ok (before ++ f :: after)) :
    f.name = allocate c.reserved (before.reverse.map Field.name ++ taken) f.wireName false := by
  induction members generalizing taken before with
  | nil =>
    have hnil := Except.ok.inj h
    simp at hnil
  | cons first rest ih =>
    obtain ⟨built, more, hbuilt, hmore, hfields⟩ := result_buildInputFields_cons.mp h
    cases before with
    | nil =>
      obtain ⟨rfl, -⟩ := List.cons.inj hfields
      obtain ⟨default, -, rfl⟩ := buildInputField_eq_ok.mp hbuilt
      rfl
    | cons earlier before =>
      obtain ⟨rfl, rfl⟩ := List.cons.inj hfields
      have hname := ih hmore
      rw [List.reverse_cons, List.map_append, List.append_assoc]
      exact hname

end Model

/-! ### Classes -/

namespace Class

/-- Whether the value of a field is held by an attribute of another name. -/
def isBacked (c : Class) (f : Field) : Bool :=
  !c.isInput && f.isAccessor

/-- The names that the class binds for a field. -/
def bound (c : Class) (f : Field) : List String :=
  Model.takenBy f (c.isBacked f)

theorem mem_bound {c : Class} {f : Field} {n : String} :
    n ∈ c.bound f ↔ n = f.name ∨ c.isBacked f = true ∧ n = f.backingName := by
  unfold bound Model.takenBy
  split_ifs with h <;> simp [h]

theorem bound_of_object {c : Class} (h : c.isInput = false) : c.bound = Field.bound := by
  funext f
  simp [bound, isBacked, Field.bound, h]

theorem flatMap_bound_of_input {c : Class} (h : c.isInput = true) (fields : List Field) :
    fields.flatMap c.bound = fields.map Field.name := by
  rw [List.map_eq_flatMap]
  refine List.flatMap_congr fun f _ => ?_
  simp [bound, isBacked, Model.takenBy, h]

/-- What holds of all classes that are built. -/
structure Regular (reserved : List String) (c : Class) : Prop where
  wireNames : ∀ f ∈ c.fields, isName f.wireName.toList
  names : (c.fields.flatMap c.bound).Nodup
  allocated : ∀ before f after, c.fields = before ++ f :: after →
    f.name = Model.allocate reserved (before.reverse.flatMap c.bound) f.wireName (c.isBacked f)

section Regular

variable {reserved : List String} {c : Class} (h : c.Regular reserved)

include h

/-- No name is bound for two fields. -/
theorem Regular.eq_of_mem_bound {f g : Field} (hf : f ∈ c.fields) (hg : g ∈ c.fields) {n : String}
    (hnf : n ∈ c.bound f) (hng : n ∈ c.bound g) : f = g := by
  by_contra hne
  have hpairwise := (List.nodup_flatMap.mp h.names).2
  have hsymm : Std.Symm (Function.onFun List.Disjoint c.bound) := ⟨fun _ _ hab => hab.symm⟩
  exact hpairwise.forall hf hg hne hnf hng

theorem Regular.exists_allocated {f : Field} (hf : f ∈ c.fields) :
    ∃ taken, f.name = Model.allocate reserved taken f.wireName (c.isBacked f) := by
  obtain ⟨before, after, hsplit⟩ := List.append_of_mem hf
  exact ⟨_, h.allocated before f after hsplit⟩

end Regular

end Class

/-- The body of a class binds what its fields bind, and nothing else. -/
theorem Module.mem_boundNames_declare {scalars : ScalarRegistry} {m : Model} {c : Class}
    {n : String} :
    n ∈ (declare scalars m c).boundNames ↔ ∃ f ∈ c.fields, n ∈ c.bound f := by
  rw [← List.mem_flatMap]
  cases hinput : c.isInput with
  | false =>
    rw [(boundNames_declare_object scalars m hinput).mem_iff, Class.bound_of_object hinput,
      (Field.flatMap_bound_perm c.fields).mem_iff]
  | true =>
    rw [boundNames_declare_input scalars m hinput, Class.flatMap_bound_of_input hinput]

namespace Model

variable {sdl : String} {d : Schema.Document} {scalars : ScalarRegistry} {namespaceName : String}
  {clientName : Option String} {m : Model}

theorem regular_buildObject (ctx : Context) {b : Block ObjectField}
    (hvalid : b.Valid ObjectField.Valid) : (buildObject ctx b).Regular ctx.reserved where
  wireNames := by
    intro f hf
    have hwire : f.wireName ∈ b.members.map ObjectField.name := by
      rw [← buildObjectFields_wireNames ctx []]
      exact List.mem_map_of_mem hf
    obtain ⟨member, hmember, hname⟩ := List.mem_map.mp hwire
    rw [← hname]
    exact (hvalid.members member hmember).name
  names := (buildObjectFields_bound ctx [] b.members).1
  allocated := by
    intro before f after hsplit
    have hname := buildObjectFields_allocated ctx [] b.members hsplit
    rwa [List.append_nil] at hname

theorem regular_of_result_buildInput {ctx : Context} {b : Block InputValue} {c : Class}
    (hvalid : b.Valid InputValue.Valid) (h : (buildInput ctx b).result = .ok c) :
    c.Regular ctx.reserved := by
  obtain ⟨fields, hfields, rfl⟩ := result_buildInput.mp h
  refine ⟨fun f hf => ?_, ?_, fun before f after hsplit => ?_⟩
  · have hwire : f.wireName ∈ b.members.map InputValue.name := by
      rw [← buildInputFields_wireNames hfields]
      exact List.mem_map_of_mem hf
    obtain ⟨member, hmember, hname⟩ := List.mem_map.mp hwire
    rw [← hname]
    exact (hvalid.members member hmember).name
  · rw [Class.flatMap_bound_of_input rfl]
    exact (buildInputFields_names hfields).1
  · obtain rfl : fields = before ++ f :: after := hsplit
    have hname := buildInputFields_allocated hfields
    rw [List.append_nil] at hname
    rw [Class.flatMap_bound_of_input rfl]
    exact hname

theorem regular_of_build (hd : (Schema.read sdl).result = .ok d)
    (hm : (build d scalars namespaceName clientName).result = .ok m) :
    ∀ c ∈ m.classes, c.Regular (context d scalars).reserved := by
  have hvalid := Schema.valid_of_read hd
  intro c hc
  rcases List.mem_append.mp hc with hc | hc
  · rw [types_of_build hm] at hc
    obtain ⟨b, hb, rfl⟩ := List.mem_map.mp hc
    exact regular_buildObject _ (hvalid.objects b hb)
  · obtain ⟨b, hb, hbuilt⟩ := exists_of_forall₂_right (inputs_of_build hm) hc
    exact regular_of_result_buildInput (hvalid.inputs b hb) hbuilt

end Model

end SchemaClient
