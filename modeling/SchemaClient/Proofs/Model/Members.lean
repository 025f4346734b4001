import SchemaClient.Proofs.Model.Build
import SchemaClient.Proofs.Name.Fresh
import SchemaClient.Proofs.Schema.Merge
import SchemaClient.Module.Member

/-! Names that a class binds: fields keep their order and wire names, and no two names are equal. -/
namespace SchemaClient

open Sdl

namespace Field

theorem backing_injective : Function.Injective backing := by
  intro a b h
  exact (String.append_right_inj _).mp h

theorem backing_ne_self (name : String) : backing name ≠ name := by
  intro h
  have hlen := congrArg String.length h
  simp only [backing, String.length_append] at hlen
  have : "raw_".length = 4 := rfl
  omega

/-- The names that a field of an object class binds. -/
def bound (f : Field) : List String :=
  Model.takenBy f f.isAccessor

theorem bound_eq (f : Field) :
    f.bound = f.name :: if f.isAccessor then [f.backingName] else [] := by
  unfold bound Model.takenBy
  split_ifs <;> rfl

theorem bound_nodup (f : Field) : f.bound.Nodup := by
  have hne : f.name ≠ f.backingName := (backing_ne_self f.name).symm
  rw [bound_eq]
  split_ifs <;> simp [hne]

/-- All names that fields bind: their own, and the backing names of the accessors. -/
theorem flatMap_bound_perm (fields : List Field) :
    (fields.flatMap bound).Perm
      (fields.map name ++ (fields.filter isAccessor).map backingName) := by
  induction fields with
  | nil => rfl
  | cons f rest ih =>
    rw [List.flatMap_cons, bound_eq, List.map_cons, List.cons_append, List.cons_append]
    refine List.Perm.cons _ ?_
    by_cases ha : f.isAccessor
    · simp only [ha, if_true, List.filter_cons_of_pos, List.map_cons, List.singleton_append]
      exact (List.Perm.cons _ ih).trans List.perm_middle.symm
    · simpa [ha] using ih

end Field

namespace Model

/-! ### Allocation -/

/-- A name can be given to a member: it is free, and so is its backing name if it is `backed`. -/
def isFree (taken : List String) (backed : Bool) (name : String) : Bool :=
  !taken.contains name && !(backed && taken.contains (Field.backing name))

theorem isFree_iff {taken : List String} {backed : Bool} {name : String} :
    isFree taken backed name = true ↔
      name ∉ taken ∧ (backed = true → Field.backing name ∉ taken) := by
  cases backed <;> simp [isFree]

/-- The name that a member is to have: one that is reserved gets an underscore. -/
def preferredName (reserved : List String) (wire : String) : String :=
  if reserved.contains (Name.memberName wire) then Name.memberName wire ++ "_"
  else Name.memberName wire

theorem allocate_eq (reserved taken : List String) (wire : String) (backed : Bool) :
    allocate reserved taken wire backed =
      Name.fresh (isFree taken backed) (preferredName reserved wire) (2 * taken.length + 1) := rfl

/-- A taken name stands in the way of a candidate as its name or as its backing name, so that twice
as many candidates as there are taken names leave one free. -/
theorem countP_not_isFree_lt (taken : List String) (backed : Bool) (base : String) :
    (List.range' 2 (2 * taken.length + 1)).countP
      (fun k => !isFree taken backed (Name.numbered base k)) < 2 * taken.length + 1 := by
  let bound := 2 * taken.length + 1
  have hinj := Name.numbered_injective base
  have hnames := Name.countP_mem_le_length hinj taken 2 bound
  have hbacking := Name.countP_mem_le_length (Field.backing_injective.comp hinj) taken 2 bound
  calc (List.range' 2 bound).countP (fun k => !isFree taken backed (Name.numbered base k))
      ≤ (List.range' 2 bound).countP (fun k => taken.contains (Name.numbered base k) ||
          taken.contains ((Field.backing ∘ Name.numbered base) k)) := by
        refine List.countP_mono_left fun k _ hk => ?_
        cases backed <;> simp_all [isFree]
    _ ≤ taken.length + taken.length :=
        le_trans (Name.countP_or_le _ _ _) (Nat.add_le_add hnames hbacking)
    _ < bound := by omega

theorem allocate_free (reserved taken : List String) (wire : String) (backed : Bool) :
    allocate reserved taken wire backed ∉ taken ∧
      (backed = true → Field.backing (allocate reserved taken wire backed) ∉ taken) := by
  rw [← isFree_iff, allocate_eq]
  exact Name.fresh_free _ _ _ (countP_not_isFree_lt taken backed _)

/-! ### Fields of objects -/

section Objects

variable (c : Context) (taken : List String)

/-- The flag that a name is allocated with is the one that the field is laid out by. -/
theorem buildObjectField_name (f : ObjectField) :
    (buildObjectField c taken f).name =
      allocate c.reserved taken f.name (buildObjectField c taken f).isAccessor := rfl

theorem buildObjectField_bound_free (f : ObjectField) :
    ∀ n ∈ (buildObjectField c taken f).bound, n ∉ taken := by
  obtain ⟨hname, hbacking⟩ :=
    allocate_free c.reserved taken f.name (buildObjectField c taken f).isAccessor
  rw [← buildObjectField_name] at hname hbacking
  intro n hn
  rw [Field.bound_eq] at hn
  split_ifs at hn with ha
  · rcases List.mem_pair.mp hn with rfl | rfl
    · exact hname
    · exact hbacking ha
  · rw [List.mem_singleton.mp hn]
    exact hname

theorem buildObjectFields_wireNames (members : List ObjectField) :
    (buildObjectFields c taken members).map Field.wireName = members.map ObjectField.name := by
  induction members generalizing taken with
  | nil => rfl
  | cons f rest ih =>
    rw [buildObjectFields, List.map_cons, List.map_cons, ih]
    rfl

/-- Whatever the fields bind is new, and bound once. -/
theorem buildObjectFields_bound (members : List ObjectField) :
    ((buildObjectFields c taken members).flatMap Field.bound).Nodup ∧
      ∀ n ∈ (buildObjectFields c taken members).flatMap Field.bound, n ∉ taken := by
  induction members generalizing taken with
  | nil => simp [buildObjectFields]
  | cons f rest ih =>
    let built := buildObjectField c taken f
    obtain ⟨hnodup, hfree⟩ := ih (built.bound ++ taken)
    have hbuilt : ∀ n ∈ built.bound, n ∉ taken := buildObjectField_bound_free c taken f
    rw [buildObjectFields, List.flatMap_cons]
    refine ⟨List.nodup_append.mpr ⟨built.bound_nodup, hnodup, ?_⟩, ?_⟩
    · intro a ha b hb hab
      exact hfree b hb (List.mem_append_left _ (hab ▸ ha))
    · intro n hn
      rcases List.mem_append.mp hn with hn | hn
      · exact hbuilt n hn
      · exact fun ht => hfree n hn (List.mem_append_right _ ht)

/-- A field is allocated against exactly what the fields before it bind. -/
theorem buildObjectFields_allocated (members : List ObjectField) {before after : List Field}
    {f : Field} (h : buildObjectFields c taken members = before ++ f :: after) :
    f.name = allocate c.reserved (before.reverse.flatMap Field.bound ++ taken) f.wireName
      f.isAccessor := by
  induction members generalizing taken before with
  | nil => simp [buildObjectFields] at h
  | cons m rest ih =>
    rw [buildObjectFields] at h
    cases before with
    | nil =>
      obtain ⟨rfl, -⟩ := List.cons.inj h
      rfl
    | cons first before =>
      obtain ⟨rfl, hrest⟩ := List.cons.inj h
      have hname := ih _ hrest
      rw [List.reverse_cons, List.flatMap_append, List.flatMap_singleton, List.append_assoc]
      exact hname

end Objects

/-! ### Fields of inputs -/

theorem buildInputFields_wireNames {c : Context} {owner : String} {taken : List String}
    {members : List InputValue} {fields : List Field}
    (h : (buildInputFields c owner taken members).result = .ok fields) :
    fields.map Field.wireName = members.map InputValue.name := by
  induction members generalizing taken fields with
  | nil =>
    cases h
    rfl
  | cons f rest ih =>
    obtain ⟨built, more, hbuilt, hmore, rfl⟩ := result_buildInputFields_cons.mp h
    obtain ⟨default, -, rfl⟩ := buildInputField_eq_ok.mp hbuilt
    rw [List.map_cons, List.map_cons, ih hmore]

theorem buildInputFields_names {c : Context} {owner : String} {taken : List String}
    {members : List InputValue} {fields : List Field}
    (h : (buildInputFields c owner taken members).result = .ok fields) :
    (fields.map Field.name).Nodup ∧ ∀ n ∈ fields.map Field.name, n ∉ taken := by
  induction members generalizing taken fields with
  | nil =>
    cases h
    simp
  | cons f rest ih =>
    obtain ⟨built, more, hbuilt, hmore, rfl⟩ := result_buildInputFields_cons.mp h
    obtain ⟨hnodup, hfree⟩ := ih hmore
    have hname : built.name ∉ taken := by
      obtain ⟨default, -, rfl⟩ := buildInputField_eq_ok.mp hbuilt
      exact (allocate_free c.reserved taken f.name false).1
    rw [List.map_cons]
    refine ⟨List.nodup_cons.mpr ⟨fun hmem => hfree _ hmem List.mem_cons_self, hnodup⟩, ?_⟩
    intro n hn
    rcases List.mem_cons.mp hn with rfl | hn
    · exact hname
    · exact fun ht => hfree n hn (List.mem_cons_of_mem _ ht)

end Model

/-! ### Declarations -/

namespace Module

theorem attributeOf_name (scalars : ScalarRegistry) (c : Class) (f : Field) :
    (attributeOf scalars c f).name =
      if !c.isInput && f.isAccessor then f.backingName else f.name := by
  unfold attributeOf
  cases c.isInput <;> cases f.isAccessor <;> rfl

theorem accessor_name (scalars : ScalarRegistry) (f : Field) :
    (accessor scalars f).name = f.name := by
  unfold accessor
  split_ifs <;> rfl

/-- The body of an object class binds the names of its fields and the backing names of its
accessors, and nothing else. -/
theorem boundNames_declare_object (scalars : ScalarRegistry) (m : Model) {c : Class}
    (hc : c.isInput = false) :
    (declare scalars m c).boundNames.Perm
      (c.fields.map Field.name ++ (c.fields.filter Field.isAccessor).map Field.backingName) := by
  refine List.Perm.trans ?_ (Field.flatMap_bound_perm c.fields)
  simp only [ClassDeclaration.boundNames, declare, hc, Bool.false_eq_true, if_false, List.map_map]
  induction c.fields with
  | nil => rfl
  | cons f rest ih =>
    simp only [List.flatMap_cons, Field.bound_eq, List.map_cons, Function.comp_apply,
      attributeOf_name, hc, Bool.not_false, Bool.true_and, List.cons_append]
    by_cases ha : f.isAccessor
    · rw [List.filter_cons_of_pos ha, List.map_cons, Function.comp_apply, accessor_name, if_pos ha,
        if_pos ha]
      -- the method stands behind all attributes, next to no name of its own field
      refine (List.Perm.cons _ List.perm_middle).trans ((List.Perm.swap _ _ _).trans ?_)
      exact List.Perm.cons _ (List.Perm.cons _ ih)
    · rw [List.filter_cons_of_neg ha, if_neg ha, if_neg ha]
      exact List.Perm.cons _ ih

theorem boundNames_declare_input (scalars : ScalarRegistry) (m : Model) {c : Class}
    (hc : c.isInput = true) :
    (declare scalars m c).boundNames = c.fields.map Field.name := by
  simp only [ClassDeclaration.boundNames, declare, hc, if_true, List.map_map, List.map_nil,
    List.append_nil]
  refine List.map_congr_left fun f _ => ?_
  simp [attributeOf_name, hc]

end Module

/-! ### Built classes -/

/-- Each class of a model has one field for each member of its type, in order and under its wire
name, and its body binds no name twice. A field of an object is allocated against the names that the
fields before it bind, and with its backing name just if it is laid out as an accessor. -/
theorem boundNames_nodup_of_build {sdl : String} {scalars : ScalarRegistry}
    {namespaceName : String} {clientName : Option String} {d : Schema.Document} {m : Model}
    (hd : (Schema.read sdl).result = .ok d)
    (hm : (Model.build d scalars namespaceName clientName).result = .ok m) :
    List.Forall₂ (fun (b : Block ObjectField) (c : Class) =>
        c.name = b.name ∧
        c.fields.map Field.wireName = b.members.map ObjectField.name ∧
        (c.fields.map Field.wireName).Nodup ∧
        (c.fields.map Field.name ++
          (c.fields.filter Field.isAccessor).map Field.backingName).Nodup ∧
        (Module.declare scalars m c).boundNames.Perm
          (c.fields.map Field.name ++ (c.fields.filter Field.isAccessor).map Field.backingName) ∧
        ∀ before f after, c.fields = before ++ f :: after →
          f.name = Model.allocate (Model.context d scalars).reserved
            (before.reverse.flatMap Field.bound) f.wireName f.isAccessor)
      d.objects m.types ∧
    List.Forall₂ (fun (b : Block InputValue) (c : Class) =>
        c.name = b.name ∧
        c.fields.map Field.wireName = b.members.map InputValue.name ∧
        (c.fields.map Field.wireName).Nodup ∧
        (c.fields.map Field.name).Nodup ∧
        (Module.declare scalars m c).boundNames = c.fields.map Field.name)
      d.inputs m.inputs := by
  have hdistinct := Schema.distinct_of_read hd
  refine ⟨?_, ?_⟩
  · rw [Model.types_of_build hm, List.forall₂_map_right_iff, List.forall₂_same]
    intro b hb
    let ctx := Model.context d scalars
    have hwire := Model.buildObjectFields_wireNames ctx [] b.members
    have hnames := (Model.buildObjectFields_bound ctx [] b.members).1
    refine ⟨rfl, hwire, ?_, ?_, Module.boundNames_declare_object scalars m rfl, ?_⟩
    · exact hwire ▸ hdistinct.objects.members b hb
    · exact (Field.flatMap_bound_perm _).nodup_iff.mp hnames
    · intro before f after hsplit
      have hname := Model.buildObjectFields_allocated ctx [] b.members hsplit
      rwa [List.append_nil] at hname
  · refine List.Forall₂.imp ?_ (List.forall₂_and_left _ _ |>.mpr
      ⟨hdistinct.inputs.members, Model.inputs_of_build hm⟩)
    rintro b c ⟨hnodup, hbuilt⟩
    obtain ⟨fields, hfields, rfl⟩ := Model.result_buildInput.mp hbuilt
    have hwire := Model.buildInputFields_wireNames hfields
    exact ⟨rfl, hwire, hwire ▸ hnodup, (Model.buildInputFields_names hfields).1,
      Module.boundNames_declare_input scalars m rfl⟩

/-- Fields that collide with each other and with a backing name, in either order. -/
theorem boundNames_nodup_of_build_collisions :
    ∃ d m, (Schema.read ("schema\x7bquery:Q\x7d" ++
        "type Q\x7bfooBar:Q foo_bar:Int raw_foo_bar:Q raw_x:Int x:Q\x7d" ++
        "input I\x7ba:Int A:Int\x7d")).result = .ok d ∧
      (Model.build d .standard "Demo" none).result = .ok m ∧
      m.classes.map (fun c => c.fields.map Field.name) =
        [["foo_bar", "foo_bar_2", "raw_foo_bar_2", "raw_x", "x_2"], ["a", "a_2"]] ∧
      (∀ c ∈ m.types, (c.fields.map Field.name ++
        (c.fields.filter Field.isAccessor).map Field.backingName).Nodup) ∧
      ∀ c ∈ m.inputs, (c.fields.map Field.name).Nodup := by
  have h : ((Schema.read ("schema\x7bquery:Q\x7d" ++
      "type Q\x7bfooBar:Q foo_bar:Int raw_foo_bar:Q raw_x:Int x:Q\x7d" ++
      "input I\x7ba:Int A:Int\x7d")).result.toOption.bind fun d =>
        (Model.build d .standard "Demo" none).result.toOption.map fun m =>
          m.classes.map fun c => c.fields.map Field.name) =
      some [["foo_bar", "foo_bar_2", "raw_foo_bar_2", "raw_x", "x_2"], ["a", "a_2"]] := by
    decide +kernel
  obtain ⟨d, hd, h⟩ := Option.bind_eq_some_iff.mp h
  obtain ⟨m, hm, h⟩ := Option.map_eq_some_iff.mp h
  have hd := toOption_eq_some_iff.mp hd
  have hm := toOption_eq_some_iff.mp hm
  obtain ⟨hobjects, hinputs⟩ := boundNames_nodup_of_build hd hm
  refine ⟨d, m, hd, hm, h, ?_, ?_⟩
  · intro c hc
    obtain ⟨b, -, -, -, -, hnodup, -⟩ := exists_of_forall₂_right hobjects hc
    exact hnodup
  · intro c hc
    obtain ⟨b, -, -, -, -, hnodup, -⟩ := exists_of_forall₂_right hinputs hc
    exact hnodup

end SchemaClient
