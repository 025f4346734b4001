import SchemaClient.Proofs.Model.Members
import SchemaClient.Proofs.Model.Order

/-! Extending a type at the end of a schema: the model keeps everything that it has, and the type gets
further fields or values behind its own. -/
namespace SchemaClient

open Sdl

/-! ### Blocks that grow -/

namespace Schema

theorem eraseDups_of_nodup {as : List String} (h : as.Nodup) : as.eraseDups = as := by
  induction as using List.reverseRecOn with
  | nil => rfl
  | append_singleton as a ih =>
    obtain ⟨has, -, hnew⟩ := List.nodup_append.mp h
    have ha : a ∉ as := fun hmem => hnew a hmem a (List.mem_singleton_self a) rfl
    rw [eraseDups_append_singleton, if_neg ha, ih has]

section Members

variable {μ : Type} {name : μ → String}

theorem addMembers_map_name (present new : List μ) :
    (addMembers name present new).map name = addMembers id (present.map name) (new.map name) := by
  induction new generalizing present with
  | nil => rfl
  | cons m rest ih =>
    have hany : (present.map name).any (fun p => id p == id (name m)) =
        present.any fun p => name p == name m := by
      rw [List.any_map]
      rfl
    rw [List.map_cons, addMembers, addMembers, hany]
    split_ifs
    · exact ih present
    · rw [ih, List.map_append, List.map_singleton]

/-- Members that are added come behind those that are there, and each name counts once. -/
theorem addMembers_names {present : List μ} (h : (present.map name).Nodup) (new : List μ) :
    (addMembers name present new).map name = (present.map name ++ new.map name).eraseDups := by
  have hids : ∀ names : List String, names.eraseDups = addMembers id [] names :=
    fun names => (addMembers_nil id names).symm
  rw [addMembers_map_name, hids, addMembers_append, ← hids, eraseDups_of_nodup h]

end Members

/-- Takes a block into the type of its name, in its place. -/
def extend {μ : Type} (name : μ → String) (new b : Block μ) : Block μ :=
  if b.name = new.name then absorb name b new else b

theorem extend_name {μ : Type} (name : μ → String) (new b : Block μ) :
    (extend name new b).name = b.name := by
  unfold extend
  split_ifs <;> rfl

theorem extend_names {μ : Type} (name : μ → String) (new : Block μ) (blocks : List (Block μ)) :
    (blocks.map (extend name new)).map Block.name = blocks.map Block.name := by
  rw [List.map_map]
  exact List.map_congr_left fun b _ => extend_name name new b

/-- A block of a known type is taken in by it and moves nothing. -/
theorem addBlock_collect {μ : Type} {name : μ → String} {new : Block μ} {blocks : List (Block μ)}
    (h : new.name ∈ blocks.map Block.name) :
    (∃ b ∈ collect name blocks, b.name = new.name) ∧
      addBlock name new (collect name blocks) = (collect name blocks).map (extend name new) := by
  have hnodup : ((collect name blocks).map Block.name).Nodup := by
    rw [collect_names]
    exact nodup_eraseDups _
  have hmem : new.name ∈ (collect name blocks).map Block.name := by
    rw [collect_names, List.mem_eraseDups]
    exact h
  exact ⟨List.mem_map.mp hmem, addBlock_of_mem name _ new hnodup hmem⟩

section Documents

variable {ds : List Definition}

theorem merge_append {d : Document} (h : (merge ds).result = .ok d) {x : Definition}
    (hx : rejection? x = none) :
    (merge (ds ++ [x])).result = .ok (.declared (ds ++ [x])) := by
  obtain ⟨hplace, ⟨y, hy, hschema⟩, -⟩ := result_merge_iff.mp h
  refine result_merge_iff.mpr ⟨fun z hz => ?_, ⟨y, List.mem_append_left _ hy, hschema⟩, rfl⟩
  rcases List.mem_append.mp hz with hz | hz
  · exact hplace z hz
  · rw [List.mem_singleton.mp hz]
    exact hx

theorem declared_extend_object {block : Block ObjectField}
    (h : ∃ old interfaces, .object old interfaces ∈ ds ∧ old.name = block.name) :
    (∃ b ∈ (Document.declared ds).objects, b.name = block.name) ∧
      Document.declared (ds ++ [.object block []]) =
        { Document.declared ds with
          objects := (Document.declared ds).objects.map (extend ObjectField.name block) } := by
  have hmem : block.name ∈ (ds.filterMap Definition.objectBlock?).map Block.name := by
    obtain ⟨old, interfaces, hold, hname⟩ := h
    exact List.mem_map.mpr ⟨old, List.mem_filterMap.mpr ⟨_, hold, rfl⟩, hname⟩
  have hobjects : (∃ b ∈ (Document.declared ds).objects, b.name = block.name) ∧
      addBlock ObjectField.name block (Document.declared ds).objects =
        (Document.declared ds).objects.map (extend ObjectField.name block) := addBlock_collect hmem
  refine ⟨hobjects.1, ?_⟩
  rw [Document.declared_append]
  simp [Definition.objectBlock?, Definition.inputBlock?, Definition.enumBlock?, Definition.scalar?,
    Definition.schemaRoots, Definition.extensionRoots, firstRoot?, hobjects.2]

theorem declared_extend_enum {block : Block EnumValue}
    (h : ∃ old, .enum old ∈ ds ∧ old.name = block.name) :
    (∃ b ∈ (Document.declared ds).enums, b.name = block.name) ∧
      Document.declared (ds ++ [.enum block]) =
        { Document.declared ds with
          enums := (Document.declared ds).enums.map (extend EnumValue.name block) } := by
  have hmem : block.name ∈ (ds.filterMap Definition.enumBlock?).map Block.name := by
    obtain ⟨old, hold, hname⟩ := h
    exact List.mem_map.mpr ⟨old, List.mem_filterMap.mpr ⟨_, hold, rfl⟩, hname⟩
  have henums : (∃ b ∈ (Document.declared ds).enums, b.name = block.name) ∧
      addBlock EnumValue.name block (Document.declared ds).enums =
        (Document.declared ds).enums.map (extend EnumValue.name block) := addBlock_collect hmem
  refine ⟨henums.1, ?_⟩
  rw [Document.declared_append]
  simp [Definition.objectBlock?, Definition.inputBlock?, Definition.enumBlock?, Definition.scalar?,
    Definition.schemaRoots, Definition.extensionRoots, firstRoot?, henums.2]

end Documents

end Schema

/-- A class with further fields behind its own. -/
def Class.grow (added : List Field) (c : Class) : Class :=
  { c with fields := c.fields ++ added }

/-- An enum with further entries behind its own. -/
def Enum.grow (added : List EnumEntry) (e : Enum) : Enum :=
  { e with entries := e.entries ++ added }

namespace Model

/-! ### Members that come last -/

/-- Fields keep their names when others come behind them. -/
theorem buildObjectFields_append (c : Context) (taken : List String)
    (members more : List ObjectField) :
    ∃ added, buildObjectFields c taken (members ++ more) =
      buildObjectFields c taken members ++ added := by
  induction members generalizing taken with
  | nil => exact ⟨_, rfl⟩
  | cons f rest ih =>
    let built := buildObjectField c taken f
    obtain ⟨added, hadded⟩ := ih (takenBy built built.isAccessor ++ taken)
    refine ⟨added, ?_⟩
    rw [List.cons_append, buildObjectFields, buildObjectFields, hadded]
    rfl

theorem buildEntries_append (taken : List String) (values more : List EnumValue) :
    ∃ added, buildEntries taken (values ++ more) = buildEntries taken values ++ added := by
  induction values generalizing taken with
  | nil => exact ⟨_, rfl⟩
  | cons v rest ih =>
    obtain ⟨added, hadded⟩ := ih (Name.unique taken (Name.enumMemberName v.name) :: taken)
    refine ⟨added, ?_⟩
    rw [List.cons_append, buildEntries, buildEntries, hadded]
    rfl

/-- The class of an object type that takes in a block without a description. -/
theorem buildObject_absorb (c : Context) {b new : Block ObjectField} (hnew : new.description = none)
    (hb : (b.members.map ObjectField.name).Nodup) :
    ∃ added, buildObject c (Schema.absorb ObjectField.name b new) =
        (buildObject c b).grow added ∧
      ((buildObject c b).grow added).fields.map Field.wireName =
        ((buildObject c b).fields.map Field.wireName ++
          new.members.map ObjectField.name).eraseDups := by
  have hmembers := Schema.addMembers_eq ObjectField.name b.members new.members
  obtain ⟨added, hadded⟩ := buildObjectFields_append c [] b.members
    ((new.members.filter fun m => !b.members.any fun p => p.name == m.name).eraseDupsBy
      fun m p => m.name == p.name)
  rw [← hmembers] at hadded
  refine ⟨added, ?_, ?_⟩
  · simp only [buildObject, Class.grow, Schema.absorb, hnew, Option.none_or, hadded]
  · have hold : (buildObject c b).fields.map Field.wireName = b.members.map ObjectField.name :=
      buildObjectFields_wireNames c [] b.members
    have hall := buildObjectFields_wireNames c []
      (Schema.addMembers ObjectField.name b.members new.members)
    rw [hadded] at hall
    rw [hold, ← Schema.addMembers_names hb]
    exact hall

/-- The enum of a type that takes in a block without a description. -/
theorem buildEnum_absorb {b new : Block EnumValue} (hnew : new.description = none)
    (hb : (b.members.map EnumValue.name).Nodup) :
    ∃ added, buildEnum (Schema.absorb EnumValue.name b new) =
        (buildEnum b).grow added ∧
      ((buildEnum b).grow added).entries.map EnumEntry.wireName =
        ((buildEnum b).entries.map EnumEntry.wireName ++
          new.members.map EnumValue.name).eraseDups := by
  have hmembers := Schema.addMembers_eq EnumValue.name b.members new.members
  obtain ⟨added, hadded⟩ := buildEntries_append [] b.members
    ((new.members.filter fun m => !b.members.any fun p => p.name == m.name).eraseDupsBy
      fun m p => m.name == p.name)
  rw [← hmembers] at hadded
  refine ⟨added, ?_, ?_⟩
  · simp only [buildEnum, Enum.grow, Schema.absorb, hnew, Option.none_or, hadded]
  · have hold : (buildEnum b).entries.map EnumEntry.wireName = b.members.map EnumValue.name :=
      buildEntries_wireNames [] b.members
    have hall := buildEntries_wireNames []
      (Schema.addMembers EnumValue.name b.members new.members)
    rw [hadded] at hall
    rw [hold, ← Schema.addMembers_names hb]
    exact hall

end Model

/-- A value keeps its member when others come behind it. -/
theorem Enum.wireToMember_grow {e : Enum} {added : List EnumEntry}
    (hnodup : ((e.grow added).entries.map EnumEntry.wireName).Nodup) {wire member : String}
    (h : e.wireToMember.get? wire = some member) :
    (e.grow added).wireToMember.get? wire = some member := by
  have hmem := Table.mem_of_get?_ofPairs h
  have hkeys : (((e.grow added).entries.map fun v => (v.wireName, v.memberName)).map
      Prod.fst).Nodup := by
    rw [List.map_map]
    exact hnodup
  rw [wireToMember, Table.ofPairs_eq_self hkeys, Table.get?_eq_some_iff hkeys, grow,
    List.map_append]
  exact List.mem_append_left _ hmem

namespace Model

/-! ### Models that grow -/

/-- What is built from a list of types changes where the type of a block's name does. -/
theorem map_extend {μ β : Type} {name : μ → String} {blocks : List (Block μ)} {new b : Block μ}
    (hnodup : (blocks.map Block.name).Nodup) (hb : b ∈ blocks) (hname : b.name = new.name)
    {make : Block μ → β} (nameOf : β → String) (hmake : ∀ x, nameOf (make x) = x.name)
    (grow : β → β) (hgrow : make (Schema.absorb name b new) = grow (make b)) :
    (blocks.map (Schema.extend name new)).map make =
      (blocks.map make).map fun x => if nameOf x = new.name then grow x else x := by
  rw [List.map_map, List.map_map]
  refine List.map_congr_left fun x hx => ?_
  simp only [Function.comp_apply, hmake, Schema.extend]
  split_ifs with hnew
  · have hxb : x = b := List.inj_on_of_nodup_map hnodup hx hb (hnew.trans hname.symm)
    rw [hxb, hgrow]
  · rfl

/-- Values that an enum gets keep the members of those that it has. -/
theorem extends_of_extend_enum {d : Schema.Document} (hdistinct : d.Distinct)
    {new : Block EnumValue} (hnew : new.description = none) (scalars : ScalarRegistry) :
    (context { d with enums := d.enums.map (Schema.extend EnumValue.name new) } scalars).Extends
      (context d scalars) where
  kindOf := by
    have hresolver : Resolver.ofDocument
        { d with enums := d.enums.map (Schema.extend EnumValue.name new) } = .ofDocument d := by
      simp only [Resolver.ofDocument, Schema.extend_names]
    intro name
    simp only [context, hresolver]
  scalars := rfl
  reserved := by
    intro name
    simp only [context, moduleNames, typeNames, Schema.extend_names]
  members := by
    intro enum wire member hmember
    have hnames : ((d.enums.map buildEnum).map Enum.name).Nodup := by
      rw [List.map_map]
      exact hdistinct.enums.names
    have hnames' : (((d.enums.map (Schema.extend EnumValue.name new)).map buildEnum).map
        Enum.name).Nodup := by
      rw [List.map_map]
      exact (Schema.extend_names EnumValue.name new d.enums) ▸ hdistinct.enums.names
    obtain ⟨e, he, hwire⟩ := Option.bind_eq_some_iff.mp hmember
    obtain ⟨hin, hname⟩ := (enumNamed?_eq_some_iff hnames).mp he
    obtain ⟨b, hb, rfl⟩ := List.mem_map.mp hin
    have hgrown : (enumNamed? ((d.enums.map (Schema.extend EnumValue.name new)).map buildEnum) enum) =
        some (buildEnum (Schema.extend EnumValue.name new b)) := by
      refine (enumNamed?_eq_some_iff hnames').mpr ⟨?_, ?_⟩
      · exact List.mem_map.mpr ⟨_, List.mem_map.mpr ⟨b, hb, rfl⟩, rfl⟩
      · exact (Schema.extend_name EnumValue.name new b).trans hname
    refine Option.bind_eq_some_iff.mpr ⟨_, hgrown, ?_⟩
    unfold Schema.extend
    split_ifs
    · obtain ⟨added, hadded, hwires⟩ := buildEnum_absorb hnew (hdistinct.enums.members b hb)
      rw [hadded]
      exact Enum.wireToMember_grow (hwires ▸ Schema.nodup_eraseDups _) hwire
    · exact hwire

section Definitions

variable {ds : List Definition} {scalars : ScalarRegistry} {namespaceName : String}
  {clientName : Option String} {m : Model}
  (hm : (ofDefinitions ds scalars namespaceName clientName).result = .ok m)

include hm

theorem ofDefinitions_extend_object {block : Block ObjectField} (hblock : block.description = none)
    (hold : ∃ old interfaces, .object old interfaces ∈ ds ∧ old.name = block.name) :
    ∃ c ∈ m.types, c.name = block.name ∧ ∃ added,
      (c.grow added).fields.map Field.wireName =
        (c.fields.map Field.wireName ++ block.members.map ObjectField.name).eraseDups ∧
      (ofDefinitions (ds ++ [.object block []]) scalars namespaceName clientName).result =
        .ok { m with types := m.types.map fun c =>
          if c.name = block.name then c.grow added else c } := by
  obtain ⟨d, hd, hm⟩ := Traced.result_bind_eq_ok.mp hm
  have hdistinct := Schema.distinct_of_merge hd
  have hmerge := Schema.merge_append hd (x := .object block []) rfl
  obtain ⟨⟨b, hb, hname⟩, hextend⟩ := Schema.declared_extend_object hold
  obtain ⟨-, -, rfl⟩ := Schema.result_merge_iff.mp hd
  rw [hextend] at hmerge
  generalize Schema.Document.declared ds = d at hdistinct hm hb hmerge
  obtain ⟨hcheck, inputs, hinputs, rfl⟩ := result_build.mp hm
  obtain ⟨added, hadded, hwires⟩ :=
    buildObject_absorb (context d scalars) hblock (hdistinct.objects.members b hb)
  refine ⟨_, List.mem_map.mpr ⟨b, hb, rfl⟩, hname, added, hwires, ?_⟩
  -- no name of a type changes, so that all other classes are built as before
  have hcontext : context { d with objects := d.objects.map (Schema.extend ObjectField.name block) }
      scalars = context d scalars := by
    simp only [context, Resolver.ofDocument, moduleNames, typeNames, Schema.extend_names]
  have htypes := map_extend hdistinct.objects.names hb hname Class.name (fun _ => rfl)
    (Class.grow added) hadded
  refine Traced.result_bind_eq_ok.mpr ⟨_, hmerge, result_build.mpr ⟨?_, inputs, ?_, ?_⟩⟩
  · simpa only [moduleNames, typeNames, Schema.extend_names] using hcheck
  · rw [hcontext]
    exact hinputs
  · rw [hcontext, ← htypes]

theorem ofDefinitions_extend_enum {block : Block EnumValue} (hblock : block.description = none)
    (hold : ∃ old, .enum old ∈ ds ∧ old.name = block.name) :
    ∃ e ∈ m.enums, e.name = block.name ∧ ∃ added,
      (e.grow added).entries.map EnumEntry.wireName =
        (e.entries.map EnumEntry.wireName ++ block.members.map EnumValue.name).eraseDups ∧
      (ofDefinitions (ds ++ [.enum block]) scalars namespaceName clientName).result =
        .ok { m with enums := m.enums.map fun e =>
          if e.name = block.name then e.grow added else e } := by
  obtain ⟨d, hd, hm⟩ := Traced.result_bind_eq_ok.mp hm
  have hdistinct := Schema.distinct_of_merge hd
  have hmerge := Schema.merge_append hd (x := .enum block) rfl
  obtain ⟨⟨b, hb, hname⟩, hextend⟩ := Schema.declared_extend_enum hold
  obtain ⟨-, -, rfl⟩ := Schema.result_merge_iff.mp hd
  rw [hextend] at hmerge
  generalize Schema.Document.declared ds = d at hdistinct hm hb hmerge
  obtain ⟨hcheck, inputs, hinputs, rfl⟩ := result_build.mp hm
  obtain ⟨added, hadded, hwires⟩ := buildEnum_absorb hblock (hdistinct.enums.members b hb)
  refine ⟨_, List.mem_map.mpr ⟨b, hb, rfl⟩, hname, added, hwires, ?_⟩
  have hextends := extends_of_extend_enum hdistinct hblock scalars
  have henums := map_extend hdistinct.enums.names hb hname Enum.name (fun _ => rfl)
    (Enum.grow added) hadded
  refine Traced.result_bind_eq_ok.mpr ⟨_, hmerge, result_build.mpr ⟨?_, inputs, ?_, ?_⟩⟩
  · simpa only [moduleNames, typeNames, Schema.extend_names] using hcheck
  · exact hinputs.imp fun _ _ => hextends.buildInput
  · rw [funext hextends.buildObject, ← henums]

end Definitions

end Model

/-- A block without interfaces that extends a known object type, or a block that extends a known enum,
changes nothing in the model but what its type has behind the fields or values of before. -/
theorem ofDefinitions_extended {ds : List Definition} {scalars : ScalarRegistry}
    {namespaceName : String} {clientName : Option String} {m : Model}
    (hm : (Model.ofDefinitions ds scalars namespaceName clientName).result = .ok m) :
    (∀ block : Block ObjectField, block.description = none →
      (∃ old interfaces, .object old interfaces ∈ ds ∧ old.name = block.name) →
      ∃ c ∈ m.types, c.name = block.name ∧ ∃ added,
        (c.grow added).fields.map Field.wireName =
          (c.fields.map Field.wireName ++ block.members.map ObjectField.name).eraseDups ∧
        (Model.ofDefinitions (ds ++ [.object block []]) scalars namespaceName clientName).result =
          .ok { m with types := m.types.map fun c =>
            if c.name = block.name then c.grow added else c }) ∧
    ∀ block : Block EnumValue, block.description = none →
      (∃ old, .enum old ∈ ds ∧ old.name = block.name) →
      ∃ e ∈ m.enums, e.name = block.name ∧ ∃ added,
        (e.grow added).entries.map EnumEntry.wireName =
          (e.entries.map EnumEntry.wireName ++ block.members.map EnumValue.name).eraseDups ∧
        (Model.ofDefinitions (ds ++ [.enum block]) scalars namespaceName clientName).result =
          .ok { m with enums := m.enums.map fun e =>
            if e.name = block.name then e.grow added else e } :=
  ⟨fun _ => Model.ofDefinitions_extend_object hm, fun _ => Model.ofDefinitions_extend_enum hm⟩

/-- New fields and values that collide with the names that the old ones got. -/
theorem ofDefinitions_extended_colliding :
    let fields : Block ObjectField := ⟨"Query", none,
      [⟨"find", .named "Int", [], none⟩, ⟨"find_2", .named "Query", [], none⟩]⟩
    let values : Block EnumValue := ⟨"Color", none, [⟨"RED", none⟩, ⟨"red", none⟩]⟩
    ∃ m, (Model.ofDefinitions (rootPart ++ valuePart) .standard "Demo" none).result = .ok m ∧
      m.types.map (fun c => c.fields.map Field.name) = [["find", "find_2"]] ∧
      (∃ c ∈ m.types, ∃ added, (c.grow added).fields.map Field.wireName = ["find", "Find", "find_2"] ∧
        (Model.ofDefinitions (rootPart ++ valuePart ++ [.object fields []]) .standard "Demo" none).result
          = .ok { m with types := m.types.map fun c =>
              if c.name = "Query" then c.grow added else c }) ∧
      ∃ e ∈ m.enums, ∃ added, (e.grow added).entries.map EnumEntry.wireName = ["red", "RED"] ∧
        (Model.ofDefinitions (rootPart ++ valuePart ++ [.enum values]) .standard "Demo" none).result =
          .ok { m with enums := m.enums.map fun e =>
            if e.name = "Color" then e.grow added else e } := by
  intro fields values
  have hrun : ((Model.ofDefinitions (rootPart ++ valuePart) .standard "Demo" none).result.toOption.map
      fun m => (m.types.map fun c => (c.fields.map Field.name, c.fields.map Field.wireName),
        m.enums.map fun e => e.entries.map EnumEntry.wireName)) =
        some ([(["find", "find_2"], ["find", "Find"])], [["red"]]) := by
    decide +kernel
  obtain ⟨m, hm, hnames⟩ := Option.map_eq_some_iff.mp hrun
  have hm := toOption_eq_some_iff.mp hm
  obtain ⟨htypes, henums⟩ := Prod.mk.inj hnames
  obtain ⟨hobject, henum⟩ := ofDefinitions_extended hm
  obtain ⟨c, hc, -, added, hwires, hgrown⟩ := hobject fields rfl ⟨_, _, List.mem_cons_self, rfl⟩
  obtain ⟨e, he, -, entries, hvalues, hmore⟩ := henum values rfl
    ⟨⟨"Color", none, [⟨"red", none⟩]⟩, by simp [valuePart], rfl⟩
  have hold : c.fields.map Field.wireName = ["find", "Find"] := by
    have hin := List.mem_map_of_mem (f := fun c : Class =>
      (c.fields.map Field.name, c.fields.map Field.wireName)) hc
    rw [htypes, List.mem_singleton] at hin
    exact (Prod.mk.inj hin).2
  have hred : e.entries.map EnumEntry.wireName = ["red"] := by
    have hin := List.mem_map_of_mem (f := fun e : Enum => e.entries.map EnumEntry.wireName) he
    rwa [henums, List.mem_singleton] at hin
  rw [hold] at hwires
  rw [hred] at hvalues
  have hnames := congrArg (List.map Prod.fst) htypes
  rw [List.map_map] at hnames
  exact ⟨m, hm, hnames, ⟨c, hc, added, hwires.trans (by decide), hgrown⟩,
    ⟨e, he, entries, hvalues.trans (by decide), hmore⟩⟩

end SchemaClient
