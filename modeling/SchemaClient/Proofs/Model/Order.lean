import SchemaClient.Proofs.Model.Context
import SchemaClient.Proofs.Schema.Declared
import SchemaClient.Proofs.Text.Sorted

/-! The order of definitions: as long as the blocks of one type and the parts of the schema keep their
order among themselves, the same client comes out, up to the order of its classes. -/
namespace SchemaClient

open Sdl

/-! ### Definitions in another order -/

/-- Definitions whose order among themselves matters. -/
inductive Sdl.Group where
  | schema
  | object (name : String)
  | input (name : String)
  | enum (name : String)
deriving DecidableEq

def Sdl.Definition.group? : Definition → Option Group
  | .schema _ | .schemaExtension _ => some .schema
  | .object block _ => some (.object block.name)
  | .input block => some (.input block.name)
  | .enum block => some (.enum block.name)
  | _ => none

/-- The same definitions in an order that differs between groups only. -/
structure Sdl.Reordered (ds es : List Definition) : Prop where
  perm : ds.Perm es
  groups : ∀ g, (ds.filter fun x => x.group? = some g) = es.filter fun x => x.group? = some g

theorem Sdl.Reordered.symm {ds es : List Definition} (h : Reordered ds es) : Reordered es ds :=
  ⟨h.perm.symm, fun g => (h.groups g).symm⟩

namespace Schema

structure Document.Reordered (d e : Document) : Prop where
  objects : d.objects.Perm e.objects
  inputs : d.inputs.Perm e.inputs
  enums : d.enums.Perm e.enums
  scalars : d.scalars.Perm e.scalars
  queryType : d.queryType = e.queryType
  mutationType : d.mutationType = e.mutationType

theorem perm_eraseDups {as bs : List String} (h : as.Perm bs) : as.eraseDups.Perm bs.eraseDups := by
  rw [List.perm_ext_iff_of_nodup (nodup_eraseDups as) (nodup_eraseDups bs)]
  intro a
  rw [List.mem_eraseDups, List.mem_eraseDups, h.mem_iff]

/-- Types gather their own blocks, so that those of other types may move. -/
theorem perm_collect {μ : Type} {name : μ → String} {bs cs : List (Block μ)} (hperm : bs.Perm cs)
    (hown : ∀ n, (bs.filter fun b => b.name == n) = cs.filter fun b => b.name == n) :
    (collect name bs).Perm (collect name cs) := by
  have hgather : gather name bs = gather name cs := by
    funext n
    rw [gather, gather, hown]
  unfold collect
  rw [hgather]
  exact (perm_eraseDups (hperm.map _)).map _

/-- Outside the schema group there are no roots. -/
theorem no_roots_of_group? {x : Definition} (hx : x.group? ≠ some .schema) :
    x.isSchema = false ∧ x.extensionRoots = [] := by
  cases x with
  | schema roots => exact absurd rfl hx
  | schemaExtension roots => exact absurd rfl hx
  | _ => exact ⟨rfl, rfl⟩

theorem flatMap_extensionRoots_filter (definitions : List Definition) :
    (definitions.filter fun x => x.group? = some .schema).flatMap Definition.extensionRoots =
      definitions.flatMap Definition.extensionRoots := by
  induction definitions with
  | nil => rfl
  | cons x rest ih =>
    by_cases hx : x.group? = some .schema
    · rw [List.filter_cons_of_pos (by simpa using hx), List.flatMap_cons, List.flatMap_cons, ih]
    · rw [List.filter_cons_of_neg (by simpa using hx), List.flatMap_cons,
        (no_roots_of_group? hx).2, List.nil_append, ih]

theorem countedRoots_filter (definitions : List Definition) :
    countedRoots (definitions.filter fun x => x.group? = some .schema) =
      countedRoots definitions := by
  induction definitions with
  | nil => rfl
  | cons x rest ih =>
    by_cases hx : x.group? = some .schema
    · rw [List.filter_cons_of_pos (by simpa using hx), countedRoots_cons, countedRoots_cons, ih,
        flatMap_extensionRoots_filter]
    · obtain ⟨hschema, hroots⟩ := no_roots_of_group? hx
      rw [List.filter_cons_of_neg (by simpa using hx), countedRoots_cons, ih, hschema, hroots]
      rfl

section Groups

variable {ds es : List Definition} (h : Reordered ds es)

include h

theorem perm_collect_filterMap {μ : Type} (name : μ → String)
    {block? : Definition → Option (Block μ)} (group : String → Group)
    (hgroup : ∀ x n, (block? x).filter (fun b => b.name == n) =
      if x.group? = some (group n) then block? x else none) :
    (collect name (ds.filterMap block?)).Perm (collect name (es.filterMap block?)) := by
  refine perm_collect (h.perm.filterMap _) fun n => ?_
  have hfilter : ∀ definitions : List Definition,
      ((definitions.filterMap block?).filter fun b => b.name == n) =
        (definitions.filter fun x => x.group? = some (group n)).filterMap block? := by
    intro definitions
    rw [List.filter_filterMap, List.filterMap_filter]
    simp only [hgroup, decide_eq_true_eq]
  rw [hfilter, hfilter, h.groups]

theorem reordered_declared : Document.Reordered (.declared ds) (.declared es) where
  objects := perm_collect_filterMap h _ .object fun x n => by
    cases x <;> simp [Definition.objectBlock?, Definition.group?, Option.filter]
  inputs := perm_collect_filterMap h _ .input fun x n => by
    cases x <;> simp [Definition.inputBlock?, Definition.group?, Option.filter]
  enums := perm_collect_filterMap h _ .enum fun x n => by
    cases x <;> simp [Definition.enumBlock?, Definition.group?, Option.filter]
  scalars := perm_eraseDups (h.perm.filterMap _)
  queryType := by
    simp only [Document.declared]
    rw [← countedRoots_filter ds, h.groups, countedRoots_filter]
  mutationType := by
    simp only [Document.declared]
    rw [← countedRoots_filter ds, h.groups, countedRoots_filter]

end Groups

end Schema

/-! ### Models in another order -/

theorem enumNamed?_eq_some_iff {enums : List Enum} (hnodup : (enums.map Enum.name).Nodup)
    {name : String} {e : Enum} : enumNamed? enums name = some e ↔ e ∈ enums ∧ e.name = name := by
  have hkeys : ((enums.map fun e => (e.name, e)).map Prod.fst).Nodup := by
    rw [List.map_map]
    exact hnodup
  rw [enumNamed?, Table.ofPairs_eq_self hkeys, Table.get?_eq_some_iff hkeys]
  simp only [List.mem_map, Prod.mk.injEq]
  constructor
  · rintro ⟨e', he', hname, rfl⟩
    exact ⟨he', hname⟩
  · rintro ⟨he, hname⟩
    exact ⟨e, he, hname, rfl⟩

namespace Model

/-- The same client, with its classes and enums in another order. -/
structure Reordered (m m' : Model) : Prop where
  namespaceName : m.namespaceName = m'.namespaceName
  clientName : m.clientName = m'.clientName
  queryType : m.queryType = m'.queryType
  mutationType : m.mutationType = m'.mutationType
  scalarImports : m.scalarImports = m'.scalarImports
  types : m.types.Perm m'.types
  inputs : m.inputs.Perm m'.inputs
  enums : m.enums.Perm m'.enums

section Documents

variable {d e : Schema.Document} (h : d.Reordered e)

include h

theorem perm_typeNames : (typeNames d).Perm (typeNames e) :=
  ((h.objects.map _).append (h.inputs.map _)).append (h.enums.map _)

theorem perm_moduleNames (scalars : ScalarRegistry) :
    (moduleNames d scalars).Perm (moduleNames e scalars) :=
  (h.scalars.map _).append_left _

theorem extends_of_reordered (hnames : (d.enums.map Block.name).Nodup) (scalars : ScalarRegistry) :
    (context e scalars).Extends (context d scalars) where
  kindOf := by
    intro name
    have henums : name ∈ e.enums.map Block.name ↔ name ∈ d.enums.map Block.name :=
      (h.enums.map _).symm.mem_iff
    have hscalars : name ∈ e.scalars ↔ name ∈ d.scalars := h.scalars.symm.mem_iff
    simp only [context, Resolver.ofDocument, Resolver.kindOf, List.contains_iff_mem, henums,
      List.mem_append, hscalars]
  scalars := rfl
  reserved := by
    intro name
    have hperm : (context e scalars).reserved.Perm (context d scalars).reserved :=
      (((perm_moduleNames h scalars).append (perm_typeNames h)).append_right _).symm
    rw [Bool.eq_iff_iff, List.contains_iff_mem, List.contains_iff_mem, hperm.mem_iff]
  members := by
    intro enum wire member hmember
    have hd : ((d.enums.map buildEnum).map Enum.name).Nodup := by
      rw [List.map_map]
      exact hnames
    have hperm : (d.enums.map buildEnum).Perm (e.enums.map buildEnum) := h.enums.map _
    have he : ((e.enums.map buildEnum).map Enum.name).Nodup := (hperm.map _).nodup_iff.mp hd
    obtain ⟨found, hfound, hwire⟩ := Option.bind_eq_some_iff.mp hmember
    obtain ⟨hin, hname⟩ := (enumNamed?_eq_some_iff hd).mp hfound
    have hother := (enumNamed?_eq_some_iff he).mpr ⟨hperm.mem_iff.mp hin, hname⟩
    exact Option.bind_eq_some_iff.mpr ⟨found, hother, hwire⟩

theorem build_of_reordered (hnames : (d.enums.map Block.name).Nodup) {scalars : ScalarRegistry}
    {namespaceName : String} {clientName : Option String} {m : Model}
    (hm : (build d scalars namespaceName clientName).result = .ok m) :
    ∃ m', (build e scalars namespaceName clientName).result = .ok m' ∧ m.Reordered m' := by
  obtain ⟨hcheck, inputs, hinputs, rfl⟩ := result_build.mp hm
  have hextends := extends_of_reordered h hnames scalars
  have hcheck' : checkNames (moduleNames e scalars) (effectiveClientName clientName)
      (typeNames e) = .ok () := by
    rw [checkNames_eq_ok_iff] at hcheck ⊢
    simpa only [(perm_moduleNames h scalars).mem_iff, (perm_typeNames h).mem_iff] using hcheck
  -- the input types of the second document in its own order, and the same classes
  obtain ⟨inputs', hinputs', hperm⟩ := List.perm_comp_forall₂ h.inputs.symm hinputs
  have hbuilt := hinputs'.imp fun _ _ => hextends.buildInput
  refine ⟨_, result_build.mpr ⟨hcheck', inputs', hbuilt, rfl⟩, ?_⟩
  exact {
    namespaceName := rfl
    clientName := rfl
    queryType := h.queryType
    mutationType := h.mutationType
    scalarImports := Text.sortedSet_congr fun _ => (h.scalars.filterMap _).mem_iff
    types := by
      simp only [funext hextends.buildObject]
      exact h.objects.map _
    inputs := hperm.symm
    enums := h.enums.map _ }

end Documents

theorem ofDefinitions_of_reordered {ds es : List Definition} (h : Sdl.Reordered ds es)
    {scalars : ScalarRegistry} {namespaceName : String} {clientName : Option String} {m : Model}
    (hm : (ofDefinitions ds scalars namespaceName clientName).result = .ok m) :
    ∃ m', (ofDefinitions es scalars namespaceName clientName).result = .ok m' ∧
      m.Reordered m' := by
  obtain ⟨d, hd, hm⟩ := Traced.result_bind_eq_ok.mp hm
  have hdistinct := Schema.distinct_of_merge hd
  obtain ⟨hplace, ⟨x, hx, hschema⟩, rfl⟩ := Schema.result_merge_iff.mp hd
  have hes : (Schema.merge es).result = .ok (.declared es) :=
    Schema.result_merge_iff.mpr ⟨fun y hy => hplace y (h.perm.mem_iff.mpr hy),
      ⟨x, h.perm.mem_iff.mp hx, hschema⟩, rfl⟩
  obtain ⟨m', hm', hsame⟩ :=
    build_of_reordered (Schema.reordered_declared h) hdistinct.enums.names hm
  exact ⟨m', Traced.result_bind_eq_ok.mpr ⟨_, hes, hm'⟩, hsame⟩

end Model

/-- Moving definitions, without changing the order of the blocks of any type or of the parts of the
schema, changes neither whether a client can be built nor any of its classes and enums. -/
theorem ofDefinitions_reordered {ds es : List Definition} (h : Sdl.Reordered ds es)
    (scalars : ScalarRegistry) (namespaceName : String) (clientName : Option String) :
    ((∃ m, (Model.ofDefinitions ds scalars namespaceName clientName).result = .ok m) ↔
      ∃ m', (Model.ofDefinitions es scalars namespaceName clientName).result = .ok m') ∧
    ∀ m m', (Model.ofDefinitions ds scalars namespaceName clientName).result = .ok m →
      (Model.ofDefinitions es scalars namespaceName clientName).result = .ok m' →
      m.Reordered m' := by
  refine ⟨⟨?_, ?_⟩, ?_⟩
  · rintro ⟨m, hm⟩
    obtain ⟨m', hm', -⟩ := Model.ofDefinitions_of_reordered h hm
    exact ⟨m', hm'⟩
  · rintro ⟨m', hm'⟩
    obtain ⟨m, hm, -⟩ := Model.ofDefinitions_of_reordered h.symm hm'
    exact ⟨m, hm⟩
  · intro m m' hm hm'
    obtain ⟨built, hbuilt, hsame⟩ := Model.ofDefinitions_of_reordered h hm
    obtain rfl := Except.ok.inj (hbuilt.symm.trans hm')
    exact hsame

/-- Types with their roots, before or behind the input and the enum that they refer to. -/
def rootPart : List Definition := [
  .object ⟨"Query", none, [⟨"find", .named "Query", [⟨"by", .named "Filter", none, none⟩], none⟩]⟩ [],
  .object ⟨"Query", none, [⟨"Find", .named "Color", [], none⟩]⟩ [],
  .schema [⟨.query, "Query"⟩]]

def valuePart : List Definition := [
  .input ⟨"Filter", none, [⟨"color", .named "Color", some (.enum "red"), none⟩]⟩,
  .enum ⟨"Color", none, [⟨"red", none⟩]⟩]

theorem ofDefinitions_reordered_parts :
    ∃ m m', (Model.ofDefinitions (rootPart ++ valuePart) .standard "Demo" none).result = .ok m ∧
      (Model.ofDefinitions (valuePart ++ rootPart) .standard "Demo" none).result = .ok m' ∧
      m.classes.map (fun c => c.fields.map fun f => (f.name, f.default)) =
        [[("find", none), ("find_2", none)], [("color", some "Color.RED")]] ∧
      m.Reordered m' := by
  have hreordered : Sdl.Reordered (rootPart ++ valuePart) (valuePart ++ rootPart) := by
    refine ⟨List.perm_append_comm, fun g => ?_⟩
    cases g <;> simp [rootPart, valuePart, Definition.group?, List.filter_cons]
  have hrun : ((Model.ofDefinitions (rootPart ++ valuePart) .standard "Demo" none).result.toOption.map
      fun m => m.classes.map fun c => c.fields.map fun f => (f.name, f.default)) =
        some [[("find", none), ("find_2", none)], [("color", some "Color.RED")]] := by
    decide +kernel
  obtain ⟨m, hm, hfields⟩ := Option.map_eq_some_iff.mp hrun
  have hm := toOption_eq_some_iff.mp hm
  obtain ⟨hiff, hsame⟩ := ofDefinitions_reordered hreordered .standard "Demo" none
  obtain ⟨m', hm'⟩ := hiff.mp ⟨m, hm⟩
  exact ⟨m, m', hm, hm', hfields, hsame m m' hm hm'⟩

end SchemaClient
