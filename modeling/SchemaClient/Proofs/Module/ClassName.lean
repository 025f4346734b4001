import SchemaClient.Module.Layout
import SchemaClient.Proofs.Model.Context
import SchemaClient.Proofs.Schema.Declared

/-! Names of classes: those of one kind differ from each other and from the client, and all of them
differ just if no two kinds of definitions share a name. -/
namespace SchemaClient

open Sdl

/-- The names that the class statements of a module bind, in their order. -/
def Module.classNames (m : Module) : List String :=
  m.clientName :: (m.classes.map ClassDeclaration.name ++ m.enums.map Enum.name)

/-! ### Kinds of types -/

inductive Sdl.TypeKind where
  | object | input | enum
deriving DecidableEq, Repr

/-- The kinds in the order in which a module has them. -/
def Sdl.TypeKind.all : List TypeKind := [.object, .input, .enum]

theorem Sdl.TypeKind.mem_all (kind : TypeKind) : kind ∈ all := by
  cases kind <;> decide

/-- The type that a definition adds to. -/
def Sdl.Definition.type? : Definition → Option (TypeKind × String)
  | .object block _ => some (.object, block.name)
  | .input block => some (.input, block.name)
  | .enum block => some (.enum, block.name)
  | _ => none

namespace Schema

def Document.namesOf (d : Document) : TypeKind → List String
  | .object => d.objects.map Block.name
  | .input => d.inputs.map Block.name
  | .enum => d.enums.map Block.name

theorem mem_collect_names {μ : Type} {name : μ → String} {block? : Definition → Option (Block μ)}
    {definitions : List Definition} {n : String} :
    n ∈ (collect name (definitions.filterMap block?)).map Block.name ↔
      ∃ x ∈ definitions, ∃ b, block? x = some b ∧ b.name = n := by
  rw [collect_names, List.mem_eraseDups]
  simp only [List.mem_map, List.mem_filterMap]
  constructor
  · rintro ⟨b, ⟨x, hx, hb⟩, hname⟩
    exact ⟨x, hx, b, hb, hname⟩
  · rintro ⟨x, hx, b, hb, hname⟩
    exact ⟨b, ⟨x, hx, hb⟩, hname⟩

theorem Document.mem_namesOf_declared {definitions : List Definition} {kind : TypeKind}
    {n : String} :
    n ∈ (Document.declared definitions).namesOf kind ↔ ∃ x ∈ definitions, x.type? = some (kind, n) := by
  cases kind with
  | object =>
    refine mem_collect_names.trans (exists_congr fun x => and_congr_right fun _ => ?_)
    cases x <;> simp [Definition.objectBlock?, Definition.type?]
  | input =>
    refine mem_collect_names.trans (exists_congr fun x => and_congr_right fun _ => ?_)
    cases x <;> simp [Definition.inputBlock?, Definition.type?]
  | enum =>
    refine mem_collect_names.trans (exists_congr fun x => and_congr_right fun _ => ?_)
    cases x <;> simp [Definition.enumBlock?, Definition.type?]

theorem Document.Distinct.namesOf_nodup {d : Document} (h : d.Distinct) (kind : TypeKind) :
    (d.namesOf kind).Nodup := by
  cases kind with
  | object => exact h.objects.names
  | input => exact h.inputs.names
  | enum => exact h.enums.names

theorem Document.typeNames_eq_flatMap (d : Document) :
    Model.typeNames d = TypeKind.all.flatMap d.namesOf := by
  simp [Model.typeNames, TypeKind.all, namesOf]

/-- Names that differ within each kind differ throughout just if no two kinds share one. -/
theorem Document.Distinct.typeNames_nodup_iff {d : Document} (h : d.Distinct) :
    (Model.typeNames d).Nodup ↔
      ∀ kind other n, n ∈ d.namesOf kind → n ∈ d.namesOf other → kind = other := by
  rw [typeNames_eq_flatMap, List.nodup_flatMap]
  constructor
  · rintro ⟨-, hpairs⟩ kind other n hkind hother
    have hsymm : Std.Symm (Function.onFun List.Disjoint d.namesOf) := ⟨fun _ _ h => h.symm⟩
    by_contra hne
    exact hpairs.forall kind.mem_all other.mem_all hne hkind hother
  · intro hshared
    refine ⟨fun kind _ => h.namesOf_nodup kind, ?_⟩
    refine List.Nodup.pairwise_of_forall_ne (by decide) fun kind _ other _ hne n hkind hother => ?_
    exact hne (hshared kind other n hkind hother)

end Schema

/-! ### Classes of a built model -/

theorem Model.names_of_buildInputs {c : Context} {blocks : List (Block InputValue)}
    {classes : List Class}
    (h : List.Forall₂ (fun b built => (buildInput c b).result = .ok built) blocks classes) :
    classes.map Class.name = blocks.map Block.name := by
  induction h with
  | nil => rfl
  | cons hbuilt _ ih =>
    obtain ⟨fields, -, rfl⟩ := result_buildInput.mp hbuilt
    rw [List.map_cons, List.map_cons, ih]

section Built

variable {d : Schema.Document} {scalars : ScalarRegistry} {namespaceName : String}
  {clientName : Option String} {m : Model}
  (hm : (Model.build d scalars namespaceName clientName).result = .ok m)

include hm

theorem Model.typeNames_of_build :
    m.types.map Class.name = d.namesOf .object ∧ m.inputs.map Class.name = d.namesOf .input ∧
      m.enums.map Enum.name = d.namesOf .enum := by
  refine ⟨?_, ?_, ?_⟩
  · rw [types_of_build hm, List.map_map]
    rfl
  · exact names_of_buildInputs (inputs_of_build hm)
  · rw [enums_of_build hm, List.map_map]
    rfl

theorem Module.classNames_of_build :
    (Module.ofModel scalars m).classNames = m.clientName :: Model.typeNames d := by
  obtain ⟨htypes, hinputs, henums⟩ := Model.typeNames_of_build hm
  have hdeclared : (Module.ofModel scalars m).classes.map ClassDeclaration.name =
      m.types.map Class.name ++ m.inputs.map Class.name := by
    rw [Module.classes_ofModel, List.map_map, Model.classes, List.map_append]
    rfl
  show m.clientName :: (_ ++ m.enums.map Enum.name) = _
  rw [hdeclared, htypes, hinputs, henums]
  rfl

/-- No class is called like the client or like something that the module has for itself. -/
theorem Model.names_free_of_build :
    m.clientName ∉ moduleNames d scalars ∧
      ∀ name ∈ typeNames d, name ∉ moduleNames d scalars ∧ name ≠ m.clientName := by
  obtain ⟨hcheck, _, -, rfl⟩ := result_build.mp hm
  exact checkNames_eq_ok_iff.mp hcheck

end Built

/-- The classes of one kind have different names, none of them that of the client. All classes of
the module have different names just if no two kinds of definitions in the text share one: whether
they do is not looked at when the model is built. -/
theorem classNames_nodup_iff {sdl : String} {definitions : List Definition} {d : Schema.Document}
    {scalars : ScalarRegistry} {namespaceName : String} {clientName : Option String} {m : Model}
    (hread : readDocument sdl = .ok definitions) (hd : (Schema.read sdl).result = .ok d)
    (hm : (Model.build d scalars namespaceName clientName).result = .ok m) :
    (m.types.map Class.name).Nodup ∧ (m.inputs.map Class.name).Nodup ∧
    (m.enums.map Enum.name).Nodup ∧
    m.clientName ∉ m.types.map Class.name ++ m.inputs.map Class.name ++ m.enums.map Enum.name ∧
    ((Module.ofModel scalars m).classNames.Nodup ↔
      ∀ x ∈ definitions, ∀ y ∈ definitions, ∀ kind other n, x.type? = some (kind, n) →
        y.type? = some (other, n) → kind = other) := by
  have hdistinct := Schema.distinct_of_read hd
  obtain ⟨htypes, hinputs, henums⟩ := Model.typeNames_of_build hm
  have hclient : m.clientName ∉ Model.typeNames d :=
    fun hmem => ((Model.names_free_of_build hm).2 _ hmem).2 rfl
  obtain ⟨_, hother, hmerge⟩ := Schema.result_read hd
  cases hread.symm.trans hother
  obtain ⟨-, -, rfl⟩ := Schema.result_merge_iff.mp hmerge
  rw [Module.classNames_of_build hm, htypes, hinputs, henums, List.nodup_cons,
    and_iff_right hclient, hdistinct.typeNames_nodup_iff]
  refine ⟨hdistinct.namesOf_nodup .object, hdistinct.namesOf_nodup .input,
    hdistinct.namesOf_nodup .enum, hclient, ?_⟩
  simp only [Schema.Document.mem_namesOf_declared]
  constructor
  · intro h x hx y hy kind other n hkind hother
    exact h kind other n ⟨x, hx, hkind⟩ ⟨y, hy, hother⟩
  · rintro h kind other n ⟨x, hx, hkind⟩ ⟨y, hy, hother⟩
    exact h x hx y hy kind other n hkind hother

/-- An object in two blocks, with an input and an enum between them. -/
def partedObject : String :=
  "schema\x7bquery:Q\x7d type Q\x7ba:Int\x7d input I\x7ba:Int\x7d enum E\x7bA\x7d" ++
    "extend type Q\x7bb:Int\x7d"

theorem classNames_nodup_iff_partedObject :
    ∃ definitions d m, readDocument partedObject = .ok definitions ∧
      (Schema.read partedObject).result = .ok d ∧
      (Model.build d .standard "Demo" none).result = .ok m ∧
      (Module.ofModel .standard m).classNames = ["GraphQLClient", "Q", "I", "E"] ∧
      ∀ x ∈ definitions, ∀ y ∈ definitions, ∀ kind other n, x.type? = some (kind, n) →
        y.type? = some (other, n) → kind = other := by
  obtain ⟨d, m, hd, hm, hnames⟩ := Traced.exists_of_view (x := Schema.read partedObject)
    (f := fun d => Model.build d .standard "Demo" none)
    (g := fun _ m => (Module.ofModel .standard m).classNames)
    (v := ["GraphQLClient", "Q", "I", "E"]) (by decide +kernel)
  obtain ⟨definitions, hread, -⟩ := Schema.result_read hd
  obtain ⟨-, -, -, -, hiff⟩ := classNames_nodup_iff hread hd hm
  refine ⟨definitions, d, m, hread, hd, hm, hnames, hiff.mp ?_⟩
  rw [hnames]
  decide

/-- An object and an input of one name. -/
def twoKinds : String :=
  "schema \x7b query: Query \x7d type Query \x7b a: Int \x7d type Foo \x7b x: Int \x7d " ++
    "input Foo \x7b y: Int \x7d"

theorem classNames_repeated_twoKinds :
    ∃ d m, (Schema.read twoKinds).result = .ok d ∧
      (Model.build d .standard "Demo" none).result = .ok m ∧
      ¬(Module.ofModel .standard m).classNames.Nodup := by
  obtain ⟨d, m, hd, hm, hnames⟩ := Traced.exists_of_view (x := Schema.read twoKinds)
    (f := fun d => Model.build d .standard "Demo" none)
    (g := fun _ m => (Module.ofModel .standard m).classNames)
    (v := ["GraphQLClient", "Query", "Foo", "Foo"]) (by decide +kernel)
  refine ⟨d, m, hd, hm, ?_⟩
  rw [hnames]
  decide

end SchemaClient
