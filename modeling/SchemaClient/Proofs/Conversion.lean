import Mathlib
import SchemaClient.Client
import SchemaClient.Proofs.Model.Enum
import SchemaClient.Proofs.Table

/-! Conversion of enum values: the two tables of an enum are inverse to each other, and a registry
converts by the tables that were registered last. -/
namespace SchemaClient

/-! ### The tables of an enum -/

namespace Enum

variable {e : Enum}

theorem Regular.wireToMember (h : e.Regular) :
    e.wireToMember = e.entries.map fun v => (v.wireName, v.memberName) := by
  refine Table.ofPairs_eq_self ?_
  rw [List.map_map]
  exact h.wireNames

theorem Regular.memberToWire (h : e.Regular) :
    e.memberToWire = e.entries.map fun v => (v.memberName, v.wireName) := by
  refine Table.ofPairs_eq_self ?_
  rw [List.map_map]
  exact h.memberNames

theorem Regular.wireToMember_eq_some (h : e.Regular) {wire member : String} :
    e.wireToMember.get? wire = some member ↔
      ∃ v ∈ e.entries, v.wireName = wire ∧ v.memberName = member := by
  rw [h.wireToMember, Table.get?_eq_some_iff (by rw [List.map_map]; exact h.wireNames)]
  simp

theorem Regular.memberToWire_eq_some (h : e.Regular) {wire member : String} :
    e.memberToWire.get? member = some wire ↔
      ∃ v ∈ e.entries, v.wireName = wire ∧ v.memberName = member := by
  rw [h.memberToWire, Table.get?_eq_some_iff (by rw [List.map_map]; exact h.memberNames)]
  simp [and_comm]

theorem Regular.findMember (h : e.Regular) {v : EnumEntry} (hv : v ∈ e.entries) :
    EnumClass.findMember { enum := e, members := e.entries } v.memberName = .ok v.memberName := by
  have hmember : EnumClass.hasMember { enum := e, members := e.entries } v.memberName := by
    rw [EnumClass.hasMember, List.any_eq_true]
    exact ⟨v, hv, by simp⟩
  rw [EnumClass.findMember, if_pos hmember, EnumClass.canonicalMember]
  -- no other entry has this member name, and none of the others has its wire name
  split
  · rfl
  · rename_i w hfind
    have hw : w = v := by
      have hname : w.memberName = v.memberName := by simpa using List.find?_some hfind
      exact List.inj_on_of_nodup_map h.memberNames (List.mem_of_find?_eq_some hfind) hv hname
    subst hw
    cases hwire : e.entries.find? fun u => u.wireName == w.wireName with
    | none => rfl
    | some u =>
      have hname : u.wireName = w.wireName := by simpa using List.find?_some hwire
      have hu := List.inj_on_of_nodup_map h.wireNames (List.mem_of_find?_eq_some hwire) hv hname
      rw [hu]
      rfl

theorem mapM_eq_self {ε α : Type} {f : α → Except ε α} {as : List α} (h : ∀ a ∈ as, f a = .ok a) :
    as.mapM f = .ok as := by
  induction as with
  | nil => rfl
  | cons a rest ih =>
    obtain ⟨ha, hrest⟩ := List.forall_mem_cons.mp h
    rw [List.mapM_cons, ha, ih hrest]
    rfl

/-- A class is converted by the tables of its enum. -/
theorem Regular.ofClass (h : e.Regular) :
    Converter.ofClass { enum := e, members := e.entries } =
      .ok { wireToMember := e.wireToMember, memberToWire := e.memberToWire } := by
  have hwires : e.wireToMember.mapM (fun p => do
      return (p.1, ← EnumClass.findMember { enum := e, members := e.entries } p.2)) =
        Except.ok e.wireToMember := by
    refine mapM_eq_self fun p hp => ?_
    rw [h.wireToMember] at hp
    obtain ⟨v, hv, rfl⟩ := List.mem_map.mp hp
    simp only [h.findMember hv]
    rfl
  have hmembers : e.memberToWire.mapM (fun p => do
      return (← EnumClass.keyOf { enum := e, members := e.entries }
        (← EnumClass.findMember { enum := e, members := e.entries } p.1), p.2)) =
        Except.ok e.memberToWire := by
    refine mapM_eq_self fun p hp => ?_
    rw [h.memberToWire] at hp
    obtain ⟨v, hv, rfl⟩ := List.mem_map.mp hp
    simp only [h.findMember hv]
    rfl
  have hwireKeys : (e.wireToMember.map Prod.fst).Nodup := by
    rw [h.wireToMember, List.map_map]
    exact h.wireNames
  have hmemberKeys : (e.memberToWire.map Prod.fst).Nodup := by
    rw [h.memberToWire, List.map_map]
    exact h.memberNames
  unfold Converter.ofClass Converter.ofTables
  rw [hwires, hmembers]
  simp only [bind, Except.bind, pure, Except.pure]
  rw [Table.ofPairs_eq_self hwireKeys, Table.ofPairs_eq_self hmemberKeys]

end Enum

/-! ### Registries -/

namespace ConverterRegistry

variable {κ : Type} [DecidableEq κ]

/-- The registry after a history of registrations. -/
def registerAll (r : ConverterRegistry κ) (history : List (κ × Converter)) :
    ConverterRegistry κ :=
  history.foldl (fun r p => r.register p.1 p.2) r

/-- The last registration of a class counts, or else what was there before. -/
theorem get?_registerAll (r : ConverterRegistry κ) (history : List (κ × Converter))
    (identity : κ) :
    (r.registerAll history).get? identity =
      (history.reverse.lookup identity).or (r.get? identity) :=
  Table.get?_foldl_put history r identity

theorem find_registerAll {history : List (κ × Converter)} {t : EnumType κ} {c : Converter}
    (h : history.reverse.lookup t.identity = some c) (r : ConverterRegistry κ) :
    (r.registerAll history).find t = .ok c := by
  rw [find, get?_registerAll, h]
  rfl

end ConverterRegistry

namespace Enum

open ConverterRegistry

variable {κ : Type} [DecidableEq κ] {e : Enum} {r : ConverterRegistry κ} {identity : κ}

/-- The class of an enum whose entries are all its members. -/
def typeOf (e : Enum) (identity : κ) : EnumType κ :=
  { enum := e, members := e.entries, identity }

theorem Regular.fromWire (h : e.Regular)
    (hfind : r.find (e.typeOf identity) = .ok ⟨e.wireToMember, e.memberToWire⟩) {v : EnumEntry}
    (hv : v ∈ e.entries) : r.fromWire (e.typeOf identity) v.wireName = .ok v.memberName := by
  have hget := h.wireToMember_eq_some.mpr ⟨v, hv, rfl, rfl⟩
  unfold ConverterRegistry.fromWire
  simp only [hfind, bind, Except.bind, hget]
  rfl

theorem Regular.fromWire_unknown (h : e.Regular)
    (hfind : r.find (e.typeOf identity) = .ok ⟨e.wireToMember, e.memberToWire⟩) {wire : String}
    (hwire : wire ∉ e.entries.map EnumEntry.wireName) :
    r.fromWire (e.typeOf identity) wire = .error (.unknownValue (Text.echo wire) e.name) := by
  have hget : e.wireToMember.get? wire = none := by
    rw [Table.get?_eq_none_iff, h.wireToMember, List.map_map]
    exact hwire
  unfold ConverterRegistry.fromWire
  simp only [hfind, bind, Except.bind, hget]
  rfl

theorem Regular.toWire (h : e.Regular)
    (hfind : r.find (e.typeOf identity) = .ok ⟨e.wireToMember, e.memberToWire⟩) {v : EnumEntry}
    (hv : v ∈ e.entries) : r.toWire (e.typeOf identity) v.memberName = .ok v.wireName := by
  have hget := h.memberToWire_eq_some.mpr ⟨v, hv, rfl, rfl⟩
  have hmember : (e.typeOf identity).findMember v.memberName = .ok v.memberName := h.findMember hv
  have hkey : (e.typeOf identity).keyOf v.memberName = .ok v.memberName := rfl
  unfold ConverterRegistry.toWire
  simp only [hmember, hfind, hkey, bind, Except.bind, hget]
  rfl

end Enum

/-- The tables of every enum of a model are inverse to each other. Once the class of the enum was last
registered with them, whatever was registered before or between, also for other classes of its name,
values go to the wire and back without a change, and no other text is taken for a value. -/
theorem enum_conversion_inverse {sdl : String} {d : Schema.Document} {scalars : ScalarRegistry}
    {namespaceName : String} {clientName : Option String} {m : Model}
    (hread : (Schema.read sdl).result = .ok d)
    (hbuild : (Model.build d scalars namespaceName clientName).result = .ok m) {e : Enum}
    (he : e ∈ m.enums) :
    let wires := e.entries.map EnumEntry.wireName
    let members := e.entries.map EnumEntry.memberName
    (∀ wire, (e.wireToMember.get? wire).isSome ↔ wire ∈ wires) ∧
      (∀ member, (e.memberToWire.get? member).isSome ↔ member ∈ members) ∧
      (∀ wire member,
        e.wireToMember.get? wire = some member ↔ e.memberToWire.get? member = some wire) ∧
      ∃ c own, e.makeClass = .ok c ∧ Converter.ofClass c = .ok own ∧
        own = ⟨e.wireToMember, e.memberToWire⟩ ∧
        ∀ (κ : Type) [DecidableEq κ] (t : EnumType κ) (r : ConverterRegistry κ)
          (history : List (κ × Converter)), t.toEnumClass = c →
          history.reverse.lookup t.identity = some own →
          (∀ wire ∈ wires, ∃ member, (r.registerAll history).fromWire t wire = .ok member ∧
            (r.registerAll history).toWire t member = .ok wire) ∧
          (∀ member ∈ members, ∃ wire, (r.registerAll history).toWire t member = .ok wire ∧
            (r.registerAll history).fromWire t wire = .ok member) ∧
          ∀ wire ∉ wires, (r.registerAll history).fromWire t wire =
            .error (.unknownValue (Text.echo wire) e.name) := by
  intro wires members
  have h := Enum.regular_of_build hread hbuild e he
  refine ⟨fun wire => ?_, fun member => ?_, fun wire member => ?_,
    _, _, h.makeClass, h.ofClass, rfl, ?_⟩
  · rw [← Option.ne_none_iff_isSome, Ne, Table.get?_eq_none_iff, not_not, h.wireToMember,
      List.map_map]
    rfl
  · rw [← Option.ne_none_iff_isSome, Ne, Table.get?_eq_none_iff, not_not, h.memberToWire,
      List.map_map]
    rfl
  · rw [h.wireToMember_eq_some, h.memberToWire_eq_some]
  · rintro κ _ ⟨_, identity⟩ r history rfl hlast
    have hfind := ConverterRegistry.find_registerAll (t := e.typeOf identity) hlast r
    refine ⟨fun wire hwire => ?_, fun member hmember => ?_, fun wire hwire => ?_⟩
    · obtain ⟨v, hv, rfl⟩ := List.mem_map.mp hwire
      exact ⟨v.memberName, h.fromWire hfind hv, h.toWire hfind hv⟩
    · obtain ⟨v, hv, rfl⟩ := List.mem_map.mp hmember
      exact ⟨v.wireName, h.toWire hfind hv, h.fromWire hfind hv⟩
    · exact h.fromWire_unknown hfind hwire

/-- Names that fall together, in blocks apart. -/
def collidingEnum : String :=
  "schema \x7b query: Query \x7d type Query \x7b state: State \x7d " ++
  "enum State \x7b active ACTIVE ACTIVE_2 _hidden \x7d " ++
  "extend enum State \x7b Active hidden_ active \x7d"

theorem enum_conversion_inverse_collisions :
    ∃ d m e, (Schema.read collidingEnum).result = .ok d ∧
      (Model.build d .standard "Demo" none).result = .ok m ∧ e ∈ m.enums ∧
      e.wireToMember = [("active", "ACTIVE"), ("ACTIVE", "ACTIVE_2"), ("ACTIVE_2", "ACTIVE_2_2"),
        ("_hidden", "HIDDEN_"), ("Active", "ACTIVE_3"), ("hidden_", "HIDDEN_2")] ∧
      ∃ c own, e.makeClass = .ok c ∧ Converter.ofClass c = .ok own ∧ ∀ r : ConverterRegistry Nat,
        -- the class is registered twice, and then another class of the same name
        let history := [(0, ⟨[], []⟩), (0, own), (1, ⟨[], []⟩)]
        let t : EnumType Nat := { c with identity := 0 }
        (∃ member, (r.registerAll history).fromWire t "Active" = .ok member ∧
          (r.registerAll history).toWire t member = .ok "Active") ∧
        (r.registerAll history).fromWire t "HIDDEN_" =
          .error (.unknownValue (Text.echo "HIDDEN_") e.name) := by
  have hrun : ((Schema.read collidingEnum).result.toOption.bind fun d =>
      (Model.build d .standard "Demo" none).result.toOption.bind fun m =>
        m.enums.head?.map fun e => (e.name, e.wireToMember, e.entries.map EnumEntry.wireName)) =
      some ("State", [("active", "ACTIVE"), ("ACTIVE", "ACTIVE_2"), ("ACTIVE_2", "ACTIVE_2_2"),
        ("_hidden", "HIDDEN_"), ("Active", "ACTIVE_3"), ("hidden_", "HIDDEN_2")],
        ["active", "ACTIVE", "ACTIVE_2", "_hidden", "Active", "hidden_"]) := by
    decide +kernel
  obtain ⟨d, hd, hrun⟩ := Option.bind_eq_some_iff.mp hrun
  obtain ⟨m, hm, hrun⟩ := Option.bind_eq_some_iff.mp hrun
  obtain ⟨e, he, hnames⟩ := Option.map_eq_some_iff.mp hrun
  obtain ⟨-, htable, hwires⟩ := by simpa only [Prod.mk.injEq] using hnames
  have hd := toOption_eq_some_iff.mp hd
  have hm := toOption_eq_some_iff.mp hm
  have he := List.mem_of_head? he
  obtain ⟨-, -, -, c, own, hc, hown, -, hconvert⟩ := enum_conversion_inverse hd hm he
  refine ⟨d, m, e, hd, hm, he, htable, c, own, hc, hown, fun r => ?_⟩
  obtain ⟨hfrom, -, hunknown⟩ := hconvert Nat { c with identity := 0 } r
    [(0, ⟨[], []⟩), (0, own), (1, ⟨[], []⟩)] rfl rfl
  rw [hwires] at hfrom hunknown
  exact ⟨hfrom "Active" (by decide), hunknown "HIDDEN_" (by decide)⟩

end SchemaClient
