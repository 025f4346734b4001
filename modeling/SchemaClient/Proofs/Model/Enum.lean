import Mathlib
import SchemaClient.Model.Member
import SchemaClient.Proofs.Model.Build
import SchemaClient.Proofs.Name.Member
import SchemaClient.Proofs.Schema.Valid

/-! Enums of a model: their entries are told apart by either name, and each of them is a member of
the enum's class. -/
namespace SchemaClient

open Sdl

/-! ### Entries -/

namespace Model

variable (taken : List String) (values : List EnumValue)

theorem buildEntries_wireNames :
    (buildEntries taken values).map EnumEntry.wireName = values.map EnumValue.name := by
  induction values generalizing taken with
  | nil => rfl
  | cons v rest ih =>
    rw [buildEntries, List.map_cons, List.map_cons, ih]

theorem buildEntries_memberNames :
    ((buildEntries taken values).map EnumEntry.memberName).Nodup ∧
      ∀ n ∈ (buildEntries taken values).map EnumEntry.memberName, n ∉ taken := by
  induction values generalizing taken with
  | nil => simp [buildEntries]
  | cons v rest ih =>
    obtain ⟨hnodup, hfree⟩ := ih (Name.unique taken (Name.enumMemberName v.name) :: taken)
    have hnew := Name.unique_not_mem taken (Name.enumMemberName v.name)
    rw [buildEntries, List.map_cons]
    refine ⟨List.nodup_cons.mpr ⟨fun hmem => ?_, hnodup⟩, fun n hn => ?_⟩
    · exact hfree _ hmem List.mem_cons_self
    · rcases List.mem_cons.mp hn with rfl | hn
      · exact hnew
      · exact fun hmem => hfree n hn (List.mem_cons_of_mem _ hmem)

/-- Every member is named after its value. -/
theorem mem_buildEntries {v : EnumEntry} (h : v ∈ buildEntries taken values) :
    ∃ value ∈ values, ∃ before, v.wireName = value.name ∧
      v.memberName = Name.unique before (Name.enumMemberName value.name) := by
  induction values generalizing taken with
  | nil => cases h
  | cons value rest ih =>
    rw [buildEntries] at h
    rcases List.mem_cons.mp h with rfl | h
    · exact ⟨value, List.mem_cons_self, taken, rfl, rfl⟩
    · obtain ⟨value, hmem, hnames⟩ := ih _ h
      exact ⟨value, List.mem_cons_of_mem _ hmem, hnames⟩

end Model

namespace Enum

/-- Names that are no attributes of a class: they start with neither an underscore nor a lowercase
letter. -/
def IsMemberName (name : String) : Prop :=
  ∃ c, name.toList.head? = some c ∧ c ≠ '_' ∧ c.isLower = false

/-- What holds of all enums that are built. -/
structure Regular (e : Enum) : Prop where
  name : isName e.name.toList
  wireNames : (e.entries.map EnumEntry.wireName).Nodup
  memberNames : (e.entries.map EnumEntry.memberName).Nodup
  named : ∀ v ∈ e.entries, IsMemberName v.memberName

theorem regular_buildEnum {b : Block EnumValue} (hvalid : b.Valid EnumValue.Valid)
    (hnames : (b.members.map EnumValue.name).Nodup) : (Model.buildEnum b).Regular where
  name := hvalid.name
  wireNames := by
    rw [Model.buildEnum, Model.buildEntries_wireNames]
    exact hnames
  memberNames := (Model.buildEntries_memberNames [] b.members).1
  named := by
    intro v hv
    obtain ⟨value, hvalue, before, -, hname⟩ := Model.mem_buildEntries [] b.members hv
    obtain ⟨c, hhead, hunderscore, hlower⟩ := Name.head?_enumMemberName (hvalid.members value hvalue)
    rw [hname]
    exact ⟨c, Name.head?_fresh _ hhead hunderscore, hunderscore, hlower⟩

theorem regular_of_build {sdl : String} {d : Schema.Document} {scalars : ScalarRegistry}
    {namespaceName : String} {clientName : Option String} {m : Model}
    (hread : (Schema.read sdl).result = .ok d)
    (hbuild : (Model.build d scalars namespaceName clientName).result = .ok m) :
    ∀ e ∈ m.enums, e.Regular := by
  intro e he
  rw [Model.enums_of_build hbuild] at he
  obtain ⟨b, hb, rfl⟩ := List.mem_map.mp he
  exact regular_buildEnum ((Schema.valid_of_read hread).enums b hb)
    ((Schema.distinct_of_read hread).enums.members b hb)

/-! ### The class of an enum -/

theorem IsMemberName.not_isFramed {name : String} (h : IsMemberName name) {n : Nat} (hn : 0 < n) :
    isFramed n name = false := by
  obtain ⟨c, hhead, hc, -⟩ := h
  obtain ⟨rest, hname⟩ := List.head?_eq_some_iff.mp hhead
  have hleading : (name.toList.takeWhile (· == '_')).length = 0 := by simp [hname, hc]
  have hne : ((name.toList.takeWhile (· == '_')).length == n) = false := by
    rw [hleading]
    simpa using Nat.ne_of_lt hn
  simp [isFramed, hne]

theorem IsMemberName.not_isPrivateTo {name : String} (h : IsMemberName name) (className : String) :
    isPrivateTo className name = false := by
  obtain ⟨c, hhead, hc, -⟩ := h
  obtain ⟨rest, hname⟩ := List.head?_eq_some_iff.mp hhead
  have hstart : Text.startsWith ("_" ++ className ++ "__").toList name.toList = false := by
    rw [String.toList_append, String.toList_append, hname]
    simp [Text.startsWith, Ne.symm hc]
  simp only [isPrivateTo, hstart, Bool.and_false, Bool.false_and]

theorem IsMemberName.ne {name : String} (h : IsMemberName name) (other : String)
    (hother : other.toList.head?.all fun c => c == '_' || c.isLower) : name ≠ other := by
  rintro rfl
  obtain ⟨c, hhead, hc, hlower⟩ := h
  simp [hhead, hc, hlower] at hother

theorem add_member (e : Enum) {members : List EnumEntry} {v : EnumEntry}
    (hname : IsMemberName v.memberName)
    (hnew : v.memberName ∉ members.map EnumEntry.memberName) :
    EnumClass.add { enum := e, members := members } v =
      .ok { enum := e, members := members ++ [v] } := by
  have hmember : EnumClass.hasMember { enum := e, members := members } v.memberName = false := by
    simpa [EnumClass.hasMember] using hnew
  have horder : (v.memberName == "__order__") = false := by
    simpa using hname.ne "__order__" (by decide)
  simp [EnumClass.add, hname.not_isPrivateTo, hname.not_isFramed, horder, hmember]

theorem foldlM_add (e : Enum) (members rest : List EnumEntry)
    (hnamed : ∀ v ∈ rest, IsMemberName v.memberName)
    (hnodup : ((members ++ rest).map EnumEntry.memberName).Nodup) :
    rest.foldlM EnumClass.add { enum := e, members := members } =
      .ok { enum := e, members := members ++ rest } := by
  induction rest generalizing members with
  | nil => simp [pure, Except.pure]
  | cons v rest ih =>
    obtain ⟨hv, hrest⟩ := List.forall_mem_cons.mp hnamed
    have hnew : v.memberName ∉ members.map EnumEntry.memberName := by
      rw [List.map_append, List.map_cons] at hnodup
      exact fun hmem => (List.nodup_append.mp hnodup).2.2 _ hmem _ List.mem_cons_self rfl
    rw [List.foldlM_cons, add_member e hv hnew]
    have happend : members ++ v :: rest = members ++ [v] ++ rest := by simp
    rw [happend] at hnodup ⊢
    exact ih (members ++ [v]) hrest hnodup

/-- The class has all entries of the enum as its members, and nothing else. -/
theorem Regular.makeClass {e : Enum} (h : e.Regular) :
    e.makeClass = .ok { enum := e, members := e.entries } := by
  have hmember : ∀ other : String, (other.toList.head?.all fun c => c == '_' || c.isLower) →
      EnumClass.hasMember { enum := e, members := e.entries } other = false := by
    intro other hother
    rw [EnumClass.hasMember, List.any_eq_false]
    intro v hv
    simpa using (h.named v hv).ne other hother
  have hnul : (e.name.toList.any fun c => c.toNat == 0) = false := by
    rw [List.any_eq_false]
    intro c hc hzero
    have hpart := Name.isWord_of_isName h.name c hc
    rw [beq_iff_eq] at hzero
    rw [← Char.ofNat_toNat c, hzero] at hpart
    exact absurd hpart (by decide)
  have hfold := foldlM_add e [] e.entries h.named h.memberNames
  rw [List.nil_append] at hfold
  unfold Enum.makeClass
  rw [hfold]
  simp [bind, Except.bind, pure, Except.pure, hmember "mro" (by decide), hmember "" (by decide), hnul,
    EnumClass.canMakeMembers, EnumClass.replaces, EnumClass.followsOrder]

end Enum

end SchemaClient
