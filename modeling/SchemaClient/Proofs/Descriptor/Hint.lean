import SchemaClient.Descriptor
import SchemaClient.Proofs.Descriptor.Reference
import SchemaClient.Proofs.Name.Member

/-! Type hints: what an accessor returns is the hint of its type with the object renamed, and the
hint of a class under list levels says all about the type. -/
namespace SchemaClient

open Sdl (isName isNamePart)

/-! ### Results of selectors -/

namespace Descriptor

variable (scalars : ScalarRegistry)

/-- The type with another name for the object under all list levels. -/
def renamed (result : String) : Descriptor → Descriptor
  | leaf .object _ n => leaf .object result n
  | leaf kind name n => leaf kind name n
  | list element n => list (element.renamed result) n

theorem selectedHint_of_requiresSelector (result : String) {d : Descriptor}
    (h : d.requiresSelector) : d.selectedHint scalars result = (d.renamed result).hint scalars := by
  induction d with
  | leaf kind name nullable =>
    cases kind with
    | object => rfl
    | _ => cases h
  | list element nullable ih => rw [selectedHint, ih h, renamed, hint]

theorem selectedHint_of_not_requiresSelector (result : String) {d : Descriptor}
    (h : d.requiresSelector = false) : d.selectedHint scalars result = d.hint scalars := by
  induction d with
  | leaf kind name nullable =>
    cases kind with
    | object => cases h
    | _ => rfl
  | list element nullable ih => rw [selectedHint, ih h, hint]

theorem renamed_name (d : Descriptor) : d.renamed d.name = d := by
  induction d with
  | leaf kind name nullable => cases kind <;> rfl
  | list element nullable ih => exact congrArg (list · nullable) ih

theorem selectedHint_name (d : Descriptor) : d.selectedHint scalars d.name = d.hint scalars := by
  cases h : d.requiresSelector with
  | true => rw [selectedHint_of_requiresSelector scalars d.name h, renamed_name]
  | false => exact selectedHint_of_not_requiresSelector scalars d.name h

end Descriptor

/-! ### Reading hints -/

/-- A hint without an absent value: it takes the mark of one, and does not end in it. -/
structure IsBareHint (text : String) : Prop where
  takesMark : text ≠ ScalarRegistry.unmapped
  unmarked : ¬" | None".toList <:+ text.toList

theorem IsBareHint.orNone_eq {text : String} (h : IsBareHint text) (nullable : Bool) :
    orNone text nullable = if nullable then text ++ " | None" else text := by
  have hmark : (text != ScalarRegistry.unmapped) = true := bne_iff_ne.mpr h.takesMark
  rw [orNone, hmark, Bool.and_true]

/-- Whether a hint is marked can be seen at its end. -/
theorem IsBareHint.orNone_inj {a b : String} (ha : IsBareHint a) (hb : IsBareHint b)
    {n m : Bool} : orNone a n = orNone b m ↔ a = b ∧ n = m := by
  have hmarked : ∀ {x y : String}, IsBareHint y → x ++ " | None" ≠ y := by
    rintro x y hy rfl
    exact hy.unmarked (String.toList_append ▸ List.suffix_append _ _)
  rw [ha.orNone_eq, hb.orNone_eq]
  cases n <;> cases m
  · simp
  · simpa using fun h => hmarked ha h.symm
  · simpa using hmarked hb
  · simp

/-- A name has neither a point nor a space. -/
theorem isBareHint_of_isName {name : String} (h : isName name.toList) : IsBareHint name := by
  have hword := Name.isWord_of_isName h
  refine ⟨?_, fun hsuffix => ?_⟩
  · rintro rfl
    exact absurd (hword '.' (by decide)) (by decide)
  · exact absurd (hword ' ' (hsuffix.subset (by decide))) (by decide)

/-- The hint of a list ends in its bracket. -/
theorem isBareHint_list (element : String) : IsBareHint ("list[" ++ element ++ "]") := by
  have hlast : ("list[" ++ element ++ "]").toList.getLast? = some ']' := by
    rw [String.toList_append]
    exact List.getLast?_concat
  refine ⟨fun heq => ?_, fun hsuffix => ?_⟩
  · rw [heq] at hlast
    exact absurd hlast (by decide)
  · obtain ⟨front, hfront⟩ := hsuffix
    rw [← hfront, List.getLast?_append_of_ne_nil _ (by decide)] at hlast
    exact absurd hlast (by decide)

theorem list_ne_of_isName {name : String} (h : isName name.toList) (element : String) :
    name ≠ "list[" ++ element ++ "]" := by
  rintro rfl
  have hmem : '[' ∈ ("list[" ++ element ++ "]").toList := by simp [String.toList_append]
  exact absurd (Name.isWord_of_isName h '[' hmem) (by decide)

namespace Descriptor

/-- A class under any list levels: an enum or an object that is called like one of a schema. -/
structure IsOfClass (d : Descriptor) : Prop where
  kind : d.kind = .enum ∨ d.kind = .object
  name : isName d.name.toList

theorem hint_leaf_of_isOfClass (scalars : ScalarRegistry) {kind : Kind} {name : String}
    {nullable : Bool} (h : IsOfClass (leaf kind name nullable)) :
    (leaf kind name nullable).hint scalars = orNone name nullable := by
  cases kind with
  | scalar => cases h.kind <;> contradiction
  | _ => rfl

/-- The hint of a class says its name and at each level whether null is admitted, and no more. -/
theorem hint_eq_iff (scalars : ScalarRegistry) {d e : Descriptor} (hd : d.IsOfClass)
    (he : e.IsOfClass) :
    d.hint scalars = e.hint scalars ↔ d.name = e.name ∧ d.levels = e.levels := by
  induction d generalizing e with
  | leaf kind name nullable =>
    have hname : isName name.toList := hd.name
    rw [hint_leaf_of_isOfClass scalars hd]
    cases e with
    | leaf kind' name' nullable' =>
      have hname' : isName name'.toList := he.name
      rw [hint_leaf_of_isOfClass scalars he,
        (isBareHint_of_isName hname).orNone_inj (isBareHint_of_isName hname')]
      simp [Descriptor.name, levels]
    | list element nullable' =>
      rw [hint, (isBareHint_of_isName hname).orNone_inj (isBareHint_list _)]
      simp [list_ne_of_isName hname, levels, (levels_ne_nil element).symm]
  | list element nullable ih =>
    have helement : element.IsOfClass := ⟨hd.kind, hd.name⟩
    rw [hint]
    cases e with
    | leaf kind' name' nullable' =>
      have hname' : isName name'.toList := he.name
      rw [hint_leaf_of_isOfClass scalars he,
        (isBareHint_list _).orNone_inj (isBareHint_of_isName hname')]
      simp [(list_ne_of_isName hname' _).symm, levels, levels_ne_nil element]
    | list element' nullable' =>
      have helement' : element'.IsOfClass := ⟨he.kind, he.name⟩
      rw [hint, (isBareHint_list _).orNone_inj (isBareHint_list _), String.append_left_inj,
        String.append_right_inj, ih helement helement']
      simp [Descriptor.name, levels, and_comm, and_assoc]

end Descriptor

/-- What an accessor returns is the hint of its type where no selector is needed, and otherwise the
hint of the type with the result in place of its object; in either case the name of the type itself
as the result gives back the hint. Hints of classes under list levels are equal just if the classes
have one name and the types admit null at the same levels. -/
theorem selectedHint_and_hint (scalars : ScalarRegistry) :
    (∀ (d : Descriptor) (result : String), d.selectedHint scalars result =
      if d.requiresSelector then (d.renamed result).hint scalars else d.hint scalars) ∧
    (∀ d : Descriptor, d.selectedHint scalars d.name = d.hint scalars) ∧
    ∀ d e : Descriptor, d.IsOfClass → e.IsOfClass →
      (d.hint scalars = e.hint scalars ↔ d.name = e.name ∧ d.levels = e.levels) := by
  refine ⟨fun d result => ?_, Descriptor.selectedHint_name scalars,
    fun d e => Descriptor.hint_eq_iff scalars⟩
  split_ifs with h
  · exact Descriptor.selectedHint_of_requiresSelector scalars result h
  · exact Descriptor.selectedHint_of_not_requiresSelector scalars result (by simpa using h)

/-- A class that is called like the absent value. -/
theorem selectedHint_and_hint_none :
    let d := Descriptor.list (.list (.leaf .object "None" true) true) false
    let e := Descriptor.list (.list (.leaf .object "None" false) true) true
    d.IsOfClass ∧ e.IsOfClass ∧ d.hint .standard = "list[list[None | None] | None]" ∧
      d.selectedHint .standard "T" = "list[list[T | None] | None]" ∧
      e.hint .standard = "list[list[None] | None] | None" ∧
      d.hint .standard ≠ e.hint .standard := by
  intro d e
  have hd : d.IsOfClass := ⟨.inr rfl, by decide⟩
  have he : e.IsOfClass := ⟨.inr rfl, by decide⟩
  obtain ⟨-, -, hequal⟩ := selectedHint_and_hint .standard
  have hlevels : d.levels ≠ e.levels := by decide
  exact ⟨hd, he, by decide +kernel, by decide +kernel, by decide +kernel,
    fun h => hlevels ((hequal d e hd he).mp h).2⟩

end SchemaClient
