import SchemaClient.Proofs.Model.Allocation
import SchemaClient.Proofs.Model.Scalar
import SchemaClient.Proofs.Module.Count
import SchemaClient.Proofs.Module.InputDefault
import SchemaClient.Proofs.Module.Parameter

/-! The module of a schema holds no marks but its own, apart from the client name, the docstrings
and the options of fields: everything else is made of names and of the types of the usual
scalars. -/
namespace SchemaClient

open Sdl Mark

/-! ### Names -/

namespace Mark

theorem isUnmarked_of_isWord {s : String} (h : Name.IsWord s.toList) : IsUnmarked s :=
  ⟨fun hline => absurd (h _ hline) (by decide), fun hsign => absurd (h _ hsign) (by decide)⟩

theorem isUnmarked_of_isName {s : String} (h : isName s.toList) : IsUnmarked s :=
  isUnmarked_of_isWord (Name.isWord_of_isName h)

theorem isUnmarked_of_isSettled {s : String} (h : Name.IsSettled s) : IsUnmarked s :=
  isUnmarked_of_isWord fun c hc => (h.parts c hc).1

theorem isUnmarked_toString (k : ℕ) : IsUnmarked (toString k) :=
  isUnmarked_of_isWord fun _ hc => by
    have hdigit := Name.isDigit_of_mem_toString hc
    simp [isNamePart, Char.isAlphanum, hdigit]

theorem isUnmarked_unique (taken : List String) {name : String} (h : Name.IsWord name.toList) :
    IsUnmarked (Name.unique taken name) := by
  refine isUnmarked_of_isWord ?_
  rcases Name.fresh_eq _ name _ with heq | ⟨k, heq⟩
  · rwa [Name.unique, heq]
  · rw [Name.unique, heq]
    exact Name.forall_mem_numbered h (by decide) (fun c hc => by
      simp [isNamePart, Char.isAlphanum, hc]) k

theorem isUnmarked_stringLiteral {s : String} (h : '@' ∉ s.toList) :
    IsUnmarked (Text.stringLiteral s) := by
  refine ⟨Code.not_mem_stringLiteral (by decide) s, ?_⟩
  rw [Code.toList_stringLiteral, List.mem_cons, List.mem_append, List.mem_flatMap]
  rintro (hquote | ⟨c, hc, hsign⟩ | hquote)
  · exact absurd hquote (by decide)
  · by_cases hplain : Code.isPlainChar c
    · rw [quotedChar_of_isPlainChar hplain, List.mem_singleton] at hsign
      exact h (hsign ▸ hc)
    · exact (quotedChar_of_not_isPlainChar (by simpa using hplain)).2 hsign
  · exact absurd hquote (by decide)

end Mark

theorem isUnmarked_enumMemberName (taken : List String) {wire : String} (h : isName wire.toList) :
    IsUnmarked (Name.unique taken (Name.enumMemberName wire)) := by
  obtain ⟨words, hwords, -, heq⟩ := Name.enumMemberName_eq h
  refine isUnmarked_unique taken ?_
  rw [heq, String.toList_ofList]
  exact Name.isWord_moveUnderscores (List.all_eq_true.mp (by decide))
    (Name.isWord_map Name.isNamePart_toUpper hwords)

/-! ### Types -/

theorem ScalarRegistry.isUnmarked_typeText (name : String) :
    IsUnmarked (standard.typeText name) := by
  have hbuiltins : ∀ p ∈ builtins, IsUnmarked p.2 := by decide
  have hstandard : ∀ p ∈ standard, IsUnmarked p.2.typeText := by decide
  have hkeys : (builtins.map Prod.fst).Nodup ∧ (standard.map Prod.fst).Nodup := by decide
  unfold typeText
  split
  · rename_i text htext
    exact hbuiltins _ ((Table.get?_eq_some_iff hkeys.1).mp htext)
  · split
    · rename_i mapping hmapping
      exact hstandard _ ((Table.get?_eq_some_iff hkeys.2).mp hmapping)
    · decide

theorem isUnmarked_orNone {hint : String} (h : IsUnmarked hint) (nullable : Bool) :
    IsUnmarked (orNone hint nullable) := by
  unfold orNone
  split_ifs
  · exact isUnmarked_append.mpr ⟨h, isUnmarked_literal rfl (by decide)⟩
  · exact h

namespace Descriptor

theorem isUnmarked_list {element : String} (h : IsUnmarked element) :
    IsUnmarked ("list[" ++ element ++ "]") :=
  isUnmarked_append.mpr ⟨isUnmarked_append.mpr ⟨isUnmarked_literal rfl (by decide), h⟩,
    isUnmarked_literal rfl (by decide)⟩

theorem isUnmarked_hint {d : Descriptor} (h : isName d.name.toList) :
    IsUnmarked (d.hint .standard) := by
  induction d with
  | leaf kind name nullable =>
    have hname := isUnmarked_of_isName h
    cases kind with
    | scalar => exact isUnmarked_orNone (ScalarRegistry.isUnmarked_typeText name) nullable
    | enum => exact isUnmarked_orNone hname nullable
    | object => exact isUnmarked_orNone hname nullable
    | foreign => exact isUnmarked_orNone hname nullable
  | list element nullable ih => exact isUnmarked_orNone (isUnmarked_list (ih h)) nullable

theorem isUnmarked_selectedHint {d : Descriptor} (h : isName d.name.toList) {result : String}
    (hresult : IsUnmarked result) : IsUnmarked (d.selectedHint .standard result) := by
  induction d with
  | leaf kind name nullable =>
    cases kind with
    | object => exact isUnmarked_orNone hresult nullable
    | scalar => exact isUnmarked_hint h
    | enum => exact isUnmarked_hint h
    | foreign => exact isUnmarked_hint h
  | list element nullable ih => exact isUnmarked_orNone (isUnmarked_list (ih h)) nullable

theorem isUnmarked_itemName (depth : ℕ) : IsUnmarked (itemName depth) := by
  unfold itemName
  split_ifs
  · exact isUnmarked_literal rfl (by decide)
  · exact isUnmarked_append.mpr ⟨isUnmarked_literal rfl (by decide), isUnmarked_toString depth⟩

theorem isUnmarked_guarded (nullable : Bool) {subject value : Expr} (hs : IsUnmarked subject.text)
    (hv : IsUnmarked value.text) : IsUnmarked (guarded nullable subject value).text := by
  cases nullable with
  | false => exact hv
  | true =>
    simp only [guarded, if_true, Expr.text, isUnmarked_append]
    exact ⟨⟨⟨hv, isUnmarked_literal rfl (by decide)⟩, hs⟩, isUnmarked_literal rfl (by decide)⟩

theorem isUnmarked_project {selector : String} (hselector : IsUnmarked selector) (d : Descriptor)
    (depth : ℕ) {subject : Expr} (hs : IsUnmarked subject.text) :
    IsUnmarked (d.project selector depth subject).text := by
  induction d generalizing depth subject with
  | leaf kind name nullable =>
    cases kind with
    | object =>
      refine isUnmarked_guarded nullable hs ?_
      simp only [Expr.text, isUnmarked_append]
      exact ⟨⟨⟨hselector, isUnmarked_literal rfl (by decide)⟩, hs⟩,
        isUnmarked_literal rfl (by decide)⟩
    | scalar => exact hs
    | enum => exact hs
    | foreign => exact hs
  | list element nullable ih =>
    unfold project
    split_ifs
    · refine isUnmarked_guarded nullable hs ?_
      have hitem := isUnmarked_itemName depth
      have hbody : IsUnmarked
          (element.project selector (depth + 1) (.atom (itemName depth))).text :=
        ih (depth + 1) hitem
      simp only [Expr.text, isUnmarked_append]
      exact ⟨⟨⟨⟨⟨⟨isUnmarked_literal rfl (by decide), hbody⟩, isUnmarked_literal rfl (by decide)⟩,
        hitem⟩, isUnmarked_literal rfl (by decide)⟩, hs⟩, isUnmarked_literal rfl (by decide)⟩
    · exact hs

end Descriptor

/-! ### Defaults -/

theorem newline_not_mem_of_isNumber {whole : Bool} {spelling : List Char}
    (h : IsNumber whole spelling) : '\n' ∉ spelling := by
  have hdigits : ∀ {cs : List Char}, IsDigits cs → '\n' ∉ cs :=
    fun hcs hmem => absurd (hcs.2 _ hmem) (by decide)
  obtain ⟨sign, digits, fraction, exponent, rfl, hsign, hwhole, hfraction, hexponent, -⟩ := h.parts
  simp only [List.mem_append, not_or]
  refine ⟨⟨⟨?_, ?_⟩, ?_⟩, ?_⟩
  · rcases hsign with rfl | rfl <;> decide
  · rcases hwhole with rfl | ⟨hwhole, -⟩
    · decide
    · exact hdigits hwhole
  · rcases hfraction with rfl | ⟨more, rfl, hmore⟩
    · decide
    · simp [hdigits hmore]
  · rcases hexponent with rfl | ⟨e, mark, more, rfl, he, hmark, hmore⟩
    · decide
    · have hstart : '\n' ∉ e :: mark := by
        rcases he with rfl | rfl <;> rcases hmark with rfl | rfl | rfl <;> decide
      rw [List.mem_append, not_or]
      exact ⟨hstart, hdigits hmore⟩

theorem Value.newline_not_mem_expression_list {values : List Value}
    (h : ∀ v ∈ values, '\n' ∉ v.expression.toList) :
    '\n' ∉ (Value.list values).expression.toList := by
  have hitems : ∀ s ∈ Value.expressions values, '\n' ∉ s.toList := by
    induction values with
    | nil => simp [Value.expressions]
    | cons v more ih =>
      obtain ⟨hv, hmore⟩ := List.forall_mem_cons.mp h
      exact List.forall_mem_cons.mpr ⟨hv, ih hmore⟩
  have hjoin : '\n' ∉ (Text.join ", " (Value.expressions values)).toList :=
    Text.not_mem_join (by decide) hitems
  simp [Value.expression, String.toList_append, hjoin]

/-- A default is written on one line. -/
theorem Coerced.newline_not_mem {member : String → String → String → Prop} {d : Descriptor}
    {literal : Literal} {value : Value} (h : Coerced member d literal value)
    (hliteral : literal.Valid) (hname : isName d.name.toList)
    (hmember : ∀ enum wire m, member enum wire m → IsUnmarked m) :
    '\n' ∉ value.expression.toList := by
  induction d generalizing literal value with
  | leaf kind name nullable =>
    cases h with
    | null => decide
    | @enum _ _ wire m hm =>
      have hmember : IsUnmarked (name ++ "." ++ m) := isUnmarked_append.mpr
        ⟨isUnmarked_append.mpr ⟨isUnmarked_of_isName hname, by decide⟩, hmember _ _ _ hm⟩
      exact hmember.noLine
    | int spelling =>
      exact newline_not_mem_of_isNumber (by simpa [Literal.Valid, Value.expression] using hliteral)
    | float spelling =>
      exact newline_not_mem_of_isNumber (by simpa [Literal.Valid, Value.expression] using hliteral)
    | string text => exact Code.not_mem_stringLiteral (by decide) text
    | boolean b => cases b <;> decide
  | list element nullable ih =>
    cases h with
    | null => decide
    | @items _ _ literals values hitems =>
      refine Value.newline_not_mem_expression_list fun v hv => ?_
      obtain ⟨item, hitem, hcoerced⟩ := exists_of_forall₂_right (coercedAll_iff.mp hitems) hv
      rw [Literal.Valid] at hliteral
      exact ih hcoerced (hliteral item hitem) hname
    | @single _ _ _ one hsingle hone =>
      exact Value.newline_not_mem_expression_list
        (List.forall_mem_singleton.mpr (ih hone hliteral hname))

/-! ### Fields -/

structure Field.IsUnmarked (f : Field) : Prop where
  name : Mark.IsUnmarked f.name
  wireName : isName f.wireName.toList
  type : isName f.type.name.toList
  arguments : ∀ a ∈ f.arguments, Mark.IsUnmarked a.name ∧ Mark.IsUnmarked a.hint
  default : ∀ e ∈ f.default, '\n' ∉ e.toList

namespace Module

/-- Wire names and descriptions are string literals, which have one line. -/
theorem newline_not_mem_option {o : FieldOption}
    (h : ∀ e, o = .default e ∨ o = .factory e → '\n' ∉ e.toList) : '\n' ∉ o.text.toList := by
  have happend : ∀ {key s : String}, '\n' ∉ key.toList → '\n' ∉ s.toList →
      '\n' ∉ (key ++ s).toList := by
    intro key s hkey hs
    rw [String.toList_append, List.mem_append, not_or]
    exact ⟨hkey, hs⟩
  have hliteral : ∀ s, '\n' ∉ (Text.stringLiteral s).toList :=
    Code.not_mem_stringLiteral (by decide)
  cases o with
  | default e => exact happend (by decide) (h e (.inl rfl))
  | factory e => exact happend (by decide) (h e (.inr rfl))
  | wireName w => exact happend (by decide) (hliteral w)
  | description t => exact happend (by decide) (hliteral t)
  | hidden => decide

theorem mem_describe {description : Option String} {o : FieldOption}
    (h : o ∈ describe description) : ∃ t, o = .description t := by
  unfold describe at h
  rw [Option.mem_toList, Option.map_eq_some_iff] at h
  obtain ⟨t, -, rfl⟩ := h
  exact ⟨t, rfl⟩

theorem mem_defaultOption {f : Field} {o : FieldOption} (h : defaultOption f = some o) :
    ∃ e, (o = .default e ∨ o = .factory e) ∧ (e = "None" ∨ f.default = some e) := by
  unfold defaultOption at h
  split at h
  · rename_i e he
    split_ifs at h
    · exact ⟨e, .inr (Option.some.inj h).symm, .inr he⟩
    · exact ⟨e, .inl (Option.some.inj h).symm, .inr he⟩
  · split_ifs at h
    exact ⟨"None", .inl (Option.some.inj h).symm, .inl rfl⟩

/-- The options of an attribute name the field, describe it or set its default. -/
theorem mem_options_attributeOf {scalars : ScalarRegistry} {c : Class} {f : Field} {o : FieldOption}
    (h : o ∈ (attributeOf scalars c f).options) :
    (∃ e, (o = .default e ∨ o = .factory e) ∧ (e = "None" ∨ f.default = some e)) ∨
      o = .wireName f.wireName ∨ (∃ t, o = .description t) ∨ o = .hidden := by
  unfold attributeOf at h
  split_ifs at h
  · rw [inputAttribute, List.mem_append, List.mem_append, Option.mem_toList,
      List.mem_singleton] at h
    rcases h with (h | h) | h
    · exact .inl (mem_defaultOption h)
    · exact .inr (.inl h)
    · exact .inr (.inr (.inl (mem_describe h)))
  · simp only [backingAttribute, List.mem_cons, List.not_mem_nil, or_false] at h
    rcases h with rfl | rfl | rfl
    · exact .inl ⟨"None", .inl rfl, .inl rfl⟩
    · exact .inr (.inl rfl)
    · exact .inr (.inr (.inr rfl))
  · simp only [plainAttribute, List.mem_append, List.mem_cons, List.not_mem_nil, or_false] at h
    rcases h with (rfl | rfl) | h
    · exact .inl ⟨"None", .inl rfl, .inl rfl⟩
    · exact .inr (.inl rfl)
    · exact .inr (.inr (.inl (mem_describe h)))

variable {f : Field} (h : f.IsUnmarked)

include h

theorem isUnmarked_backingName : Mark.IsUnmarked f.backingName :=
  isUnmarked_append.mpr ⟨by decide, h.name⟩

theorem isUnmarked_attributeOf (c : Class) : (attributeOf .standard c f).IsUnmarked where
  name := by
    unfold attributeOf
    split_ifs
    · exact h.name
    · exact isUnmarked_backingName h
    · exact h.name
  hint := by
    unfold attributeOf
    split_ifs <;> exact Descriptor.isUnmarked_hint h.type
  wireNames := by
    intro w hw
    obtain rfl : w = f.wireName := by simpa using mem_options_attributeOf hw
    exact isUnmarked_stringLiteral (isUnmarked_of_isName h.wireName).noSign
  lines := by
    intro o ho
    refine newline_not_mem_option fun e he => ?_
    have hdefault : e = "None" ∨ f.default = some e := by
      rcases he with rfl | rfl <;> simpa using mem_options_attributeOf ho
    rcases hdefault with rfl | hdefault
    · decide
    · exact h.default e hdefault

omit h in
theorem isUnmarked_selectorName (arguments : List String) :
    Mark.IsUnmarked (selectorName arguments) := by
  rcases Expression.selectorName_eq arguments with heq | heq | ⟨k, heq⟩
  · rw [heq]; decide
  · rw [heq]; decide
  · rw [heq]
    exact isUnmarked_append.mpr ⟨by decide, isUnmarked_toString k⟩

theorem isUnmarked_accessor : (accessor .standard f).IsUnmarked where
  name := by
    unfold accessor
    dsimp only
    split_ifs <;> exact h.name
  parameters := by
    have hcolon : Mark.IsUnmarked ": " := by decide
    have hparameter : ∀ name hint, Mark.IsUnmarked name → Mark.IsUnmarked hint →
        Mark.IsUnmarked (Parameter.text { name := name, hint := some hint }) := by
      intro name hint hname hhint
      exact isUnmarked_append.mpr ⟨isUnmarked_append.mpr ⟨hname, hcolon⟩, hhint⟩
    rw [parameters_accessor]
    intro p hp
    rw [List.mem_append, List.mem_cons, List.mem_map] at hp
    rcases hp with (rfl | ⟨a, ha, rfl⟩) | hp
    · decide
    · exact hparameter _ _ (h.arguments a ha).1 (h.arguments a ha).2
    · split_ifs at hp
      · rw [List.mem_singleton.mp hp]
        refine hparameter _ _ (isUnmarked_selectorName _) ?_
        exact isUnmarked_append.mpr ⟨isUnmarked_append.mpr ⟨by decide, isUnmarked_of_isName h.type⟩,
          by decide⟩
      · cases hp
  returns := by
    unfold accessor
    dsimp only
    split_ifs
    · exact Descriptor.isUnmarked_selectedHint h.type (by decide)
    · exact Descriptor.isUnmarked_hint h.type
  body := by
    rw [accessor_body]
    exact Descriptor.isUnmarked_project (isUnmarked_selectorName _) f.type 0
      (isUnmarked_append.mpr ⟨by decide, isUnmarked_backingName h⟩)

end Module

/-! ### Models -/

theorem Sdl.TypeRef.Valid.isName_resolve {t : TypeRef} (h : t.Valid) (r : Resolver)
    (nullable : Bool) : isName (r.resolve nullable t).name.toList := by
  induction t generalizing nullable with
  | named name => exact h
  | list of ih => exact ih h true
  | nonNull of ih => exact ih h false

section Built

variable {sdl namespaceName : String} {clientName : Option String} {d : Schema.Document} {m : Model}

namespace Model

theorem isUnmarked_buildObjectField {c : Context} (hc : c.scalars = .standard) (taken : List String)
    {v : ObjectField} (h : v.Valid) : (buildObjectField c taken v).IsUnmarked where
  name := isUnmarked_of_isSettled (isSettled_allocate h.name)
  wireName := h.name
  type := h.type.isName_resolve c.resolver true
  arguments := by
    intro a ha
    obtain ⟨argument, hargument, ⟨before, hname⟩, hhint⟩ :=
      exists_of_forall₂_right (buildArguments_forall₂ c ["self"] v.arguments) ha
    have hvalid := h.arguments argument hargument
    have hword : Name.IsWord (parameterName argument.name).toList := by
      unfold parameterName
      split_ifs
      · exact List.all_eq_true.mp (by decide)
      · exact fun d hd => ((Name.isSettled_memberName hvalid.name).parts d hd).1
    rw [hname, hhint, hc]
    exact ⟨isUnmarked_unique before hword,
      Descriptor.isUnmarked_hint (hvalid.type.isName_resolve c.resolver true)⟩
  default := by simp [buildObjectField]

theorem isUnmarked_enum {b : Block EnumValue} (h : b.Valid EnumValue.Valid) :
    (buildEnum b).IsUnmarked := by
  have hentries : ∀ v ∈ (buildEnum b).entries, isName v.wireName.toList ∧
      IsUnmarked v.memberName := by
    intro v hv
    obtain ⟨value, hvalue, before, hwire, hmember⟩ := mem_buildEntries [] b.members hv
    rw [hwire, hmember]
    exact ⟨h.members value hvalue, isUnmarked_enumMemberName before (h.members value hvalue)⟩
  exact ⟨isUnmarked_of_isName h.name, fun v hv => (hentries v hv).2,
    fun v hv => isUnmarked_stringLiteral (isUnmarked_of_isName (hentries v hv).1).noSign⟩

theorem isUnmarked_buildInputField {ctx : Context}
    (henums : ∀ e ∈ ctx.enums, e.IsUnmarked) {owner : String} {taken : List String} {v : InputValue}
    {f : Field} (hv : v.Valid) (h : buildInputField ctx owner taken v = .ok f) : f.IsUnmarked := by
  obtain ⟨hwire, htype, hdefault⟩ := buildInputField_cases h
  have hname : f.name = allocate ctx.reserved taken v.name false ∧ f.arguments = [] := by
    obtain ⟨default, -, rfl⟩ := buildInputField_eq_ok.mp h
    exact ⟨rfl, rfl⟩
  have hresolved : isName f.type.name.toList := htype ▸ hv.type.isName_resolve ctx.resolver true
  refine ⟨hname.1 ▸ isUnmarked_of_isSettled (isSettled_allocate hv.name), hwire ▸ hv.name,
    hresolved, by simp [hname.2], ?_⟩
  intro e he
  rcases hdefault with ⟨-, hnone⟩ | ⟨literal, value, hliteral, hvalue, hsome⟩
  · cases hnone.symm.trans he
  · obtain rfl := Option.some.inj (hsome.symm.trans he)
    refine (coerce_eq_ok_iff.mp hvalue).newline_not_mem (hv.default literal hliteral) hresolved ?_
    intro enum wire member hmember
    obtain ⟨e, he, -, entry, hentry, -, rfl⟩ := mem_of_memberOf? hmember
    exact (henums e he).memberNames entry hentry

variable (hd : (Schema.read sdl).result = .ok d)
  (hm : (build d .standard namespaceName clientName).result = .ok m)

include hd hm

theorem isUnmarked_enums_of_build : ∀ e ∈ m.enums, e.IsUnmarked := by
  rw [enums_of_build hm]
  exact List.forall_mem_map.mpr fun b hb => isUnmarked_enum ((Schema.valid_of_read hd).enums b hb)

theorem isUnmarked_classes_of_build : ∀ c ∈ m.classes,
    IsUnmarked c.name ∧ ∀ f ∈ c.fields, f.IsUnmarked := by
  have hvalid := Schema.valid_of_read hd
  have henums : ∀ e ∈ (context d .standard).enums, e.IsUnmarked := by
    have hall := isUnmarked_enums_of_build hd hm
    rwa [enums_of_build hm] at hall
  intro c hc
  rcases List.mem_append.mp hc with hc | hc
  · rw [types_of_build hm] at hc
    obtain ⟨b, hb, rfl⟩ := List.mem_map.mp hc
    refine ⟨isUnmarked_of_isName (hvalid.objects b hb).name, fun f hf => ?_⟩
    obtain ⟨v, hv, before, rfl⟩ :=
      exists_of_forall₂_right (buildObjectFields_forall₂ _ [] b.members) hf
    exact isUnmarked_buildObjectField rfl before ((hvalid.objects b hb).members v hv)
  · refine ⟨?_, fun f hf => ?_⟩
    · obtain ⟨b, hb, hbuilt⟩ := exists_of_forall₂_right (inputs_of_build hm) hc
      obtain ⟨fields, -, rfl⟩ := result_buildInput.mp hbuilt
      exact isUnmarked_of_isName (hvalid.inputs b hb).name
    · obtain ⟨b, hb, -, v, hv, before, hfield⟩ := buildInputField_of_build hm hc hf
      exact isUnmarked_buildInputField henums ((hvalid.inputs b hb).members v hv) hfield

end Model

namespace Module

theorem isUnmarked_rootReference {root : Option String} (h : ∀ r ∈ root, isName r.toList) :
    Mark.IsUnmarked (rootReference root) := by
  cases root with
  | none => decide
  | some name => exact isUnmarked_stringLiteral (isUnmarked_of_isName (h name rfl)).noSign

theorem lineCount_importsFor (names : List String) :
    ∀ line ∈ ScalarRegistry.standard.importsFor names, ∀ mark : Mark, mark.lineCount line = 0 := by
  intro line hline mark
  obtain ⟨name, -, himport⟩ := ScalarRegistry.mem_importsFor.mp hline
  obtain ⟨-, mapping, hmapping, himport⟩ := ScalarRegistry.importLine?_eq_some_iff.mp himport
  have hkeys : (ScalarRegistry.standard.map Prod.fst).Nodup := by decide
  have hall : ∀ p ∈ ScalarRegistry.standard, ∀ line ∈ p.2.importLine, mark.lineCount line = 0 := by
    cases mark <;> decide +kernel
  exact hall _ ((Table.get?_eq_some_iff hkeys).mp hmapping) line himport

theorem isUnmarked_ofModel (hd : (Schema.read sdl).result = .ok d)
    (hm : (Model.build d .standard namespaceName clientName).result = .ok m) :
    (ofModel .standard m).IsUnmarked := by
  have hvalid := Schema.valid_of_read hd
  have hclasses := Model.isUnmarked_classes_of_build hd hm
  have henums := Model.isUnmarked_enums_of_build hd hm
  obtain ⟨-, inputs, -, hmodel⟩ := Model.result_build.mp hm
  refine ⟨?_, ?_, ?_, ?_, henums⟩
  · rw [ofModel, hmodel]
    exact isUnmarked_rootReference hvalid.queryType
  · rw [ofModel, hmodel]
    exact isUnmarked_rootReference hvalid.mutationType
  · rw [ofModel, hmodel]
    exact lineCount_importsFor d.scalars
  · rw [classes_ofModel]
    refine List.forall_mem_map.mpr fun c hc => ?_
    obtain ⟨hname, hfields⟩ := hclasses c hc
    refine ⟨hname, ?_,
      List.forall_mem_map.mpr fun f hf => isUnmarked_attributeOf (hfields f hf) c, ?_⟩
    · show Mark.IsUnmarked (baseOf m c)
      unfold baseOf
      split_ifs <;> decide
    · show ∀ method ∈ (if c.isInput then [] else _), _
      split_ifs
      · simp
      · exact List.forall_mem_map.mpr fun f hf =>
          isUnmarked_accessor (hfields f (List.mem_filter.mp hf).1)

end Module

end Built

end SchemaClient
