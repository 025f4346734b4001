import SchemaClient.Module.Member
import SchemaClient.Proofs.Descriptor.Reference
import SchemaClient.Proofs.Filter.Reference
import SchemaClient.Proofs.Name.Settled

/-! Defaults in the declarations of input fields: a constant is evaluated when the class is made,
and an expression that reads another class or makes a list is put off until an instance is made. -/
namespace SchemaClient

open Sdl

/-! ### Constants -/

/-- Expressions of values that never change, made without reading any class. -/
inductive IsConstant : String → Prop
  | none : IsConstant "None"
  | true : IsConstant "True"
  | false : IsConstant "False"
  | number {spelling : String} (whole : Bool) :
    IsNumber whole spelling.toList → IsConstant spelling
  | text (s : String) : IsConstant (Text.stringLiteral s)

/-- Expressions that read the class of an enum, or make a list. -/
inductive IsDeferred (enums : List Enum) : String → Prop
  | member {e : Enum} {v : EnumEntry} :
    e ∈ enums → v ∈ e.entries → IsDeferred enums (e.name ++ "." ++ v.memberName)
  | list (items : List String) : IsDeferred enums ("[" ++ Text.join ", " items ++ "]")

theorem head?_of_isNumber {whole : Bool} {spelling : List Char} (h : IsNumber whole spelling) :
    ∃ c, spelling.head? = some c ∧ (c = '-' ∨ c.isDigit) := by
  obtain ⟨sign, digits, fraction, exponent, rfl, hsign, hdigits, -⟩ := h.parts
  obtain ⟨c, hc, hdigit⟩ : ∃ c, digits.head? = some c ∧ c.isDigit := by
    rcases hdigits with rfl | ⟨⟨hne, hall⟩, -⟩
    · exact ⟨'0', rfl, by decide⟩
    · exact ⟨digits.head hne, List.head?_eq_some_head hne, hall _ (List.head_mem hne)⟩
  rcases hsign with rfl | rfl
  · exact ⟨c, by simp [List.head?_append, hc], .inr hdigit⟩
  · exact ⟨'-', rfl, .inl rfl⟩

/-- A constant is one of three words, or starts like a number or a literal. -/
theorem IsConstant.cases_head {text : String} (h : IsConstant text) :
    text ∈ ["None", "True", "False"] ∨
      ∃ c, text.toList.head? = some c ∧ (c = '-' ∨ c.isDigit ∨ c = '"') := by
  cases h with
  | none => exact .inl (by decide)
  | true => exact .inl (by decide)
  | false => exact .inl (by decide)
  | number whole hnumber =>
    obtain ⟨c, hc, hstart⟩ := head?_of_isNumber hnumber
    exact .inr ⟨c, hc, hstart.imp_right .inl⟩
  | text s =>
    refine .inr ⟨'"', ?_, .inr (.inr rfl)⟩
    rw [Text.stringLiteral, String.toList_ofList]
    rfl

theorem head?_of_isName {cs : List Char} (h : isName cs) :
    ∃ c, cs.head? = some c ∧ isNameStart c := by
  cases cs with
  | nil => cases h
  | cons c rest => exact ⟨c, rfl, (Bool.and_eq_true_iff.mp h).1⟩

theorem IsConstant.not_isDeferred {enums : List Enum} (hnames : ∀ e ∈ enums, isName e.name.toList)
    {text : String} (h : IsConstant text) : ¬IsDeferred enums text := by
  intro hdeferred
  cases hdeferred with
  | @member e v he hv =>
    rcases h.cases_head with hword | ⟨d, hd, hstart⟩
    · have hpoint : ∀ w ∈ ["None", "True", "False"], '.' ∉ w.toList := by decide
      exact hpoint _ hword (by simp [String.toList_append])
    · obtain ⟨c, hc, hname⟩ := head?_of_isName (hnames e he)
      have hother := Name.of_ascii
        (P := fun d => isNameStart d → ¬(d = '-' ∨ d.isDigit ∨ d = '"'))
        (Name.ascii_of_isNamePart (Name.isNamePart_of_isNameStart hname)) (by decide) hname
      have hhead := Name.head?_append_of_head? (Name.head?_append_of_head? hc ".") v.memberName
      obtain rfl : c = d := Option.some.inj (hhead.symm.trans hd)
      exact hother hstart
  | list items =>
    have hbracket : ("[" ++ Text.join ", " items ++ "]").toList.head? = some '[' :=
      Name.head?_append_of_head? (Name.head?_append_of_head? rfl _) "]"
    rcases h.cases_head with hword | ⟨d, hd, hstart⟩
    · have hhead : ∀ w ∈ ["None", "True", "False"], w.toList.head? ≠ some '[' := by decide
      exact hhead _ hword hbracket
    · obtain rfl : '[' = d := Option.some.inj (hbracket.symm.trans hd)
      exact absurd hstart (by decide)

/-! ### Values -/

/-- Whether the expression of a value reads a class or makes a list. -/
def Value.isDeferred : Value → Bool
  | .member _ _ => true
  | .list _ => true
  | _ => false

section Coerced

variable {enums : List Enum} {d : Descriptor} {literal : Literal} {value : Value}

theorem Coerced.isConstant {member : String → String → String → Prop}
    (h : Coerced member d literal value) (hliteral : literal.Valid)
    (hvalue : value.isDeferred = false) : IsConstant value.expression := by
  cases h with
  | null => exact .none
  | items => cases hvalue
  | single => cases hvalue
  | enum => cases hvalue
  | int spelling => exact .number true (by simpa [Literal.Valid, Value.expression] using hliteral)
  | float spelling =>
    exact .number false (by simpa [Literal.Valid, Value.expression] using hliteral)
  | string text => exact .text text
  | boolean b =>
    cases b with
    | true => exact .true
    | false => exact .false

theorem Coerced.isDeferred
    (h : Coerced (fun enum wire m => memberOf? enums enum wire = some m) d literal value)
    (hvalue : value.isDeferred) : IsDeferred enums value.expression := by
  cases h with
  | @items element nullable literals values hitems => exact .list (Value.expressions values)
  | @single element nullable v one hsingle hone => exact .list [one.expression]
  | enum hmember =>
    obtain ⟨e, he, rfl, v, hv, -, rfl⟩ := mem_of_memberOf? hmember
    exact .member he hv
  | _ => cases hvalue

end Coerced

theorem Value.expression_ne_none {value : Value} (h : value.isDeferred) :
    value.expression ≠ "None" := by
  intro heq
  cases value with
  | member enum name =>
    have hpoint : '.' ∈ (Value.member enum name).expression.toList := by
      simp [Value.expression, String.toList_append]
    rw [heq] at hpoint
    exact absurd hpoint (by decide)
  | list items =>
    have hhead := congrArg (List.head? ∘ String.toList) heq
    simp [Value.expression, String.toList_append] at hhead
  | _ => cases h

/-! ### Options -/

namespace Module

/-- Whether an option gives a field a default. -/
def FieldOption.setsDefault : FieldOption → Bool
  | default _ => true
  | factory _ => true
  | _ => false

theorem mem_options_inputAttribute (scalars : ScalarRegistry) (f : Field) {o : FieldOption}
    (ho : o.setsDefault) : o ∈ (inputAttribute scalars f).options ↔ defaultOption f = some o := by
  have hwire : o ≠ .wireName f.wireName := by
    rintro rfl
    cases ho
  have hdescribe : o ∉ describe f.description := by
    intro hmem
    obtain ⟨text, -, rfl⟩ := Option.map_eq_some_iff.mp (Option.mem_toList.mp hmem)
    cases ho
  simp [inputAttribute, hwire, hdescribe]

theorem setsDefault_of_defaultOption {f : Field} {o : FieldOption} (h : defaultOption f = some o) :
    o.setsDefault := by
  unfold defaultOption at h
  split at h <;> split_ifs at h <;> cases h <;> rfl

theorem options_set_no_default_iff (scalars : ScalarRegistry) (f : Field) :
    (∀ o ∈ (inputAttribute scalars f).options, o.setsDefault = false) ↔
      defaultOption f = none := by
  constructor
  · intro h
    cases hoption : defaultOption f with
    | none => rfl
    | some o =>
      have hsets := setsDefault_of_defaultOption hoption
      have hfalse := h o ((mem_options_inputAttribute scalars f hsets).mpr hoption)
      cases hsets.symm.trans hfalse
  · intro h o ho
    cases hsets : o.setsDefault with
    | false => rfl
    | true => cases h.symm.trans ((mem_options_inputAttribute scalars f hsets).mp ho)

/-- The option is chosen by the type and the text of the default as it would be by its value. -/
theorem defaultOption_of_conforms {f : Field} {value : Value} (h : value.Conforms f.type)
    (hdefault : f.default = some value.expression) :
    defaultOption f = some (if value.isDeferred then .factory value.expression
      else .default value.expression) := by
  obtain ⟨name, wireName, type, arguments, default, description⟩ := f
  obtain rfl : default = some value.expression := hdefault
  cases h with
  | none => rfl
  | @list element nullable values =>
    have hne : (Value.list values).expression ≠ "None" := Value.expression_ne_none rfl
    simp [defaultOption, hne, Descriptor.isList, Value.isDeferred]
  | @member enum nullable m =>
    have hne : (Value.member enum m).expression ≠ "None" := Value.expression_ne_none rfl
    simp [defaultOption, hne, Descriptor.kind, Value.isDeferred]
  | number spelling => simp [defaultOption, Descriptor.isList, Descriptor.kind, Value.isDeferred]
  | text s => simp [defaultOption, Descriptor.isList, Descriptor.kind, Value.isDeferred]
  | boolean b => simp [defaultOption, Descriptor.isList, Descriptor.kind, Value.isDeferred]

end Module

section Built

variable {sdl : String} {scalars : ScalarRegistry} {namespaceName : String}
  {clientName : Option String} {d : Schema.Document} {m : Model}

theorem Model.isName_enums_of_build (hd : (Schema.read sdl).result = .ok d)
    (hm : (build d scalars namespaceName clientName).result = .ok m) :
    ∀ e ∈ m.enums, isName e.name.toList := by
  intro e he
  rw [enums_of_build hm] at he
  obtain ⟨b, hb, rfl⟩ := List.mem_map.mp he
  exact ((Schema.valid_of_read hd).enums b hb).name

theorem Module.attributeOf_of_input
    (hm : (Model.build d scalars namespaceName clientName).result = .ok m) {c : Class}
    (hc : c ∈ m.inputs) (f : Field) :
    attributeOf scalars c f = inputAttribute scalars f := by
  obtain ⟨b, -, hbuilt⟩ := exists_of_forall₂_right (Model.inputs_of_build hm) hc
  obtain ⟨fields, -, rfl⟩ := Model.result_buildInput.mp hbuilt
  rfl

/-- A field has one option for its default at most: the default that its member has, put off just
if it reads a class or makes a list, or null where there is none and the type admits it. -/
theorem Model.defaultOption_of_build (hd : (Schema.read sdl).result = .ok d)
    (hm : (build d scalars namespaceName clientName).result = .ok m) {c : Class}
    (hc : c ∈ m.inputs) {f : Field} (hf : f ∈ c.fields) :
    ∃ b ∈ d.inputs, b.name = c.name ∧ ∃ v ∈ b.members, v.name = f.wireName ∧
      (v.default = none ∧ f.default = none ∧
          Module.defaultOption f = (if v.type.isNonNull then none else some (.default "None")) ∨
        ∃ e, v.default ≠ none ∧ f.default = some e ∧
          (IsConstant e ∧ Module.defaultOption f = some (.default e) ∨
            IsDeferred m.enums e ∧ Module.defaultOption f = some (.factory e))) := by
  obtain ⟨b, hb, hname, v, hv, before, hfield⟩ := buildInputField_of_build hm hc hf
  obtain ⟨hwire, htype, hdefault⟩ := buildInputField_cases hfield
  refine ⟨b, hb, hname, v, hv, hwire.symm, ?_⟩
  rcases hdefault with ⟨hnone, hf⟩ | ⟨literal, value, hliteral, hvalue, hf⟩
  · refine .inl ⟨hnone, hf, ?_⟩
    rw [Module.defaultOption, hf, htype, Resolver.nullable_resolve]
    cases v.type.isNonNull <;> rfl
  · have hcoerced := coerce_eq_ok_iff.mp hvalue
    have hoption := Module.defaultOption_of_conforms hcoerced.conforms hf
    refine .inr ⟨value.expression, by simp [hliteral], hf, ?_⟩
    cases hdeferred : value.isDeferred with
    | false =>
      have hvalid : literal.Valid :=
        (((Schema.valid_of_read hd).inputs b hb).members v hv).default literal hliteral
      rw [hdeferred] at hoption
      exact .inl ⟨hcoerced.isConstant hvalid hdeferred, hoption⟩
    | true =>
      rw [hdeferred] at hoption
      rw [enums_of_build hm]
      exact .inr ⟨hcoerced.isDeferred hdeferred, hoption⟩

end Built

/-- The declaration of an input field lists options. A default that is evaluated when the class is
made is a number, a string literal, a truth value or none. A default that is a member of an enum or
a list is put off until an instance is made, and no other is. There is neither just if the type is
non-null and the schema gives no default. -/
theorem inputDefaults_of_build {sdl : String} {scalars : ScalarRegistry} {namespaceName : String}
    {clientName : Option String} {d : Schema.Document} {m : Model}
    (hd : (Schema.read sdl).result = .ok d)
    (hm : (Model.build d scalars namespaceName clientName).result = .ok m) :
    ∀ c ∈ m.inputs, ∀ f ∈ c.fields,
      let options := (Module.attributeOf scalars c f).options
      (Module.attributeOf scalars c f).text = Module.indent ++ f.name ++ ": " ++
        f.type.hint scalars ++ " = pydantic.Field(" ++
        Text.join ", " (options.map Module.FieldOption.text) ++ ")" ∧
      (∀ e, .default e ∈ options → IsConstant e) ∧
      (∀ e, f.default = some e →
        (IsDeferred m.enums e → .factory e ∈ options ∧ ∀ other, .default other ∉ options) ∧
        (¬IsDeferred m.enums e → .default e ∈ options ∧ ∀ other, .factory other ∉ options)) ∧
      ∃ b ∈ d.inputs, b.name = c.name ∧ ∃ v ∈ b.members, v.name = f.wireName ∧
        ((∀ o ∈ options, o.setsDefault = false) ↔ v.type.isNonNull ∧ v.default = none) := by
  intro c hc f hf options
  have hinput := Module.attributeOf_of_input hm hc f
  have hoptions : options = (Module.inputAttribute scalars f).options :=
    congrArg Module.Attribute.options hinput
  have hdefault : ∀ e, .default e ∈ options ↔ Module.defaultOption f = some (.default e) :=
    fun e => hoptions ▸ Module.mem_options_inputAttribute scalars f rfl
  have hfactory : ∀ e, .factory e ∈ options ↔ Module.defaultOption f = some (.factory e) :=
    fun e => hoptions ▸ Module.mem_options_inputAttribute scalars f rfl
  have hnone : (∀ o ∈ options, o.setsDefault = false) ↔ Module.defaultOption f = none :=
    hoptions ▸ Module.options_set_no_default_iff scalars f
  refine ⟨by rw [hoptions, hinput]; rfl, ?_⟩
  simp only [hdefault, hfactory, hnone]
  obtain ⟨b, hb, hname, v, hv, hwire, hcases⟩ := Model.defaultOption_of_build hd hm hc hf
  rcases hcases with ⟨hmissing, hfield, hoption⟩ | ⟨e, hgiven, hfield, hcases⟩
  · refine ⟨fun e he => ?_, fun e he => ?_, b, hb, hname, v, hv, hwire, ?_⟩
    · rw [hoption] at he
      split_ifs at he
      cases he
      exact .none
    · cases hfield.symm.trans he
    · rw [hoption, hmissing]
      simp
  · rcases hcases with ⟨hconstant, hoption⟩ | ⟨hdeferred, hoption⟩
    · have hfree := hconstant.not_isDeferred (Model.isName_enums_of_build hd hm)
      refine ⟨fun other he => ?_, fun other he => ?_, b, hb, hname, v, hv, hwire, ?_⟩
      · cases hoption.symm.trans he
        exact hconstant
      · obtain rfl := Option.some.inj (hfield.symm.trans he)
        simp [hfree, hoption]
      · simp [hoption, hgiven]
    · refine ⟨fun other he => ?_, fun other he => ?_, b, hb, hname, v, hv, hwire, ?_⟩
      · cases hoption.symm.trans he
      · obtain rfl := Option.some.inj (hfield.symm.trans he)
        simp [hdeferred, hoption]
      · simp [hoption, hgiven]

/-- Fields with an enum, a list, null and a string that looks like it, and with no default. -/
def variedDefaults : String :=
  "schema\x7bquery:Q\x7d type Q\x7ba:Int\x7d enum E\x7bA None\x7d" ++
    "input I\x7ba:[E!]=A b:E=None c:E=null d:[Int]=null e:String=\"None\" f:Float!=-1.5e3" ++
    " g:[[Int]]! h:Int i:Boolean!=true\x7d"

theorem inputDefaults_of_build_varied :
    ∃ d m, (Schema.read variedDefaults).result = .ok d ∧
      (Model.build d .standard "Demo" none).result = .ok m ∧
      m.inputs.map (fun c => c.fields.map fun f =>
        (Module.attributeOf .standard c f).options.filter Module.FieldOption.setsDefault) =
          [[[.factory "[E.A]"], [.factory "E.NONE"], [.default "None"], [.default "None"],
            [.default "\"None\""], [.default "-1.5e3"], [], [.default "None"],
            [.default "True"]]] ∧
      ∀ c ∈ m.inputs, ∀ f ∈ c.fields, ∀ e,
        .default e ∈ (Module.attributeOf .standard c f).options → IsConstant e := by
  obtain ⟨d, m, hd, hm, hoptions⟩ := Traced.exists_of_view (x := Schema.read variedDefaults)
    (f := fun d => Model.build d .standard "Demo" none)
    (g := fun _ m => m.inputs.map fun c => c.fields.map fun f =>
      (Module.attributeOf .standard c f).options.filter Module.FieldOption.setsDefault)
    (v := [[[.factory "[E.A]"], [.factory "E.NONE"], [.default "None"], [.default "None"],
      [.default "\"None\""], [.default "-1.5e3"], [], [.default "None"], [.default "True"]]])
    (by decide +kernel)
  exact ⟨d, m, hd, hm, hoptions, fun c hc f hf => (inputDefaults_of_build hd hm c hc f hf).2.1⟩

end SchemaClient
