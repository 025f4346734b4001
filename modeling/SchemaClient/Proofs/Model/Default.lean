import SchemaClient.Proofs.Conversion

/-! Default values: a literal has a value at a type just if it fits it, and the value then has the
shape of the type. -/
namespace SchemaClient

open Sdl

/-- Whether a literal stands for one element where a list is expected. -/
def Sdl.Literal.isSingle : Literal → Bool
  | .null | .list _ => false
  | _ => true

/-- The literals that fit a type, given which values the enums declare. -/
inductive Fits (declared : String → String → Prop) : Descriptor → Literal → Prop
  | null {d} : d.nullable → Fits declared d .null
  | items {element nullable items} :
    (∀ v ∈ items, Fits declared element v) → Fits declared (.list element nullable) (.list items)
  | single {element nullable v} :
    v.isSingle → Fits declared element v → Fits declared (.list element nullable) v
  | enum {name nullable wire} :
    declared name wire → Fits declared (.leaf .enum name nullable) (.enum wire)
  | int {name nullable} (spelling) : Fits declared (.leaf .scalar name nullable) (.int spelling)
  | float {name nullable} (spelling) : Fits declared (.leaf .scalar name nullable) (.float spelling)
  | string {name nullable} (text) : Fits declared (.leaf .scalar name nullable) (.string text)
  | boolean {name nullable} (b) : Fits declared (.leaf .scalar name nullable) (.boolean b)

mutual

/-- The value that a literal has at a type, given the members for the values of enums. -/
inductive Coerced (member : String → String → String → Prop) : Descriptor → Literal → Value → Prop
  | null {d} : d.nullable → Coerced member d .null .none
  | items {element nullable items values} :
    CoercedAll member element items values →
      Coerced member (.list element nullable) (.list items) (.list values)
  | single {element nullable v value} :
    v.isSingle → Coerced member element v value →
      Coerced member (.list element nullable) v (.list [value])
  | enum {name nullable wire m} :
    member name wire m → Coerced member (.leaf .enum name nullable) (.enum wire) (.member name m)
  | int {name nullable} (spelling) :
    Coerced member (.leaf .scalar name nullable) (.int spelling) (.number spelling)
  | float {name nullable} (spelling) :
    Coerced member (.leaf .scalar name nullable) (.float spelling) (.number spelling)
  | string {name nullable} (text) :
    Coerced member (.leaf .scalar name nullable) (.string text) (.text text)
  | boolean {name nullable} (b) :
    Coerced member (.leaf .scalar name nullable) (.boolean b) (.boolean b)

inductive CoercedAll (member : String → String → String → Prop) :
    Descriptor → List Literal → List Value → Prop
  | nil {d} : CoercedAll member d [] []
  | cons {d v value items values} :
    Coerced member d v value → CoercedAll member d items values →
      CoercedAll member d (v :: items) (value :: values)

end

/-- The values that a type admits: lists at its list levels, and nothing where it is nullable. -/
inductive Value.Conforms : Descriptor → Value → Prop
  | none {d} : d.nullable → Value.Conforms d .none
  | list {element nullable values} :
    (∀ value ∈ values, Value.Conforms element value) →
      Value.Conforms (.list element nullable) (.list values)
  | member {name nullable} (m) : Value.Conforms (.leaf .enum name nullable) (.member name m)
  | number {name nullable} (spelling) :
    Value.Conforms (.leaf .scalar name nullable) (.number spelling)
  | text {name nullable} (s) : Value.Conforms (.leaf .scalar name nullable) (.text s)
  | boolean {name nullable} (b) : Value.Conforms (.leaf .scalar name nullable) (.boolean b)

section Relations

variable {declared : String → String → Prop} {member other : String → String → String → Prop}
  {d : Descriptor} {v : Literal} {value : Value}

theorem coercedAll_iff {items : List Literal} {values : List Value} :
    CoercedAll member d items values ↔ List.Forall₂ (Coerced member d) items values := by
  constructor
  · intro h
    induction items generalizing values with
    | nil =>
      cases h
      exact .nil
    | cons v rest ih =>
      cases h with
      | cons hv hrest => exact .cons hv (ih hrest)
  · intro h
    induction h with
    | nil => exact .nil
    | cons hv _ ih => exact .cons hv ih

theorem Coerced.mono (h : Coerced member d v value)
    (hmember : ∀ enum wire m, member enum wire m → other enum wire m) :
    Coerced other d v value := by
  induction d generalizing v value with
  | leaf kind name nullable =>
    cases h with
    | null hnull => exact .null hnull
    | enum hm => exact .enum (hmember _ _ _ hm)
    | int spelling => exact .int spelling
    | float spelling => exact .float spelling
    | string text => exact .string text
    | boolean b => exact .boolean b
  | list element nullable ih =>
    cases h with
    | null hnull => exact .null hnull
    | items hitems =>
      have hother := (coercedAll_iff.mp hitems).imp fun _ _ => ih
      exact .items (coercedAll_iff.mpr hother)
    | single hsingle hone => exact .single hsingle (ih hone)

theorem Coerced.conforms (h : Coerced member d v value) : value.Conforms d := by
  induction d generalizing v value with
  | leaf kind name nullable =>
    cases h with
    | null hnull => exact .none hnull
    | enum hm => exact .member _
    | int spelling => exact .number spelling
    | float spelling => exact .number spelling
    | string text => exact .text text
    | boolean b => exact .boolean b
  | list element nullable ih =>
    cases h with
    | null hnull => exact .none hnull
    | items hitems =>
      refine .list fun value hvalue => ?_
      obtain ⟨item, -, hitem⟩ := exists_of_forall₂_right (coercedAll_iff.mp hitems) hvalue
      exact ih hitem
    | single hsingle hone =>
      refine .list fun value hvalue => ?_
      rw [List.mem_singleton.mp hvalue]
      exact ih hone

/-- A literal has a value just if it fits. -/
theorem fits_iff_exists_coerced
    (hdeclared : ∀ enum wire, declared enum wire ↔ ∃ m, member enum wire m) :
    Fits declared d v ↔ ∃ value, Coerced member d v value := by
  induction d generalizing v with
  | leaf kind name nullable =>
    constructor
    · intro h
      cases h with
      | null hnull => exact ⟨_, .null hnull⟩
      | enum hwire =>
        obtain ⟨m, hm⟩ := (hdeclared _ _).mp hwire
        exact ⟨_, .enum hm⟩
      | int spelling => exact ⟨_, .int spelling⟩
      | float spelling => exact ⟨_, .float spelling⟩
      | string text => exact ⟨_, .string text⟩
      | boolean b => exact ⟨_, .boolean b⟩
    · rintro ⟨value, h⟩
      cases h with
      | null hnull => exact .null hnull
      | enum hm => exact .enum ((hdeclared _ _).mpr ⟨_, hm⟩)
      | int spelling => exact .int spelling
      | float spelling => exact .float spelling
      | string text => exact .string text
      | boolean b => exact .boolean b
  | list element nullable ih =>
    constructor
    · intro h
      cases h with
      | null hnull => exact ⟨_, .null hnull⟩
      | @items _ _ items hitems =>
        have hvalues : ∃ values, CoercedAll member element items values := by
          induction items with
          | nil => exact ⟨[], .nil⟩
          | cons item rest ihrest =>
            obtain ⟨hitem, hrest⟩ := List.forall_mem_cons.mp hitems
            obtain ⟨value, hvalue⟩ := ih.mp hitem
            obtain ⟨values, hvalues⟩ := ihrest hrest
            exact ⟨value :: values, .cons hvalue hvalues⟩
        obtain ⟨values, hvalues⟩ := hvalues
        exact ⟨_, .items hvalues⟩
      | single hsingle hone =>
        obtain ⟨value, hvalue⟩ := ih.mp hone
        exact ⟨_, .single hsingle hvalue⟩
    · rintro ⟨value, h⟩
      cases h with
      | null hnull => exact .null hnull
      | items hitems =>
        refine .items fun item hitem => ?_
        obtain ⟨value, -, hvalue⟩ := exists_of_forall₂_right (coercedAll_iff.mp hitems).flip hitem
        exact ih.mpr ⟨value, hvalue⟩
      | single hsingle hone => exact .single hsingle (ih.mpr ⟨_, hone⟩)

end Relations

/-! ### Coercion -/

/-- The member for a value on the wire. -/
def memberOf? (enums : List Enum) (enum wire : String) : Option String :=
  (enumNamed? enums enum).bind fun e => e.wireToMember.get? wire

theorem coerceLeaf_eq_ok_iff {enums : List Enum} {kind : Kind} {name : String} {nullable : Bool}
    {v : Literal} {value : Value} (hsingle : v.isSingle) :
    coerceLeaf enums kind name v = .ok value ↔
      Coerced (fun enum wire m => memberOf? enums enum wire = some m) (.leaf kind name nullable) v
        value := by
  constructor
  · intro h
    unfold coerceLeaf at h
    split at h
    · split at h
      · rename_i hmember
        obtain rfl := Except.ok.inj h
        exact .enum hmember
      · cases h
    all_goals cases h
    · exact .int _
    · exact .float _
    · exact .string _
    · exact .boolean _
  · intro h
    cases h with
    | null => cases hsingle
    | enum hmember =>
      unfold coerceLeaf
      simp only
      rw [memberOf?] at hmember
      rw [hmember]
    | _ => rfl

theorem coerce_list_of_isSingle (enums : List Enum) (element : Descriptor) (nullable : Bool)
    {v : Literal} (hsingle : v.isSingle) :
    coerce enums (.list element nullable) v =
      (coerce enums element v).map fun item => .list [item] := by
  cases v with
  | null => cases hsingle
  | list items => cases hsingle
  | _ => rfl

theorem coerce_leaf_of_isSingle (enums : List Enum) (kind : Kind) (name : String) (nullable : Bool)
    {v : Literal} (hsingle : v.isSingle) :
    coerce enums (.leaf kind name nullable) v = coerceLeaf enums kind name v := by
  cases v with
  | null => cases hsingle
  | list items => cases hsingle
  | _ => rfl

theorem coerce_null (enums : List Enum) (d : Descriptor) :
    coerce enums d .null = if d.nullable then .ok .none else .error .nullOnNonNull := by
  cases d <;> rfl

theorem isSingle_cases (v : Literal) : v = .null ∨ (∃ items, v = .list items) ∨ v.isSingle := by
  cases v <;> simp [Literal.isSingle]

theorem coerced_null_iff {member : String → String → String → Prop} {d : Descriptor}
    {value : Value} : Coerced member d .null value ↔ d.nullable ∧ value = .none := by
  constructor
  · intro h
    cases h with
    | null hnull => exact ⟨hnull, rfl⟩
    | single hsingle => cases hsingle
  · rintro ⟨hnull, rfl⟩
    exact .null hnull

/-- Coercion computes the value of a literal. -/
theorem coerce_eq_ok_iff {enums : List Enum} {d : Descriptor} {v : Literal} {value : Value} :
    coerce enums d v = .ok value ↔
      Coerced (fun enum wire m => memberOf? enums enum wire = some m) d v value := by
  induction d generalizing v value with
  | leaf kind name nullable =>
    rcases isSingle_cases v with rfl | ⟨items, rfl⟩ | hsingle
    · rw [coerced_null_iff, coerce_null]
      split_ifs with hnull <;> simp [hnull, eq_comm]
    · constructor <;> intro h <;> cases h
    · rw [coerce_leaf_of_isSingle _ _ _ _ hsingle, coerceLeaf_eq_ok_iff hsingle]
  | list element nullable ih =>
    rcases isSingle_cases v with rfl | ⟨items, rfl⟩ | hsingle
    · rw [coerced_null_iff, coerce_null]
      split_ifs with hnull <;> simp [hnull, eq_comm]
    · rw [coerce, map_eq_ok_iff]
      constructor
      · rintro ⟨values, hvalues, rfl⟩
        have hall := (mapM_eq_ok_iff.mp hvalues).imp fun _ _ => ih.mp
        exact .items (coercedAll_iff.mpr hall)
      · intro h
        cases h with
        | items hitems =>
          have hall := (coercedAll_iff.mp hitems).imp fun _ _ => ih.mpr
          exact ⟨_, mapM_eq_ok_iff.mpr hall, rfl⟩
        | single hsingle => cases hsingle
    · rw [coerce_list_of_isSingle _ _ _ hsingle, map_eq_ok_iff]
      constructor
      · rintro ⟨one, hone, rfl⟩
        exact .single hsingle (ih.mp hone)
      · intro h
        cases h with
        | null => cases hsingle
        | items => cases hsingle
        | single _ hone => exact ⟨_, ih.mpr hone, rfl⟩

/-! ### Enums that were built -/

theorem mem_of_enumNamed? {enums : List Enum} {name : String} {e : Enum}
    (h : enumNamed? enums name = some e) : e ∈ enums ∧ e.name = name := by
  obtain ⟨found, hmem, hpair⟩ := List.mem_map.mp (Table.mem_of_get?_ofPairs h)
  obtain ⟨hname, rfl⟩ := Prod.mk.inj hpair
  exact ⟨hmem, hname⟩

/-- A member that was found is one of an enum with the name that was looked up. -/
theorem mem_of_memberOf? {enums : List Enum} {enum wire member : String}
    (h : memberOf? enums enum wire = some member) :
    ∃ e ∈ enums, e.name = enum ∧ ∃ v ∈ e.entries, v.wireName = wire ∧ v.memberName = member := by
  obtain ⟨e, he, hmember⟩ := Option.bind_eq_some_iff.mp h
  obtain ⟨hmem, hname⟩ := mem_of_enumNamed? he
  obtain ⟨v, hv, hpair⟩ := List.mem_map.mp (Table.mem_of_get?_ofPairs hmember)
  obtain ⟨hwire, hmember⟩ := Prod.mk.inj hpair
  exact ⟨e, hmem, hname, v, hv, hwire, hmember⟩

/-- Whether an enum declares a value. -/
def Declares (enums : List Enum) (enum wire : String) : Prop :=
  ∃ e, enumNamed? enums enum = some e ∧ wire ∈ e.entries.map EnumEntry.wireName

/-- Whether a member of an enum goes to the wire as a value. -/
def GoesToWire (enums : List Enum) (enum wire member : String) : Prop :=
  ∃ e, enumNamed? enums enum = some e ∧ e.memberToWire.get? member = some wire

theorem declares_iff_exists_memberOf? {enums : List Enum} {enum wire : String} :
    Declares enums enum wire ↔ ∃ member, memberOf? enums enum wire = some member := by
  have hwire : ∀ e : Enum, (∃ member, e.wireToMember.get? wire = some member) ↔
      wire ∈ e.entries.map EnumEntry.wireName := by
    intro e
    rw [Enum.wireToMember, Table.exists_get?_ofPairs, List.map_map]
    rfl
  unfold Declares memberOf?
  cases enumNamed? enums enum with
  | none => simp
  | some e => simp [← hwire]

/-- No two values of an enum have one member, whatever they are called. -/
theorem goesToWire_of_memberOf? {blocks : List (Block EnumValue)} {enum wire member : String}
    (h : memberOf? (blocks.map Model.buildEnum) enum wire = some member) :
    GoesToWire (blocks.map Model.buildEnum) enum wire member := by
  obtain ⟨e, he, hmember⟩ := Option.bind_eq_some_iff.mp h
  refine ⟨e, he, ?_⟩
  obtain ⟨b, -, rfl⟩ := List.mem_map.mp (mem_of_enumNamed? he).1
  have hentry := Table.mem_of_get?_ofPairs hmember
  have hnodup : (((Model.buildEnum b).entries.map fun v => (v.memberName, v.wireName)).map
      Prod.fst).Nodup := by
    rw [List.map_map]
    exact (Model.buildEntries_memberNames [] b.members).1
  rw [Enum.memberToWire, Table.ofPairs_eq_self hnodup, Table.get?_eq_some_iff hnodup]
  obtain ⟨v, hv, hpair⟩ := List.mem_map.mp hentry
  obtain ⟨rfl, rfl⟩ := Prod.mk.inj hpair
  exact List.mem_map.mpr ⟨v, hv, rfl⟩

theorem defaultExpression_eq_ok_iff {enums : List Enum} {d : Descriptor} {owner field : String}
    {v : Literal} {text : String} :
    defaultExpression enums d owner field v = .ok text ↔
      ∃ value, coerce enums d v = .ok value ∧ text = value.expression := by
  unfold defaultExpression
  cases coerce enums d v <;> simp [eq_comm]

theorem defaultExpression_cases (enums : List Enum) (d : Descriptor) (owner field : String)
    (v : Literal) :
    (∃ text, defaultExpression enums d owner field v = .ok text) ∨
      ∃ reason, defaultExpression enums d owner field v =
        .error (.unsupportedDefault owner field reason) := by
  unfold defaultExpression
  cases coerce enums d v with
  | ok value => exact .inl ⟨_, rfl⟩
  | error misfit => exact .inr ⟨_, rfl⟩

/-- A field that was built has the name and the type of its member. Its default is the text of the
value that the member's literal has at this type, and there is none where the member has none. -/
theorem Model.buildInputField_cases {c : Context} {owner : String} {taken : List String}
    {v : InputValue} {f : Field} (h : buildInputField c owner taken v = .ok f) :
    f.wireName = v.name ∧ f.type = c.resolver.resolve true v.type ∧
      (v.default = none ∧ f.default = none ∨
        ∃ literal value, v.default = some literal ∧ coerce c.enums f.type literal = .ok value ∧
          f.default = some value.expression) := by
  obtain ⟨default, hdefault, rfl⟩ := buildInputField_eq_ok.mp h
  refine ⟨rfl, rfl, ?_⟩
  cases hliteral : v.default with
  | none =>
    rw [hliteral] at hdefault
    exact .inl ⟨rfl, (Except.ok.inj hdefault).symm⟩
  | some literal =>
    rw [hliteral] at hdefault
    obtain ⟨expression, hexpression, rfl⟩ := map_eq_ok_iff.mp hdefault
    obtain ⟨value, hvalue, rfl⟩ := defaultExpression_eq_ok_iff.mp hexpression
    exact .inr ⟨literal, value, rfl, hvalue, rfl⟩

/-- A default is accepted just if it fits its field, and refused as unsupported otherwise. Its text
writes the value of the literal: single literals become lists at every list level, and a value of an
enum becomes the member that goes to the wire as this value. -/
theorem defaultExpression_fits (blocks : List (Block EnumValue)) (d : Descriptor) (v : Literal)
    (owner field : String) :
    let enums := blocks.map Model.buildEnum
    (Fits (Declares enums) d v ↔ ∃ text, defaultExpression enums d owner field v = .ok text) ∧
      (¬ Fits (Declares enums) d v → ∃ reason, defaultExpression enums d owner field v =
        .error (.unsupportedDefault owner field reason)) ∧
      ∀ text, defaultExpression enums d owner field v = .ok text →
        ∃ value, Coerced (GoesToWire enums) d v value ∧ value.Conforms d ∧
          text = value.expression := by
  intro enums
  have hfits : Fits (Declares enums) d v ↔
      ∃ text, defaultExpression enums d owner field v = .ok text := by
    rw [fits_iff_exists_coerced fun _ _ => declares_iff_exists_memberOf?]
    constructor
    · rintro ⟨value, hvalue⟩
      exact ⟨_, defaultExpression_eq_ok_iff.mpr ⟨value, coerce_eq_ok_iff.mpr hvalue, rfl⟩⟩
    · rintro ⟨text, htext⟩
      obtain ⟨value, hvalue, -⟩ := defaultExpression_eq_ok_iff.mp htext
      exact ⟨value, coerce_eq_ok_iff.mp hvalue⟩
  refine ⟨hfits, fun hmisfit => ?_, fun text htext => ?_⟩
  · rcases defaultExpression_cases enums d owner field v with hok | herror
    · exact absurd (hfits.mpr hok) hmisfit
    · exact herror
  · obtain ⟨value, hvalue, rfl⟩ := defaultExpression_eq_ok_iff.mp htext
    have hcoerced := (coerce_eq_ok_iff.mp hvalue).mono fun _ _ _ => goesToWire_of_memberOf?
    exact ⟨value, hcoerced, hcoerced.conforms, rfl⟩

/-- A single value and a null among the rows of a table of enum values. -/
theorem defaultExpression_fits_table :
    let enums := [(⟨"State", none, [⟨"active", none⟩, ⟨"ACTIVE", none⟩]⟩ : Block EnumValue)].map
      Model.buildEnum
    let table := Descriptor.list (.list (.leaf .enum "State" false) true) false
    let rows := Literal.list [.enum "ACTIVE", .null, .list [.enum "active"]]
    Fits (Declares enums) table rows ∧
      defaultExpression enums table "Input" "rows" rows =
        .ok "[[State.ACTIVE_2], None, [State.ACTIVE]]" ∧
      ∃ reason, defaultExpression enums table "Input" "rows" (.enum "GONE") =
        .error (.unsupportedDefault "Input" "rows" reason) := by
  intro enums table rows
  have htext : defaultExpression enums table "Input" "rows" rows =
      .ok "[[State.ACTIVE_2], None, [State.ACTIVE]]" := by decide +kernel
  have hgone : ¬ ∃ text, defaultExpression enums table "Input" "rows" (.enum "GONE") = .ok text := by
    have hnone : (defaultExpression enums table "Input" "rows" (.enum "GONE")).toOption = none := by
      decide +kernel
    rintro ⟨text, h⟩
    rw [h] at hnone
    cases hnone
  obtain ⟨hfits, -⟩ := defaultExpression_fits [⟨"State", none, [⟨"active", none⟩, ⟨"ACTIVE", none⟩]⟩]
    table rows "Input" "rows"
  obtain ⟨hnofit, herror, -⟩ := defaultExpression_fits
    [⟨"State", none, [⟨"active", none⟩, ⟨"ACTIVE", none⟩]⟩] table (.enum "GONE") "Input" "rows"
  exact ⟨hfits.mpr ⟨_, htext⟩, htext, herror fun h => hgone (hnofit.mp h)⟩

end SchemaClient
