import SchemaClient.Proofs.First
import SchemaClient.Proofs.Model.Order

/-! What becomes of a document: a conflict of names comes first, then the first default that does not
fit its field, and nothing else stands in the way of a model. -/
namespace SchemaClient

open Sdl

/-! ### Defaults that fit -/

/-- Whether an enum of the document declares a value. -/
def Schema.Document.DeclaresValue (d : Document) (enum wire : String) : Prop :=
  ∃ b ∈ d.enums, b.name = enum ∧ wire ∈ b.members.map EnumValue.name

/-- Whether the default of an input field, if it has one, fits the type of the field. -/
def Schema.Document.DefaultFits (d : Document) (f : InputValue) : Prop :=
  ∀ v ∈ f.default, Fits d.DeclaresValue ((Resolver.ofDocument d).resolve true f.type) v

/-- The fields of all input types in their order, each with the name of its type. -/
def inputFields (blocks : List (Block InputValue)) : List (String × InputValue) :=
  blocks.flatMap fun b => b.members.map fun f => (b.name, f)

theorem Fits.mono {declared other : String → String → Prop} {type : Descriptor} {v : Literal}
    (h : Fits declared type v) (hdeclared : ∀ enum wire, declared enum wire → other enum wire) :
    Fits other type v := by
  induction h with
  | null hnull => exact .null hnull
  | items _ ih => exact .items ih
  | single hsingle _ ih => exact .single hsingle ih
  | enum hwire => exact .enum (hdeclared _ _ hwire)
  | int spelling => exact .int spelling
  | float spelling => exact .float spelling
  | string text => exact .string text
  | boolean b => exact .boolean b

theorem Schema.Document.declares_iff {d : Document} (hnames : (d.enums.map Block.name).Nodup)
    {enum wire : String} :
    Declares (d.enums.map Model.buildEnum) enum wire ↔ d.DeclaresValue enum wire := by
  have hnodup : ((d.enums.map Model.buildEnum).map Enum.name).Nodup := by
    rw [List.map_map]
    exact hnames
  have hwires : ∀ b, (Model.buildEnum b).entries.map EnumEntry.wireName =
      b.members.map EnumValue.name := fun b => Model.buildEntries_wireNames [] b.members
  constructor
  · rintro ⟨e, he, hwire⟩
    obtain ⟨hmem, hname⟩ := (enumNamed?_eq_some_iff hnodup).mp he
    obtain ⟨b, hb, rfl⟩ := List.mem_map.mp hmem
    exact ⟨b, hb, hname, hwires b ▸ hwire⟩
  · rintro ⟨b, hb, hname, hwire⟩
    have hmem : Model.buildEnum b ∈ d.enums.map Model.buildEnum := List.mem_map_of_mem hb
    exact ⟨_, (enumNamed?_eq_some_iff hnodup).mpr ⟨hmem, hname⟩, (hwires b).symm ▸ hwire⟩

theorem defaultExpression_outcome (enums : List Enum) (type : Descriptor) (owner field : String)
    (v : Literal) :
    Fits (Declares enums) type v ∧ (∃ text, defaultExpression enums type owner field v = .ok text) ∨
      ¬Fits (Declares enums) type v ∧ ∃ reason, defaultExpression enums type owner field v =
        .error (.unsupportedDefault owner field reason) := by
  rw [fits_iff_exists_coerced fun _ _ => declares_iff_exists_memberOf?]
  simp only [← coerce_eq_ok_iff]
  unfold defaultExpression
  cases coerce enums type v with
  | ok value => exact .inl ⟨⟨value, rfl⟩, _, rfl⟩
  | error misfit => exact .inr ⟨fun ⟨_, h⟩ => (nomatch h), _, rfl⟩

namespace Model

/-! ### Input types -/

theorem buildInputField_of_default {c : Context} {f : InputValue} {v : Literal}
    (h : f.default = some v) (owner : String) (taken : List String) :
    buildInputField c owner taken f =
      (defaultExpression c.enums (c.resolver.resolve true f.type) owner f.name v).map fun text =>
        { name := allocate c.reserved taken f.name false
          wireName := f.name
          type := c.resolver.resolve true f.type
          default := some text
          description := f.description } := by
  unfold buildInputField
  rw [h]
  show Except.bind (Except.map some (defaultExpression c.enums _ owner f.name v)) _ = _
  cases defaultExpression c.enums (c.resolver.resolve true f.type) owner f.name v <;> rfl

section Inputs

variable {d : Schema.Document} (hnames : (d.enums.map Block.name).Nodup) (scalars : ScalarRegistry)

include hnames

theorem buildInputField_outcome (owner : String) (taken : List String) (f : InputValue) :
    d.DefaultFits f ∧ (∃ built, buildInputField (context d scalars) owner taken f = .ok built) ∨
      ¬d.DefaultFits f ∧ ∃ reason, buildInputField (context d scalars) owner taken f =
        .error (.unsupportedDefault owner f.name reason) := by
  cases hdefault : f.default with
  | none =>
    refine .inl ⟨by simp [Schema.Document.DefaultFits, hdefault], ?_⟩
    unfold buildInputField
    rw [hdefault]
    exact ⟨_, rfl⟩
  | some v =>
    have hfits : Fits (Declares (context d scalars).enums)
        ((context d scalars).resolver.resolve true f.type) v ↔ d.DefaultFits f := by
      unfold Schema.Document.DefaultFits
      rw [hdefault]
      simp only [Option.mem_some_iff, forall_eq']
      exact ⟨fun h => h.mono fun _ _ => (d.declares_iff hnames).mp,
        fun h => h.mono fun _ _ => (d.declares_iff hnames).mpr⟩
    rw [buildInputField_of_default hdefault, ← hfits]
    rcases defaultExpression_outcome (context d scalars).enums
      ((context d scalars).resolver.resolve true f.type) owner f.name v with
      ⟨hv, text, htext⟩ | ⟨hv, reason, hreason⟩
    · rw [htext]
      exact .inl ⟨hv, _, rfl⟩
    · rw [hreason]
      exact .inr ⟨hv, reason, rfl⟩

theorem buildInputFields_outcome (owner : String) (taken : List String)
    (members : List InputValue) :
    (∀ f ∈ members, d.DefaultFits f) ∧
        (∃ fields, (buildInputFields (context d scalars) owner taken members).result = .ok fields) ∨
      ∃ f reason, IsFirst (fun f => ¬d.DefaultFits f) members f ∧
        (buildInputFields (context d scalars) owner taken members).result =
          .error (.unsupportedDefault owner f.name reason) := by
  induction members generalizing taken with
  | nil => exact .inl ⟨by simp, [], rfl⟩
  | cons f rest ih =>
    simp only [buildInputFields, Traced.result_bind, Traced.result_liftM, Traced.result_tell,
      Traced.result_pure, isFirst_cons, List.forall_mem_cons]
    rcases buildInputField_outcome hnames scalars owner taken f with
      ⟨hf, built, hbuilt⟩ | ⟨hf, reason, hreason⟩
    · rw [hbuilt]
      rcases ih (takenBy built false ++ taken) with ⟨hrest, fields, hfields⟩ | ⟨g, reason, hg, hreason⟩
      · refine .inl ⟨⟨hf, hrest⟩, built :: fields, ?_⟩
        simp only [Except.bind, hfields]
      · refine .inr ⟨g, reason, .inr ⟨not_not_intro hf, hg⟩, ?_⟩
        simp only [Except.bind, hreason]
    · rw [hreason]
      exact .inr ⟨f, reason, .inl ⟨hf, rfl⟩, rfl⟩

theorem buildInputs_outcome (blocks : List (Block InputValue)) :
    (∀ p ∈ inputFields blocks, d.DefaultFits p.2) ∧
        (∃ inputs, (blocks.mapM (buildInput (context d scalars))).result = .ok inputs) ∨
      ∃ p reason, IsFirst (fun p => ¬d.DefaultFits p.2) (inputFields blocks) p ∧
        (blocks.mapM (buildInput (context d scalars))).result =
          .error (.unsupportedDefault p.1 p.2.name reason) := by
  induction blocks with
  | nil => exact .inl ⟨by simp [inputFields], [], rfl⟩
  | cons b rest ih =>
    have hfields : inputFields (b :: rest) =
        b.members.map (fun f => (b.name, f)) ++ inputFields rest := List.flatMap_cons
    simp only [List.mapM_cons, buildInput, Traced.result_bind, Traced.result_pure, hfields,
      isFirst_append, isFirst_map, List.forall_mem_append, List.forall_mem_map]
    rcases buildInputFields_outcome hnames scalars b.name [] b.members with
      ⟨hb, built, hbuilt⟩ | ⟨f, reason, hf, hreason⟩
    · rw [hbuilt]
      rcases ih with ⟨hrest, inputs, hinputs⟩ | ⟨p, reason, hp, hreason⟩
      · refine .inl ⟨⟨hb, hrest⟩, ?_⟩
        simp only [Except.bind, hinputs]
        exact ⟨_, rfl⟩
      · refine .inr ⟨p, reason, .inr ⟨?_, hp⟩, ?_⟩
        · exact fun f hf => not_not_intro (hb f hf)
        · simp only [Except.bind, hreason]
    · rw [hreason]
      exact .inr ⟨(b.name, f), reason, .inl ⟨f, hf, rfl⟩, rfl⟩

end Inputs

/-! ### Names -/

section Names

variable (own : List String) (client : String) (names : List String)

/-- A type cannot be called like something of the module itself or like the client. -/
def Conflicts (name : String) : Prop :=
  name ∈ own ∨ name = client

/-- The name that is reported: the client's if it is at fault, else the first of the types'. -/
def Reported (name : String) : Prop :=
  client ∈ own ∧ name = client ∨ client ∉ own ∧ IsFirst (Conflicts own client) names name

def conflictOf (name : String) : String :=
  if name ∈ own then moduleConflict else clientConflict

theorem exists_reported_iff :
    (∃ name, Reported own client names name) ↔
      client ∈ own ∨ ∃ name ∈ names, Conflicts own client name := by
  unfold Reported
  by_cases hclient : client ∈ own
  · simp [hclient]
  · simp [hclient, exists_isFirst]

theorem conflict?_outcome (name : String) :
    ¬Conflicts own client name ∧ conflict? own client name = none ∨
      Conflicts own client name ∧
        conflict? own client name = some (.nameConflict name (conflictOf own name)) := by
  unfold Conflicts conflict? conflictOf
  by_cases hown : name ∈ own
  · simp [hown]
  · by_cases hclient : name = client
    · subst hclient
      simp [hown]
    · simp [hown, hclient]

theorem conflict?_eq_none_iff (name : String) :
    conflict? own client name = none ↔ ¬Conflicts own client name := by
  rcases conflict?_outcome own client name with ⟨h, hnone⟩ | ⟨h, hsome⟩ <;> simp [*]

theorem checkNames_outcome :
    (∀ name, ¬Reported own client names name) ∧ checkNames own client names = .ok () ∨
      ∃ name, Reported own client names name ∧
        checkNames own client names = .error (.nameConflict name (conflictOf own name)) := by
  unfold checkNames
  by_cases hclient : client ∈ own
  · refine .inr ⟨client, .inl ⟨hclient, rfl⟩, ?_⟩
    simp [hclient, conflictOf]
  · rw [if_neg (by simpa using hclient)]
    cases hfind : names.findSome? (conflict? own client) with
    | none =>
      have hnone := List.findSome?_eq_none_iff.mp hfind
      refine .inl ⟨fun name hname => ?_, rfl⟩
      obtain ⟨-, hfirst⟩ := hname.resolve_left fun h => hclient h.1
      exact (conflict?_eq_none_iff own client name).mp (hnone name hfirst.mem) hfirst.prop
    | some e =>
      obtain ⟨before, name, after, hsplit, hname, hbefore⟩ := List.findSome?_eq_some_iff.mp hfind
      rcases conflict?_outcome own client name with ⟨-, hnone⟩ | ⟨hconflicts, hsome⟩
      · cases hnone.symm.trans hname
      · obtain rfl := Option.some.inj (hsome.symm.trans hname)
        refine .inr ⟨name, .inr ⟨hclient, before, after, hsplit, hconflicts, fun b hb => ?_⟩, rfl⟩
        exact (conflict?_eq_none_iff own client b).mp (hbefore b hb)

end Names

/-! ### The whole model -/

/-- A build fails for a name, or else for a default, or else it succeeds. -/
theorem build_cases {d : Schema.Document} (hnames : (d.enums.map Block.name).Nodup)
    (scalars : ScalarRegistry) (namespaceName : String) (clientName : Option String) :
    let own := moduleNames d scalars
    let client := effectiveClientName clientName
    let result := (build d scalars namespaceName clientName).result
    (∃ name, Reported own client (typeNames d) name ∧
        result = .error (.nameConflict name (conflictOf own name))) ∨
      (∀ name, ¬Reported own client (typeNames d) name) ∧
        ((∃ p reason, IsFirst (fun p => ¬d.DefaultFits p.2) (inputFields d.inputs) p ∧
            result = .error (.unsupportedDefault p.1 p.2.name reason)) ∨
          (∀ p ∈ inputFields d.inputs, d.DefaultFits p.2) ∧ ∃ m, result = .ok m) := by
  intro own client result
  have hresult : result = (build d scalars namespaceName clientName).result := rfl
  simp only [build, Traced.result_bind, Traced.result_liftM, Traced.result_tell,
    Traced.result_pure] at hresult
  rcases checkNames_outcome own client (typeNames d) with ⟨hnone, hcheck⟩ | ⟨name, hname, hcheck⟩
  · refine .inr ⟨hnone, ?_⟩
    rcases buildInputs_outcome hnames scalars d.inputs with
      ⟨hfits, inputs, hinputs⟩ | ⟨p, reason, hp, hreason⟩
    · refine .inr ⟨hfits, ?_⟩
      rw [hresult, hcheck]
      simp only [Except.bind, hinputs]
      exact ⟨_, rfl⟩
    · refine .inl ⟨p, reason, hp, ?_⟩
      rw [hresult, hcheck]
      simp only [Except.bind, hreason]
  · refine .inl ⟨name, hname, ?_⟩
    rw [hresult, hcheck]
    rfl

end Model

/-- Building the model of a text that could be read fails for a name just if the client is called
like something of the module, or a type like something of the module or like the client; the client
is reported first, then the first type at fault. It fails for a default just if names are not in
conflict and some default does not fit its field, and reports the first of these fields. It fails in
no other way. -/
theorem build_outcome {sdl : String} {d : Schema.Document} (hd : (Schema.read sdl).result = .ok d)
    (scalars : ScalarRegistry) (namespaceName : String) (clientName : Option String) :
    let own := Model.moduleNames d scalars
    let client := Model.effectiveClientName clientName
    let conflicting := client ∈ own ∨ ∃ name ∈ Model.typeNames d, name ∈ own ∨ name = client
    let result := (Model.build d scalars namespaceName clientName).result
    ((∃ name conflict, result = .error (.nameConflict name conflict)) ↔ conflicting) ∧
    (∀ name conflict, result = .error (.nameConflict name conflict) →
      (client ∈ own → name = client) ∧
      (client ∉ own →
        IsFirst (fun name => name ∈ own ∨ name = client) (Model.typeNames d) name) ∧
      conflict = if name ∈ own then Model.moduleConflict else Model.clientConflict) ∧
    (∀ owner field, (∃ reason, result = .error (.unsupportedDefault owner field reason)) ↔
      ¬conflicting ∧ ∃ f, f.name = field ∧
        IsFirst (fun p => ¬d.DefaultFits p.2) (inputFields d.inputs) (owner, f)) ∧
    ((∃ m, result = .ok m) ↔
      ¬conflicting ∧ ∀ p ∈ inputFields d.inputs, d.DefaultFits p.2) ∧
    ∀ e, result = .error e →
      (∃ name conflict, e = .nameConflict name conflict) ∨
        ∃ owner field reason, e = .unsupportedDefault owner field reason := by
  intro own client conflicting result
  have hconflicting : conflicting ↔ ∃ name, Model.Reported own client (Model.typeNames d) name :=
    (Model.exists_reported_iff own client (Model.typeNames d)).symm
  have hclear : (∀ name, ¬Model.Reported own client (Model.typeNames d) name) → ¬conflicting :=
    fun hnone h => (hconflicting.mp h).elim hnone
  have hnames := (Schema.distinct_of_read hd).enums.names
  rcases Model.build_cases hnames scalars namespaceName clientName with
    ⟨name, hname, hresult⟩ | ⟨hnone, ⟨p, reason, hp, hresult⟩ | ⟨hfits, m, hresult⟩⟩
  · have hclash : conflicting := hconflicting.mpr ⟨name, hname⟩
    refine ⟨⟨fun _ => hclash, fun _ => ⟨_, _, hresult⟩⟩, fun other conflict h => ?_,
      fun owner field => ⟨fun ⟨_, h⟩ => ?_, fun h => absurd hclash h.1⟩,
      ⟨fun ⟨_, h⟩ => ?_, fun h => absurd hclash h.1⟩, fun e h => ?_⟩
    all_goals cases hresult.symm.trans h
    · refine ⟨fun hclient => ?_, fun hclient => ?_, rfl⟩
      · exact (hname.resolve_right fun h => h.1 hclient).2
      · exact (hname.resolve_left fun h => hclient h.1).2
    · exact .inl ⟨_, _, rfl⟩
  · have hfield : ∀ owner f, IsFirst (fun p => ¬d.DefaultFits p.2) (inputFields d.inputs) (owner, f) →
        result = .error (.unsupportedDefault owner f.name reason) := by
      intro owner f hf
      obtain rfl := hp.unique hf
      exact hresult
    refine ⟨⟨fun ⟨_, _, h⟩ => ?_, fun h => absurd h (hclear hnone)⟩, fun _ _ h => ?_,
      fun owner field => ⟨fun ⟨_, h⟩ => ?_, fun ⟨_, f, hname, hf⟩ =>
        ⟨reason, hname ▸ hfield owner f hf⟩⟩,
      ⟨fun ⟨_, h⟩ => ?_, fun ⟨_, h⟩ => absurd (h p hp.mem) hp.prop⟩, fun e h => ?_⟩
    all_goals cases hresult.symm.trans h
    · exact ⟨hclear hnone, p.2, rfl, hp⟩
    · exact .inr ⟨_, _, _, rfl⟩
  · refine ⟨⟨fun ⟨_, _, h⟩ => ?_, fun h => absurd h (hclear hnone)⟩, fun _ _ h => ?_,
      fun owner field => ⟨fun ⟨_, h⟩ => ?_, fun ⟨_, f, _, hf⟩ => absurd (hfits _ hf.mem) hf.prop⟩,
      ⟨fun _ => ⟨hclear hnone, hfits⟩, fun _ => ⟨m, hresult⟩⟩, fun e h => ?_⟩
    all_goals cases hresult.symm.trans h

/-- Two types with defaults that do not fit, behind one that does. -/
def twoMisfits : String :=
  "schema\x7bquery:Q\x7d type Q\x7ba:Int\x7d input I\x7ba:[E!]=A b:E=B\x7d" ++
    "input J\x7bc:Int=[1]\x7d enum E\x7bA\x7d"

/-- A client that is called like the third type is in conflict with it, and the defaults are not looked
at then. -/
theorem build_outcome_twoMisfits :
    ∃ d, (Schema.read twoMisfits).result = .ok d ∧
      ((Model.build d .standard "Demo" (some "J")).result =
          .error (.nameConflict "J" Model.clientConflict) ∧
        IsFirst (fun name => name ∈ Model.moduleNames d .standard ∨ name = "J")
          (Model.typeNames d) "J") ∧
      (Model.build d .standard "Demo" none).result =
        .error (.unsupportedDefault "I" "b" "'B' is not a value of E") ∧
      ∃ f, f.name = "b" ∧
        IsFirst (fun p => ¬d.DefaultFits p.2) (inputFields d.inputs) ("I", f) := by
  have hview : ((Schema.read twoMisfits).result.toOption.map fun d =>
      (decide ("J" ∈ Model.moduleNames d .standard),
        errorOf? (Model.build d .standard "Demo" (some "J")).result,
        errorOf? (Model.build d .standard "Demo" none).result)) =
      some (false, some (.nameConflict "J" Model.clientConflict),
        some (.unsupportedDefault "I" "b" "'B' is not a value of E")) := by decide +kernel
  obtain ⟨d, hd, hview⟩ := Option.map_eq_some_iff.mp hview
  have hd := toOption_eq_some_iff.mp hd
  simp only [Prod.mk.injEq, decide_eq_false_iff_not, errorOf?_eq_some_iff] at hview
  obtain ⟨hclient, hconflict, hmisfit⟩ := hview
  obtain ⟨-, hname, -⟩ := build_outcome hd .standard "Demo" (some "J")
  obtain ⟨-, -, hdefault, -⟩ := build_outcome hd .standard "Demo" none
  exact ⟨d, hd, ⟨hconflict, (hname _ _ hconflict).2.1 hclient⟩, hmisfit,
    ((hdefault "I" "b").mp ⟨_, hmisfit⟩).2⟩

end SchemaClient
