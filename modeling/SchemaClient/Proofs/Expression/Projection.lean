import Mathlib
import SchemaClient.Module.Member
import SchemaClient.Proofs.Expression.Reading
import SchemaClient.Proofs.Name.Fresh

/-! Evaluating an expression: what the body of an accessor makes of a value, and which objects its
selector is applied to. -/
namespace SchemaClient.Expression

/-! ### Values -/

inductive Datum where
  | none
  | truth (b : Bool)
  | text (s : String)
  | list (items : List Datum)
  | record (attributes : List (String × Datum))
deriving Repr

namespace Datum

def isNone : Datum → Bool
  | none => true
  | _ => false

def attribute? (v : Datum) (name : String) : Option Datum :=
  match v with
  | record attributes => attributes.lookup name
  | _ => Option.none

end Datum

/-- What a name stands for. -/
inductive Meaning where
  | value (v : Datum)
  | function (g : Datum → Datum)

abbrev Scope := String → Option Meaning

/-- An evaluation that may be undefined and records the arguments of all calls, first to last. -/
abbrev Run := StateT (List Datum) Option

/-! ### Evaluation -/

def valueOf : Option Meaning → Run Datum
  | some (.value v) => return v
  | _ => failure

def apply (function : Option Meaning) (v : Datum) : Run Datum :=
  match function with
  | some (.function g) => do
    modify (· ++ [v])
    return g v
  | _ => failure

/-- Two values are told apart here only where one of them is absent. -/
def differ (v w : Datum) : Run Datum :=
  match w with
  | .none => return .truth !v.isNone
  | _ => failure

def eval (scope : Scope) : Term → Run Datum
  | .none => return .none
  | .name x => valueOf (scope x)
  | .member object a => do
    match (← eval scope object).attribute? a with
    | some v => return v
    | Option.none => failure
  | .call (.name f) argument => do apply (scope f) (← eval scope argument)
  | .call _ _ => failure
  | .isNot left right => do differ (← eval scope left) (← eval scope right)
  | .conditional value test otherwise => do
    match ← eval scope test with
    | .truth true => eval scope value
    | .truth false => eval scope otherwise
    | _ => failure
  | .comprehension body item source => do
    match ← eval scope source with
    | .list items =>
      return .list (← items.mapM fun v => eval (Function.update scope item (some (.value v))) body)
    | _ => failure

end SchemaClient.Expression

namespace SchemaClient.Descriptor

open Expression (Datum)

/-! ### Projections of values -/

/-- Absent values stand at nullable levels only, and lists at all list levels. -/
def admits : Descriptor → Datum → Bool
  | d, .none => d.nullable
  | leaf .., _ => true
  | list element _, .list items => items.all element.admits
  | list .., _ => false

/-- The value with `g` applied to the objects in it. -/
def mapObjects (g : Datum → Datum) : Descriptor → Datum → Datum
  | _, .none => .none
  | leaf .object _ _, v => g v
  | leaf .., v => v
  | list element _, .list items => .list (items.map (element.mapObjects g))
  | list .., v => v

/-- The objects in a value, first to last. -/
def objects : Descriptor → Datum → List Datum
  | _, .none => []
  | leaf .object _ _, v => [v]
  | leaf .., _ => []
  | list element _, .list items => items.flatMap element.objects
  | list .., _ => []

end SchemaClient.Descriptor

namespace SchemaClient.Expression

/-! ### What a run gives -/

/-- The evaluation is defined, has the value `v` and makes these calls. -/
def Gives (r : Run Datum) (v : Datum) (calls : List Datum) : Prop :=
  ∀ log, r.run log = some (v, log ++ calls)

variable {scope : Scope} {t e : Term} {v w : Datum} {calls : List Datum}

theorem gives_name {x : String} (h : scope x = some (.value v)) :
    Gives (eval scope (.name x)) v [] := by
  intro log
  simp [eval, h, valueOf]

theorem gives_member {a : String} (h : Gives (eval scope t) v calls)
    (ha : v.attribute? a = some w) : Gives (eval scope (.member t a)) w calls := by
  intro log
  simp [eval, h log, ha]

theorem gives_call {f : String} {g : Datum → Datum} (hf : scope f = some (.function g))
    (h : Gives (eval scope t) v calls) :
    Gives (eval scope (.call (.name f) t)) (g v) (calls ++ [v]) := by
  intro log
  simp [eval, h log, hf, apply]

theorem gives_absent (h : Gives (eval scope t) v []) (hv : v.isNone) :
    Gives (eval scope (.conditional e (.isNot t .none) .none)) .none [] := by
  intro log
  have hlog := h log
  simp only [List.append_nil] at hlog
  simp [eval, hlog, differ, hv]

theorem gives_present (h : Gives (eval scope t) v []) (hv : v.isNone = false)
    (he : Gives (eval scope e) w calls) :
    Gives (eval scope (.conditional e (.isNot t .none) .none)) w calls := by
  intro log
  have hlog := h log
  simp only [List.append_nil] at hlog
  simp [eval, hlog, differ, hv, he log]

theorem gives_mapM {items : List Datum} {run : Datum → Run Datum} {value : Datum → Datum}
    {calls : Datum → List Datum} (h : ∀ v ∈ items, Gives (run v) (value v) (calls v)) :
    ∀ log, (items.mapM run).run log = some (items.map value, log ++ items.flatMap calls) := by
  induction items with
  | nil => simp
  | cons v items ih =>
    intro log
    have hhead := h v (by simp) log
    have htail := ih (fun w hw => h w (by simp [hw])) (log ++ calls v)
    simp [hhead, htail]

theorem gives_each {items : List Datum} {item : String} {value : Datum → Datum}
    {calls : Datum → List Datum} (h : Gives (eval scope t) (.list items) [])
    (hbody : ∀ v ∈ items,
      Gives (eval (Function.update scope item (some (.value v))) e) (value v) (calls v)) :
    Gives (eval scope (.comprehension e item t)) (.list (items.map value))
      (items.flatMap calls) := by
  intro log
  have hlog := h log
  simp only [List.append_nil] at hlog
  simp [eval, hlog, gives_mapM hbody log]

theorem gives_guarded {n : Bool} {subject value : Expr} (hsubject : Reads false subject t)
    (hvalue : Reads false value e) :
    ∃ loose e', Reads loose (if n then .ifPresent subject value else value) e' ∧
      ∀ scope v w calls, Gives (eval scope t) v [] → (v.isNone → n) →
        (v.isNone = false → Gives (eval scope e) w calls) →
        Gives (eval scope e') (if v.isNone then .none else w) (if v.isNone then [] else calls) := by
  cases n with
  | false =>
    refine ⟨false, e, hvalue, fun scope v w calls _ hnone hgives => ?_⟩
    cases hv : v.isNone with
    | true => exact absurd (hnone hv) (by decide)
    | false => exact hgives hv
  | true =>
    refine ⟨true, _, .ifPresent hsubject hvalue, fun scope v w calls hsub _ hgives => ?_⟩
    cases hv : v.isNone with
    | true => exact gives_absent hsub hv
    | false => exact gives_present hsub hv (hgives hv)

/-! ### Names in projections -/

theorem isIdentifierPart_of_digit {c : Char} (h : c.isDigit) : Text.isIdentifierPart c := by
  have hascii : c.toNat < 128 := by
    have hle : c.val ≤ '9'.val := (Bool.and_eq_true_iff.mp h).2 |> of_decide_eq_true
    have : c.toNat ≤ '9'.toNat := hle
    exact lt_of_le_of_lt this (by decide)
  simp [Text.isIdentifierPart, hascii, Char.isAlphanum, h]

theorem toString_parts (k : Nat) : ∀ c ∈ (toString k).toList, Text.isIdentifierPart c :=
  fun _ hc => isIdentifierPart_of_digit (Name.isDigit_of_mem_toString hc)

theorem isIdentifier_append {w rest : List Char} (h : Text.isIdentifier w)
    (hrest : ∀ c ∈ rest, Text.isIdentifierPart c) : Text.isIdentifier (w ++ rest) := by
  cases w with
  | nil => exact absurd h (by decide)
  | cons c cs =>
    rw [Text.isIdentifier, Bool.and_eq_true, List.all_eq_true] at h
    simp only [List.cons_append, Text.isIdentifier, Bool.and_eq_true, List.all_eq_true,
      List.forall_mem_append]
    exact ⟨h.1, h.2, hrest⟩

theorem isName_append {w : String} (hw : Text.isIdentifier w.toList)
    (hkeywords : ∀ k ∈ Name.keywords, ¬w.toList <+: k.toList) {rest : String}
    (hrest : ∀ c ∈ rest.toList, Text.isIdentifierPart c) : isName (w ++ rest) := by
  have hid : Text.isIdentifier (w ++ rest).toList := by
    rw [String.toList_append]
    exact isIdentifier_append hw hrest
  have hnot : w ++ rest ∉ Name.keywords := by
    intro hmem
    refine hkeywords _ hmem ?_
    rw [String.toList_append]
    exact List.prefix_append _ _
  rw [isName, hid]
  simp [hnot]

theorem isName_itemName (depth : Nat) : isName (itemName depth) := by
  unfold itemName
  split_ifs with h
  · decide
  · exact isName_append (by decide) (by decide) (toString_parts depth)

theorem isName_backing {name : String} (h : ∀ c ∈ name.toList, Text.isIdentifierPart c) :
    isName (Field.backing name) :=
  isName_append (by decide) (by decide) h

theorem selectorName_eq (arguments : List String) :
    Module.selectorName arguments = "selector" ∨ Module.selectorName arguments = "field_selector" ∨
      ∃ k : Nat, Module.selectorName arguments = "field_selector_" ++ toString k := by
  unfold Module.selectorName
  split_ifs with h
  · have hstem : Name.stem "field_selector" = "field_selector" := by decide
    rcases Name.fresh_eq _ "field_selector" _ with heq | ⟨k, heq⟩
    · exact .inr (.inl heq)
    · rw [hstem, Name.numbered] at heq
      exact .inr (.inr ⟨k, heq⟩)
  · exact .inl rfl

theorem isName_selectorName (arguments : List String) :
    isName (Module.selectorName arguments) := by
  rcases selectorName_eq arguments with h | h | ⟨k, h⟩
  · rw [h]; decide
  · rw [h]; decide
  · rw [h]
    exact isName_append (by decide) (by decide) (toString_parts k)

theorem head?_itemName (depth : Int) : (itemName depth).toList.head? = some 'i' := by
  unfold itemName
  split_ifs
  · decide
  · simp

theorem head?_selectorName (arguments : List String) :
    (Module.selectorName arguments).toList.head? ≠ some 'i' := by
  rcases selectorName_eq arguments with h | h | ⟨k, h⟩
  · rw [h]; decide
  · rw [h]; decide
  · rw [h]; simp

theorem selectorName_ne_itemName (arguments : List String) (depth : Int) :
    Module.selectorName arguments ≠ itemName depth := by
  intro h
  exact head?_selectorName arguments (h ▸ head?_itemName depth)

end SchemaClient.Expression

namespace SchemaClient.Descriptor

open Expression

/-! ### Projections -/

theorem requiresSelector_leaf (kind : Kind) (name : String) (n : Bool) :
    (leaf kind name n).requiresSelector = decide (kind = .object) :=
  rfl

theorem requiresSelector_list (element : Descriptor) (n : Bool) :
    (list element n).requiresSelector = element.requiresSelector :=
  rfl

theorem mapObjects_plain (g : Datum → Datum) {d : Descriptor} (h : d.requiresSelector = false)
    (v : Datum) : d.mapObjects g v = v := by
  induction d generalizing v with
  | leaf kind name n => cases kind <;> cases v <;> simp_all [requiresSelector_leaf, mapObjects]
  | list element n ih =>
    rw [requiresSelector_list] at h
    cases v with
    | list items =>
      have hid : element.mapObjects g = id := funext (ih h)
      simp [mapObjects, hid]
    | _ => rfl

theorem objects_plain {d : Descriptor} (h : d.requiresSelector = false) (v : Datum) :
    d.objects v = [] := by
  induction d generalizing v with
  | leaf kind name n => cases kind <;> cases v <;> simp_all [requiresSelector_leaf, objects]
  | list element n ih =>
    rw [requiresSelector_list] at h
    cases v with
    | list items => simp [objects, ih h]
    | _ => rfl

theorem project_plain {d : Descriptor} (h : d.requiresSelector = false) (selector : String)
    (depth : Int) (subject : Expr) : d.project selector depth subject = subject := by
  cases d with
  | leaf kind name n => cases kind <;> simp_all [requiresSelector_leaf, project]
  | list element n =>
    rw [requiresSelector_list] at h
    simp [project, h]

theorem project_object (name : String) (n : Bool) (selector : String) (depth : Int)
    (subject : Expr) :
    (leaf .object name n).project selector depth subject =
      if n then .ifPresent subject (.call selector subject) else .call selector subject :=
  rfl

theorem project_list {element : Descriptor} (h : element.requiresSelector) (n : Bool)
    (selector : String) (depth : Int) (subject : Expr) :
    (list element n).project selector depth subject =
      let each := .each (element.project selector (depth + 1) (.atom (itemName depth)))
        (itemName depth) subject
      if n then .ifPresent subject each else each := by
  rw [project, if_pos h]
  rfl

theorem nullable_of_admits {d : Descriptor} {v : Datum} (h : d.admits v) (hv : v.isNone) :
    d.nullable := by
  cases v with
  | none => simpa [admits] using h
  | _ => exact absurd hv (by simp [Datum.isNone])

theorem gives_project_plain {d : Descriptor} (h : d.requiresSelector = false) (selector : String)
    (g : Datum → Datum) (depth : Int) {subject : Expr} {t : Term} (hsubject : Reads false subject t) :
    ∃ loose e, Reads loose (d.project selector depth subject) e ∧
      ∀ scope v, scope selector = some (.function g) → d.admits v → Gives (eval scope t) v [] →
        Gives (eval scope e) (d.mapObjects g v) (d.objects v) := by
  rw [project_plain h]
  refine ⟨false, t, hsubject, fun scope v _ _ hv => ?_⟩
  rwa [mapObjects_plain g h, objects_plain h]

/-- The projection of a value is read as it was built, and gives the value with the selector applied
to its objects. -/
theorem gives_project {selector : String} (hselector : isName selector)
    (hitem : ∀ depth, selector ≠ itemName depth) (g : Datum → Datum) (d : Descriptor) :
    ∀ (depth : Nat) {subject : Expr} {t : Term}, Reads false subject t →
      ∃ loose e, Reads loose (d.project selector depth subject) e ∧
        ∀ scope v, scope selector = some (.function g) → d.admits v → Gives (eval scope t) v [] →
          Gives (eval scope e) (d.mapObjects g v) (d.objects v) := by
  induction d with
  | leaf kind name n =>
    intro depth subject t hsubject
    by_cases hkind : kind = .object
    · subst hkind
      obtain ⟨loose, e, hreads, hgives⟩ :=
        gives_guarded (n := n) hsubject (.call hselector hsubject)
      rw [project_object]
      refine ⟨loose, e, hreads, fun scope v hg hadmits hv => ?_⟩
      have hresult := hgives scope v (g v) [v] hv (nullable_of_admits hadmits)
        fun _ => gives_call hg hv
      cases v <;> exact hresult
    · exact gives_project_plain (by simp [requiresSelector_leaf, hkind]) selector g depth hsubject
  | list element n ih =>
    intro depth subject t hsubject
    cases hselects : element.requiresSelector with
    | false => exact gives_project_plain (d := list element n) hselects selector g depth hsubject
    | true =>
      have hname := isName_itemName depth
      obtain ⟨_, body, hbody, hitems⟩ := ih (depth + 1) (.name hname)
      obtain ⟨loose, e, hreads, hgives⟩ :=
        gives_guarded (n := n) hsubject (.each hbody hname hsubject)
      rw [project_list hselects]
      refine ⟨loose, e, hreads, fun scope v hg hadmits hv => ?_⟩
      cases v with
      | none =>
        exact hgives scope .none .none [] hv (nullable_of_admits hadmits) (by simp [Datum.isNone])
      | list items =>
        refine hgives scope (.list items) _ _ hv (by simp [Datum.isNone]) fun _ => ?_
        refine gives_each hv fun v hmem => ?_
        refine hitems _ v ?_ ?_ (gives_name (by simp))
        · rwa [Function.update_of_ne (hitem depth)]
        · exact List.all_eq_true.mp hadmits v hmem
      | _ => exact absurd hadmits (by simp [admits])

end SchemaClient.Descriptor

namespace SchemaClient

open Expression

theorem accessor_body (scalars : ScalarRegistry) (f : Field) :
    (Module.accessor scalars f).body =
      f.type.project (Module.selectorName (f.arguments.map Argument.name)) 0
        (.atom ("self." ++ f.backingName)) := by
  unfold Module.accessor
  cases h : f.type.requiresSelector with
  | true => rfl
  | false => rw [Descriptor.project_plain h]; rfl

/-- What the body of an accessor is read as, and what it evaluates to: absent values stay absent,
lists keep their items in order, and the selector is applied once to each object, first to last. A
value without objects stays as it is. -/
theorem accessor_body_projects (scalars : ScalarRegistry) (f : Field)
    (hname : ∀ c ∈ f.name.toList, Text.isIdentifierPart c) (scope : Scope) (self v : Datum)
    (g : Datum → Datum) (hself : scope "self" = some (.value self))
    (hv : self.attribute? f.backingName = some v)
    (hg : scope (Module.selectorName (f.arguments.map Argument.name)) = some (.function g))
    (hadmits : f.type.admits v) :
    let projection := f.type.project (Module.selectorName (f.arguments.map Argument.name)) 0
      (.atom ("self." ++ f.backingName))
    (Module.accessor scalars f).body = projection ∧
      (∃ e, read projection.text = some e ∧
        ∀ log, (eval scope e).run log = some (f.type.mapObjects g v, log ++ f.type.objects v)) ∧
      (f.type.requiresSelector = false → f.type.mapObjects g v = v ∧ f.type.objects v = []) := by
  intro projection
  have hsubject : Reads false (.atom ("self" ++ "." ++ f.backingName))
      (.member (.name "self") f.backingName) :=
    .member (by decide) (isName_backing hname)
  obtain ⟨loose, e, hreads, hgives⟩ := Descriptor.gives_project
    (isName_selectorName (f.arguments.map Argument.name)) (selectorName_ne_itemName _) g f.type 0
    hsubject
  refine ⟨accessor_body scalars f, ⟨e, read_text hreads, ?_⟩, fun hplain => ?_⟩
  · exact hgives scope v hg hadmits (gives_member (gives_name hself) hv)
  · exact ⟨Descriptor.mapObjects_plain g hplain v, Descriptor.objects_plain hplain v⟩

theorem accessor_body_projects_nested :
    let f : Field :=
      { name := "matrix", wireName := "matrix"
        type := .list (.list (.leaf .object "User" true) true) false
        arguments := [{ name := "selector", wireName := "selector", hint := "int" }] }
    let v : Datum := .list [.list [.text "a", .none, .text "b"], .none, .list []]
    let scope : Scope := fun x =>
      if x = "self" then some (.value (.record [("raw_matrix", v)]))
      else if x = "field_selector" then some (.function fun w => .list [w]) else none
    ∃ e, read (f.type.project "field_selector" 0 (.atom "self.raw_matrix")).text = some e ∧
      (eval scope e).run [] =
        some (.list [.list [.list [.text "a"], .none, .list [.text "b"]], .none, .list []],
          [.text "a", .text "b"]) := by
  intro f v scope
  have hselector : Module.selectorName (f.arguments.map Argument.name) = "field_selector" := by
    decide
  have hname := List.all_eq_true.mp (by decide : "matrix".toList.all Text.isIdentifierPart)
  obtain ⟨_, ⟨e, hread, heval⟩, _⟩ := accessor_body_projects .standard f hname scope
    (.record [("raw_matrix", v)]) v (fun w => .list [w]) rfl rfl (by rw [hselector]; rfl) rfl
  rw [hselector] at hread
  exact ⟨e, hread, heval []⟩

end SchemaClient
