import SchemaClient.Proofs.Generate
import SchemaClient.Proofs.Module.Layout
import SchemaClient.Proofs.Module.Unmarked
import SchemaClient.Proofs.Name.Identifier

/-! Modules of schemas: what a schema has to avoid for its module to follow the grammar. -/
namespace SchemaClient

open Sdl hiding isName
open Code
open Expression (isName)

/-! ### Names of members -/

theorem Text.isIdentifierPart_of_isIdentifier {w : List Char} (h : isIdentifier w) :
    ∀ c ∈ w, isIdentifierPart c := by
  cases w with
  | nil => simp
  | cons c rest =>
    rw [isIdentifier, Bool.and_eq_true, List.all_eq_true] at h
    exact List.forall_mem_cons.mpr ⟨Expression.isIdentifierPart_of_start h.1, h.2⟩

theorem Name.isIdentifier_fresh {free : String → Bool} {name : String} (bound : Nat)
    (h : Text.isIdentifier name.toList) (hstart : name.toList.head? ≠ some '_') :
    Text.isIdentifier (fresh free name bound).toList := by
  rcases fresh_eq free name bound with heq | ⟨k, heq⟩
  · rwa [heq]
  · rw [heq]
    have hall := forall_mem_numbered (Text.isIdentifierPart_of_isIdentifier h) (by decide)
      (fun _ => Expression.isIdentifierPart_of_digit) k
    cases hname : name.toList with
    | nil => simp [hname, Text.isIdentifier] at h
    | cons c rest =>
      rw [hname, Text.isIdentifier, Bool.and_eq_true] at h
      have hc : c ≠ '_' := by simpa [hname] using hstart
      have hhead : name.toList.head? = some c := by rw [hname]; rfl
      obtain ⟨more, hmore⟩ := List.head?_eq_some_iff.mp (head?_numbered hhead hc k)
      rw [hmore] at hall ⊢
      rw [Text.isIdentifier, Bool.and_eq_true, List.all_eq_true]
      exact ⟨h.1, (List.forall_mem_cons.mp hall).2⟩

theorem Name.IsSettled.head?_ne {name : String} (h : IsSettled name) :
    name.toList.head? ≠ some '_' := by
  obtain ⟨c, hhead, hc⟩ := h.start
  rw [hhead]
  exact fun heq => hc (Option.some.inj heq)

theorem Name.IsSettled.fresh {name : String} (h : IsSettled name) (free : String → Bool)
    (bound : Nat) : IsSettled (fresh free name bound) := by
  rcases fresh_eq free name bound with heq | ⟨k, heq⟩
  · rwa [heq]
  · rw [heq]
    exact h.numbered k

theorem isName_of_isIdentifier {w : String} (h : Text.isIdentifier w.toList)
    (hfree : w ∉ Name.keywords) : isName w := by
  rw [isName, h, Bool.true_and]
  simpa using hfree

namespace Module

theorem isAssignedName_of_isIdentifier {w : String} (h : Text.isIdentifier w.toList)
    (hfree : w ∉ Name.keywords ++ Name.softKeywords) : isAssignedName w := by
  rw [List.mem_append, not_or] at hfree
  refine isAssignedName_iff.mpr ⟨isName_of_isIdentifier h hfree.1, ?_⟩
  rintro rfl
  exact hfree.2 (by decide)

variable {wire : String} (h : Sdl.isName wire.toList)
  (hdigit : Name.startsWithDigit wire.toList = false)

include h hdigit

theorem isAssignedName_allocate (reserved taken : List String) (backed : Bool) :
    isAssignedName (Model.allocate reserved taken wire backed) := by
  have hsettled := Name.isSettled_memberName h
  have hname := (Name.isIdentifier_memberName_iff h).mpr hdigit
  refine isAssignedName_of_isIdentifier ?_ (Model.isSettled_allocate h).free
  rw [Model.allocate_eq, Model.preferredName]
  split_ifs
  · refine Name.isIdentifier_fresh _ ?_ hsettled.append_underscore.head?_ne
    rw [String.toList_append]
    exact Expression.isIdentifier_append hname (List.all_iff_forall_prop.mp (by decide))
  · exact Name.isIdentifier_fresh _ hname hsettled.head?_ne

theorem isName_parameter (taken : List String) :
    isName (Name.unique taken (Model.parameterName wire)) := by
  have hparameter : Name.IsSettled (Model.parameterName wire) ∧
      Text.isIdentifier (Model.parameterName wire).toList := by
    have hsettled := Name.isSettled_memberName h
    unfold Model.parameterName
    split_ifs with hself
    · rw [beq_iff_eq.mp hself] at hsettled
      exact ⟨hsettled.append_underscore, by decide⟩
    · exact ⟨hsettled, (Name.isIdentifier_memberName_iff h).mpr hdigit⟩
  obtain ⟨hsettled, hname⟩ := hparameter
  have hfree := (hsettled.fresh (fun s => !taken.contains s) (taken.length + 1)).free
  rw [List.mem_append, not_or] at hfree
  exact isName_of_isIdentifier (Name.isIdentifier_fresh _ hname hsettled.head?_ne) hfree.1

theorem isAssignedName_entry (taken : List String) :
    isAssignedName (Name.unique taken (Name.enumMemberName wire)) := by
  have hname := (Name.isIdentifier_enumMemberName_iff h).mpr hdigit
  obtain ⟨c, hhead, hc, -⟩ := Name.head?_enumMemberName h
  have hstart : ∀ {name : String}, name.toList.head? = some c → name.toList.head? ≠ some '_' :=
    fun heq hunderscore => hc (Option.some.inj (heq.symm.trans hunderscore))
  have hlower := Name.not_isLowerChar_enumMemberName h
  refine isAssignedName_of_isIdentifier (Name.isIdentifier_fresh _ hname (hstart hhead)) ?_
  refine Name.not_mem_keywords_of_not_isLowerChar ?_ (hstart (Name.head?_fresh _ hhead hc))
  rcases Name.fresh_eq _ (Name.enumMemberName wire) _ with heq | ⟨k, heq⟩
  · rwa [Name.unique, heq]
  · rw [Name.unique, heq]
    refine Name.forall_mem_numbered hlower (by decide) (fun d hd => ?_) k
    have hpart : isNamePart d := by simp [isNamePart, Char.isAlphanum, hd]
    exact Name.of_ascii (P := fun d => d.isDigit → Text.isLowerChar d = false)
      (Name.ascii_of_isNamePart hpart) (by decide) hd

end Module

/-! ### Fields -/

namespace Descriptor

theorem listLevels_renamed (result : String) (d : Descriptor) :
    (d.renamed result).listLevels = d.listLevels := by
  induction d with
  | leaf kind name n => cases kind <;> rfl
  | list element n ih => exact congrArg (· + 1) ih

theorem name_renamed (result : String) {d : Descriptor} (h : d.requiresSelector) :
    (d.renamed result).name = result := by
  induction d with
  | leaf kind name n =>
    cases kind with
    | object => rfl
    | _ => cases h
  | list element n ih => exact ih h

end Descriptor

/-- A field of which all that stands in a class can be written. -/
structure Field.IsWritten (f : Field) : Prop where
  name : Module.isAssignedName f.name
  type : Code.IsWritten f.type
  levels : f.type.listLevels < maxBrackets
  arguments : ∀ a ∈ f.arguments, isName a.name ∧ Writes IsExpression [")"] a.hint
  default : ∀ e ∈ f.default, Writes IsExpression [")"] e

namespace Module

variable {f : Field}

theorem isWritten_describe (description : Option String) :
    ∀ o ∈ describe description, o.IsWritten := by
  intro o ho
  obtain ⟨text, -, rfl⟩ := Option.map_eq_some_iff.mp (Option.mem_toList.mp ho)
  trivial

theorem isWritten_none : (FieldOption.default "None").IsWritten :=
  (writes_constant (by simp)).isSum.isExpression

theorem isWritten_defaultOption (h : f.IsWritten) : ∀ o ∈ defaultOption f, o.IsWritten := by
  intro o ho
  unfold defaultOption at ho
  split at ho
  · rename_i e he
    split_ifs at ho <;> obtain rfl := Option.some.inj ho <;> exact h.default e he
  · split_ifs at ho
    · obtain rfl := Option.some.inj ho
      exact isWritten_none
    · cases ho

theorem isIdentifierPart_of_isName {w : String} (h : isName w) :
    ∀ c ∈ w.toList, Text.isIdentifierPart c :=
  Text.isIdentifierPart_of_isIdentifier (isName_iff.mp h).1

theorem isAssignedName_backing {name : String} (h : isName name) :
    isAssignedName (Field.backing name) := by
  refine isAssignedName_iff.mpr
    ⟨Expression.isName_backing (isIdentifierPart_of_isName h), fun heq => ?_⟩
  have hhead := congrArg (fun s => s.toList.head?) heq
  simp [Field.backing] at hhead

theorem isWritten_attributeOf (h : f.IsWritten) (c : Class) :
    (attributeOf .standard c f).IsWritten := by
  have hhint : Writes IsExpression [] (f.type.hint .standard) :=
    (writes_hint h.type (by simpa using h.levels.le)).isExpression
  have hwire : (FieldOption.wireName f.wireName).IsWritten := trivial
  unfold attributeOf
  split_ifs
  · refine ⟨h.name, hhint, List.forall_mem_append.mpr ⟨List.forall_mem_append.mpr ⟨?_, ?_⟩,
      isWritten_describe _⟩⟩
    · exact fun o ho => isWritten_defaultOption h o (Option.mem_toList.mp ho)
    · exact List.forall_mem_singleton.mpr hwire
  · refine ⟨isAssignedName_backing (isAssignedName_iff.mp h.name).1, hhint, ?_⟩
    exact List.forall_mem_cons.mpr ⟨isWritten_none, List.forall_mem_cons.mpr
      ⟨hwire, List.forall_mem_singleton.mpr trivial⟩⟩
  · refine ⟨h.name, hhint, List.forall_mem_append.mpr ⟨?_, isWritten_describe _⟩⟩
    exact List.forall_mem_cons.mpr ⟨isWritten_none, List.forall_mem_singleton.mpr hwire⟩

theorem writes_selectorHint {d : Descriptor} (h : Code.IsWritten d)
    (hselector : d.requiresSelector) :
    Writes IsExpression [")"] ("typing.Callable[[" ++ d.name ++ "], T]") := by
  have hkind : d.kind ≠ .scalar := by
    rw [of_decide_eq_true hselector]
    decide
  have hname : Writes IsAtomic ["]", ")"] ("[" ++ Text.join ", " [d.name] ++ "]") :=
    writes_list (List.forall_mem_singleton.mpr (writes_typeName (h hkind)).isSum.isExpression)
      (by decide)
  have hresult : Writes IsAtomic ["]", ")"] "T" := writes_name (by decide)
  have hpair := writes_pair (v := "typing") (w := "Callable") (by decide) (by decide)
    hname.isSum.isExpression hresult.isSum.isExpression (by decide)
  have htext : "typing.Callable[[" ++ d.name ++ "], T]" = "typing" ++ "." ++ "Callable" ++ "[" ++
      ("[" ++ Text.join ", " [d.name] ++ "]") ++ ", " ++ "T" ++ "]" := by
    rw [← String.toList_inj]
    simp [Text.join]
  rw [htext]
  exact hpair.isSum.isExpression

theorem isWritten_accessor (h : f.IsWritten) (hdescription : ∀ d ∈ f.description, IsDocstring d) :
    (accessor .standard f).IsWritten := by
  have hname := (isAssignedName_iff.mp h.name).1
  have hlevels : ([] : List String).length + f.type.listLevels < maxBrackets := by
    simpa using h.levels
  have hdocstring : ∀ d ∈ nonEmpty f.description, IsDocstring d := by
    intro d hd
    refine hdescription d ?_
    unfold nonEmpty at hd
    split at hd
    · cases hd
    · exact hd
  have hself : ({ name := "self" } : Parameter).IsWritten := ⟨by decide, nofun⟩
  have harguments : ∀ p ∈ f.arguments.map fun a => ({ name := a.name, hint := a.hint } : Parameter),
      p.IsWritten := by
    intro p hp
    obtain ⟨a, ha, rfl⟩ := List.mem_map.mp hp
    obtain ⟨hname, hhint⟩ := h.arguments a ha
    exact ⟨hname, fun hint heq => Option.some.inj heq ▸ hhint⟩
  have hvalue : ∀ closers, Writes IsAtomic closers (Expr.atom ("self." ++ f.backingName)).text :=
    fun closers => writes_attribute (v := "self") (by decide)
      (isAssignedName_iff.mp (isAssignedName_backing hname)).1
  unfold accessor
  split_ifs with hselector
  · have hrenamed : Code.IsWritten (f.type.renamed "T") := by
      intro _
      rw [Descriptor.name_renamed "T" hselector]
      decide
    refine ⟨hname, ?_, ?_, hdocstring, ?_⟩
    · refine List.forall_mem_append.mpr ⟨List.forall_mem_cons.mpr ⟨hself, harguments⟩,
        List.forall_mem_singleton.mpr ⟨Expression.isName_selectorName _, fun hint heq => ?_⟩⟩
      exact Option.some.inj heq ▸ writes_selectorHint h.type hselector
    · rw [Descriptor.selectedHint_of_requiresSelector _ _ hselector]
      refine (writes_hint hrenamed ?_).isExpression
      rw [Descriptor.listLevels_renamed]
      exact hlevels.le
    · have hbody : Writes IsExpression [] (f.type.project
          (selectorName (f.arguments.map Argument.name)) ((0 : Nat) : Int)
          (.atom ("self." ++ f.backingName))).text :=
        writes_project (Expression.isName_selectorName _) hvalue hlevels
      exact hbody
  · exact ⟨hname, List.forall_mem_cons.mpr ⟨hself, harguments⟩,
      (writes_hint h.type hlevels.le).isExpression, hdocstring, (hvalue _).isSum.isExpression⟩

theorem writes_base (m : Model) (c : Class) : Writes IsArgumentList [")"] (baseOf m c) := by
  have hbase : ∀ w, isName w → Writes IsArgumentList [")"] ("runtime" ++ "." ++ w) :=
    fun w hw => Writes.isArgumentList (writes_attribute (by decide) hw)
  unfold baseOf
  split_ifs
  · exact hbase "GraphQLModel" (by decide)
  · exact hbase "QueryRoot" (by decide)
  · exact hbase "MutationRoot" (by decide)
  · exact hbase "GraphQLModel" (by decide)

theorem isWritten_declare {m : Model} {c : Class} (hname : isName c.name)
    (hdescription : ∀ d ∈ c.description, IsDocstring d) (hfields : ∀ f ∈ c.fields, f.IsWritten)
    (haccessors : c.isInput = false → ∀ f ∈ c.fields, f.isAccessor →
      ∀ d ∈ f.description, IsDocstring d) : (declare .standard m c).IsWritten where
  name := hname
  base := writes_base m c
  description := hdescription
  attributes := by
    intro a ha
    obtain ⟨f, hf, rfl⟩ := List.mem_map.mp ha
    exact isWritten_attributeOf (hfields f hf) c
  methods := by
    unfold declare
    dsimp only
    split_ifs with hinput
    · simp
    · intro method hmethod
      obtain ⟨f, hf, rfl⟩ := List.mem_map.mp hmethod
      obtain ⟨hf, haccessor⟩ := List.mem_filter.mp hf
      exact isWritten_accessor (hfields f hf) (haccessors (by simpa using hinput) f hf haccessor)

theorem writes_rootReference {closers : List String} (root : Option String) :
    Writes IsExpression closers (rootReference root) := by
  cases root with
  | none =>
    exact
      (writes_attribute (v := "runtime") (w := "Unit") (by decide) (by decide)).isSum.isExpression
  | some name => exact (writes_text name).isSum.isExpression

end Module

/-! ### Schemas -/

mutual

/-- The integers of a literal. -/
def Sdl.Literal.integers : Literal → List String
  | .int spelling => [spelling]
  | .list items => integersOf items
  | _ => []

def Sdl.Literal.integersOf : List Literal → List String
  | [] => []
  | v :: rest => v.integers ++ integersOf rest

end

theorem Sdl.Literal.mem_integersOf {items : List Literal} {v : Literal} (hv : v ∈ items)
    {spelling : String} (h : spelling ∈ v.integers) : spelling ∈ integersOf items := by
  induction items with
  | nil => cases hv
  | cons first rest ih =>
    rw [integersOf]
    rcases List.mem_cons.mp hv with rfl | hv
    · exact List.mem_append_left _ h
    · exact List.mem_append_right _ (ih hv)

def isShortInteger (spelling : String) : Bool :=
  (spelling.toList.filter Char.isDigit).length ≤ maxIntegerDigits

theorem isWrittenValue_of_coerced {member : String → String → String → Prop} {d : Descriptor}
    {v : Literal} {value : Value} (h : Coerced member d v value) (hvalid : v.Valid)
    (hshort : ∀ spelling ∈ v.integers, isShortInteger spelling)
    (hmember : ∀ enum wire m, member enum wire m → isName enum ∧ isName m) :
    IsWrittenValue d.listLevels value := by
  induction d generalizing v value with
  | leaf kind name nullable =>
    cases h with
    | null => exact .none
    | enum hm => exact .member (hmember _ _ _ hm).1 (hmember _ _ _ hm).2
    | int spelling =>
      rw [Literal.Valid] at hvalid
      refine .number ⟨true, hvalid, fun _ => ?_⟩
      exact of_decide_eq_true (hshort spelling (by simp [Literal.integers]))
    | float spelling =>
      rw [Literal.Valid] at hvalid
      exact .number ⟨false, hvalid, fun hwhole => absurd hwhole (by decide)⟩
    | string text => exact .text text
    | boolean b => exact .boolean b
  | list element nullable ih =>
    cases h with
    | null => exact .none
    | items hitems =>
      refine .list fun value hvalue => ?_
      obtain ⟨item, hitem, hcoerced⟩ := exists_of_forall₂_right (coercedAll_iff.mp hitems) hvalue
      rw [Literal.Valid] at hvalid
      refine ih hcoerced (hvalid item hitem) fun spelling hspelling => hshort spelling ?_
      rw [Literal.integers]
      exact Literal.mem_integersOf hitem hspelling
    | single hsingle hone =>
      refine .list (List.forall_mem_singleton.mpr ?_)
      exact ih hone hvalid hshort

/-- A type that can be written as a hint. A keyword may name a scalar, and one that is a constant
may name a type that is not defined. -/
def Descriptor.IsWritable (d : Descriptor) : Prop :=
  d.listLevels < maxBrackets ∧
    (d.kind = .scalar ∨ d.name ∉ Name.keywords ∨ d.name ∈ ["None", "True", "False"])

instance (d : Descriptor) : Decidable d.IsWritable :=
  inferInstanceAs (Decidable (_ ∧ _))

namespace Schema.Document

variable (d : Document)

/-- The types that members and arguments have. -/
def memberTypes : List TypeRef :=
  (d.objects.flatMap Block.members).flatMap (fun f => f.type :: f.arguments.map InputValue.type) ++
    (d.inputs.flatMap Block.members).map InputValue.type

/-- What members, arguments and values of enums are called on the wire. -/
def wireNames : List String :=
  (d.objects.flatMap Block.members).flatMap (fun f => f.name :: f.arguments.map InputValue.name) ++
    (d.inputs.flatMap Block.members).map InputValue.name ++
    (d.enums.flatMap Block.members).map EnumValue.name

/-- A member of an object that is read through a method. -/
def isAccessed (f : ObjectField) : Bool :=
  ((Resolver.ofDocument d).resolve true f.type).requiresSelector || !f.arguments.isEmpty

/-- The descriptions that are written as docstrings. -/
def docstrings : List String :=
  (d.objects.map Block.description ++ d.inputs.map Block.description ++
    d.enums.map Block.description ++
    ((d.objects.flatMap Block.members).filter d.isAccessed).map ObjectField.description).filterMap id

def defaults : List Literal :=
  (d.inputs.flatMap Block.members).filterMap InputValue.default

/-- The conditions under which a schema has a module that follows the grammar. -/
structure IsWritable : Prop where
  typeNames : ∀ name ∈ Model.typeNames d, name ∉ Name.keywords
  types : ∀ t ∈ d.memberTypes, ((Resolver.ofDocument d).resolve true t).IsWritable
  wireNames : ∀ wire ∈ d.wireNames, Name.startsWithDigit wire.toList = false
  docstrings : ∀ text ∈ d.docstrings, IsDocstring text
  integers : ∀ v ∈ d.defaults, ∀ spelling ∈ v.integers, isShortInteger spelling

theorem isWritable_iff : d.IsWritable ↔
    (∀ name ∈ Model.typeNames d, name ∉ Name.keywords) ∧
      (∀ t ∈ d.memberTypes, ((Resolver.ofDocument d).resolve true t).IsWritable) ∧
      (∀ wire ∈ d.wireNames, Name.startsWithDigit wire.toList = false) ∧
      (∀ text ∈ d.docstrings, IsDocstring text) ∧
      ∀ v ∈ d.defaults, ∀ spelling ∈ v.integers, isShortInteger spelling :=
  ⟨fun h => ⟨h.typeNames, h.types, h.wireNames, h.docstrings, h.integers⟩,
    fun ⟨typeNames, types, wireNames, docstrings, integers⟩ =>
      ⟨typeNames, types, wireNames, docstrings, integers⟩⟩

instance : Decidable d.IsWritable :=
  decidable_of_iff' _ d.isWritable_iff

end Schema.Document

/-! ### Models of schemas -/

theorem isName_of_sdl {w : String} (h : Sdl.isName w.toList) (hfree : w ∉ Name.keywords) :
    isName w := by
  have hword := Name.isWord_of_isName h
  obtain ⟨c, hhead, hstart⟩ := head?_of_isName h
  refine isName_of_isIdentifier ((Name.isIdentifier_iff_of_isWord hword).mpr ⟨c, hhead, ?_⟩) hfree
  exact Name.of_ascii (P := fun d => isNameStart d → d.isDigit = false)
    (Name.ascii_of_isNamePart (Name.isNamePart_of_isNameStart hstart)) (by decide) hstart

namespace Model

section Members

variable {d : Schema.Document} (hvalid : d.Valid) (h : d.IsWritable)

include h

theorem isWritten_resolve {t : TypeRef} (ht : t ∈ d.memberTypes) (hname : t.Valid) :
    Code.IsWritten ((Resolver.ofDocument d).resolve true t) ∧
      ((Resolver.ofDocument d).resolve true t).listLevels < maxBrackets := by
  obtain ⟨hlevels, htype⟩ := h.types t ht
  refine ⟨fun hkind => Bool.or_eq_true_iff.mpr ?_, hlevels⟩
  rcases htype with hscalar | hfree | hconstant
  · exact absurd hscalar hkind
  · exact .inl (isName_of_sdl (hname.isName_resolve (Resolver.ofDocument d) true) hfree)
  · exact .inr (List.contains_iff_mem.mpr hconstant)

include hvalid

theorem isWritten_objectField {b : Block ObjectField} (hb : b ∈ d.objects) {f : ObjectField}
    (hf : f ∈ b.members) (before : List String) :
    (buildObjectField (context d .standard) before f).IsWritten := by
  have hmember : f ∈ d.objects.flatMap Block.members := List.mem_flatMap.mpr ⟨b, hb, hf⟩
  have hfield := (hvalid.objects b hb).members f hf
  have htypes : ∀ t ∈ f.type :: f.arguments.map InputValue.type, t ∈ d.memberTypes := fun t ht =>
    List.mem_append_left _ (List.mem_flatMap.mpr ⟨f, hmember, ht⟩)
  have hwires : ∀ w ∈ f.name :: f.arguments.map InputValue.name,
      Name.startsWithDigit w.toList = false := fun w hw => h.wireNames w
    (List.mem_append_left _ (List.mem_append_left _ (List.mem_flatMap.mpr ⟨f, hmember, hw⟩)))
  obtain ⟨htype, hlevels⟩ := isWritten_resolve h (htypes _ List.mem_cons_self) hfield.type
  refine ⟨?_, htype, hlevels, fun a ha => ?_, nofun⟩
  · exact Module.isAssignedName_allocate hfield.name (hwires _ List.mem_cons_self) _ _ _
  · obtain ⟨v, hv, ⟨taken, hname⟩, hhint⟩ := exists_of_forall₂_right
      (buildArguments_forall₂ (context d .standard) ["self"] f.arguments) ha
    have hargument := hfield.arguments v hv
    obtain ⟨htype, hlevels⟩ := isWritten_resolve h
      (htypes _ (List.mem_cons_of_mem _ (List.mem_map_of_mem hv))) hargument.type
    rw [hname, hhint]
    refine ⟨Module.isName_parameter hargument.name
      (hwires _ (List.mem_cons_of_mem _ (List.mem_map_of_mem hv))) taken, ?_⟩
    refine (writes_hint htype ?_).isExpression
    rw [List.length_singleton, Nat.add_comm]
    exact hlevels

theorem isWritten_enum {b : Block EnumValue} (hb : b ∈ d.enums) :
    Module.EnumIsWritten (buildEnum b) := by
  have hblock := hvalid.enums b hb
  refine ⟨isName_of_sdl hblock.name (h.typeNames _ ?_), fun text htext => h.docstrings _ ?_,
    fun v hv => ?_⟩
  · exact List.mem_append_right _ (List.mem_map_of_mem hb)
  · refine List.mem_filterMap.mpr ⟨b.description, ?_, htext⟩
    exact List.mem_append_left _ (List.mem_append_right _ (List.mem_map_of_mem hb))
  · obtain ⟨value, hvalue, before, -, hname⟩ := mem_buildEntries [] b.members hv
    have hmember : value ∈ d.enums.flatMap Block.members := List.mem_flatMap.mpr ⟨b, hb, hvalue⟩
    rw [hname]
    refine Module.isAssignedName_entry (hblock.members value hvalue) (h.wireNames _ ?_) before
    exact List.mem_append_right _ (List.mem_map_of_mem hmember)

theorem isWritten_inputField {b : Block InputValue} (hb : b ∈ d.inputs) {v : InputValue}
    (hv : v ∈ b.members) {owner : String} {before : List String} {f : Field}
    (hf : buildInputField (context d .standard) owner before v = .ok f) : f.IsWritten := by
  have hmember : v ∈ d.inputs.flatMap Block.members := List.mem_flatMap.mpr ⟨b, hb, hv⟩
  have hvalue := (hvalid.inputs b hb).members v hv
  obtain ⟨htype, hlevels⟩ := isWritten_resolve h
    (List.mem_append_right _ (List.mem_map_of_mem hmember)) hvalue.type
  have hmembers : ∀ enum wire m, memberOf? (d.enums.map buildEnum) enum wire = some m →
      isName enum ∧ isName m := by
    intro enum wire m hm
    obtain ⟨e, he, rfl, entry, hentry, -, rfl⟩ := mem_of_memberOf? hm
    obtain ⟨block, hblock, rfl⟩ := List.mem_map.mp he
    have hwritten := isWritten_enum hvalid h hblock
    exact ⟨hwritten.name, (Module.isAssignedName_iff.mp (hwritten.entries entry hentry)).1⟩
  obtain ⟨default, hdefault, rfl⟩ := buildInputField_eq_ok.mp hf
  obtain ⟨-, -, hcases⟩ := buildInputField_cases hf
  refine ⟨?_, htype, hlevels, nofun, fun e he => ?_⟩
  · refine Module.isAssignedName_allocate hvalue.name (h.wireNames _ ?_) _ _ _
    exact List.mem_append_left _ (List.mem_append_right _ (List.mem_map_of_mem hmember))
  · rcases hcases with ⟨-, hnone⟩ | ⟨literal, value, hliteral, hcoerce, hexpression⟩
    · cases hnone.symm.trans he
    · obtain rfl := Option.some.inj (hexpression.symm.trans he)
      have hshort := h.integers literal (List.mem_filterMap.mpr ⟨v, hmember, hliteral⟩)
      have hwritten := isWrittenValue_of_coerced (coerce_eq_ok_iff.mp hcoerce)
        (hvalue.default literal hliteral) hshort hmembers
      refine (writes_value hwritten ?_).isExpression
      rw [List.length_singleton, Nat.add_comm]
      exact hlevels

end Members

/-! ### Whole modules -/

theorem isImport_of_standard {names : List String} :
    ∀ line ∈ ScalarRegistry.importsFor .standard names, ∃ source name, isName source ∧
      isName name ∧ line = "from " ++ source ++ " import " ++ name := by
  intro line hline
  obtain ⟨scalar, -, hscalar⟩ := ScalarRegistry.mem_importsFor.mp hline
  obtain ⟨-, mapping, hmapping, himport⟩ := ScalarRegistry.importLine?_eq_some_iff.mp hscalar
  rw [Table.get?_eq_some_iff (by decide)] at hmapping
  simp only [ScalarRegistry.standard, List.mem_cons, Prod.mk.injEq, List.not_mem_nil,
    or_false] at hmapping
  rcases hmapping with ⟨-, rfl⟩ | ⟨-, rfl⟩ | ⟨-, rfl⟩ | ⟨-, rfl⟩ | ⟨-, rfl⟩
  · obtain rfl := Option.some.inj himport
    exact ⟨"datetime", "datetime", by decide, by decide, by decide⟩
  · obtain rfl := Option.some.inj himport
    exact ⟨"datetime", "date", by decide, by decide, by decide⟩
  · obtain rfl := Option.some.inj himport
    exact ⟨"uuid", "UUID", by decide, by decide, by decide⟩
  · cases himport
  · cases himport

section Built

variable {d : Schema.Document} {namespaceName : String} {clientName : Option String} {m : Model}

theorem forM_eq_ok {α : Type} {check : α → Except Error Unit} {as : List α}
    (h : ∀ a ∈ as, check a = .ok ()) : as.forM check = .ok () := by
  induction as with
  | nil => rfl
  | cons a as ih =>
    obtain ⟨ha, has⟩ := List.forall_mem_cons.mp h
    change (check a >>= fun _ => as.forM check) = _
    rw [ha]
    exact ih has

theorem supported_of_build {scalars : ScalarRegistry}
    (hm : (build d scalars namespaceName clientName).result = .ok m) : m.supported = .ok () := by
  refine forM_eq_ok fun c hc => forM_eq_ok fun f hf => if_neg ?_
  obtain ⟨reference, htype⟩ := resolved_of_build hm hc hf f.type List.mem_cons_self
  rw [htype]
  exact kind_resolve_ne_foreign _ _ _

theorem isAccessor_buildObjectField (scalars : ScalarRegistry) (before : List String)
    (f : ObjectField) :
    (buildObjectField (context d scalars) before f).isAccessor = d.isAccessed f := by
  have hempty : (buildArguments (context d scalars) ["self"] f.arguments).isEmpty =
      f.arguments.isEmpty := by
    cases f.arguments <;> rfl
  exact congrArg (_ || !·) hempty

theorem isWritten_classes (hvalid : d.Valid) (h : d.IsWritable)
    (hm : (build d .standard namespaceName clientName).result = .ok m) :
    ∀ c ∈ m.classes, (Module.declare .standard m c).IsWritten := by
  intro c hc
  rcases List.mem_append.mp hc with hc | hc
  · rw [types_of_build hm] at hc
    obtain ⟨b, hb, rfl⟩ := List.mem_map.mp hc
    have hfields : ∀ f ∈ (buildObject (context d .standard) b).fields, ∃ v ∈ b.members,
        ∃ before, f = buildObjectField (context d .standard) before v := fun f hf =>
      exists_of_forall₂_right (buildObjectFields_forall₂ _ [] b.members) hf
    refine Module.isWritten_declare ?_ (fun text htext => h.docstrings _ ?_) (fun f hf => ?_)
      fun _ f hf haccessor text htext => h.docstrings _ ?_
    · refine isName_of_sdl (hvalid.objects b hb).name (h.typeNames _ ?_)
      exact List.mem_append_left _ (List.mem_append_left _ (List.mem_map_of_mem hb))
    · refine List.mem_filterMap.mpr ⟨b.description, ?_, htext⟩
      exact List.mem_append_left _ (List.mem_append_left _ (List.mem_append_left _
        (List.mem_map_of_mem hb)))
    · obtain ⟨v, hv, before, rfl⟩ := hfields f hf
      exact isWritten_objectField hvalid h hb hv before
    · obtain ⟨v, hv, before, rfl⟩ := hfields f hf
      have haccessed : d.isAccessed v := by
        rwa [isAccessor_buildObjectField] at haccessor
      refine List.mem_filterMap.mpr ⟨v.description, List.mem_append_right _ ?_, htext⟩
      refine List.mem_map_of_mem (List.mem_filter.mpr ⟨?_, haccessed⟩)
      exact List.mem_flatMap.mpr ⟨b, hb, hv⟩
  · obtain ⟨b, hb, hbuilt⟩ := exists_of_forall₂_right (inputs_of_build hm) hc
    obtain ⟨fields, hfields, rfl⟩ := result_buildInput.mp hbuilt
    refine Module.isWritten_declare ?_ (fun text htext => h.docstrings _ ?_) (fun f hf => ?_) nofun
    · refine isName_of_sdl (hvalid.inputs b hb).name (h.typeNames _ ?_)
      exact List.mem_append_left _ (List.mem_append_right _ (List.mem_map_of_mem hb))
    · refine List.mem_filterMap.mpr ⟨b.description, ?_, htext⟩
      exact List.mem_append_left _ (List.mem_append_left _ (List.mem_append_right _
        (List.mem_map_of_mem hb)))
    · obtain ⟨v, hv, before, hfield⟩ := buildInputField_of_mem hfields hf
      exact isWritten_inputField hvalid h hb hv hfield

theorem isWritten_ofModel (hvalid : d.Valid) (h : d.IsWritable)
    (hnamespace : Char.ofNat 0 ∉ namespaceName.toList)
    (hclient : isName (effectiveClientName clientName))
    (hm : (build d .standard namespaceName clientName).result = .ok m) :
    (Module.ofModel .standard m).IsWritten := by
  have hclasses := isWritten_classes hvalid h hm
  have henums := enums_of_build hm
  obtain ⟨-, inputs, -, hmodel⟩ := result_build.mp hm
  refine ⟨?_, ?_, Module.writes_rootReference _, Module.writes_rootReference _, ?_, ?_, ?_⟩
  · subst hmodel
    exact hnamespace
  · subst hmodel
    exact hclient
  · subst hmodel
    exact isImport_of_standard
  · intro c hc
    rw [Module.classes_ofModel] at hc
    obtain ⟨built, hbuilt, rfl⟩ := List.mem_map.mp hc
    exact hclasses built hbuilt
  · intro e he
    have he : e ∈ m.enums := he
    rw [henums] at he
    obtain ⟨b, hb, rfl⟩ := List.mem_map.mp he
    exact isWritten_enum hvalid h hb

end Built

end Model

section Generate

variable {sdl : String} {d : Schema.Document} {m : Model} {p : Platform} {s : Settings}

/-- The text of a module passes the check if nothing of its schema is in the way. -/
theorem Model.checkText_of_isWritable {namespaceName : String} {clientName : Option String}
    (hread : (Schema.read sdl).result = .ok d)
    (hbuild : (Model.build d .standard namespaceName clientName).result = .ok m)
    (hclient : isName (Model.effectiveClientName clientName))
    (hnamespace : Char.ofNat 0 ∉ namespaceName.toList) (h : d.IsWritable) (names : CharacterNames)
    (filename : String) :
    Model.checkText names filename (Module.ofModel .standard m).text =
      .ok (Module.ofModel .standard m).text := by
  obtain ⟨hnul, hform⟩ := Module.wellFormed_text names
    (Model.isWritten_ofModel (Schema.valid_of_read hread) h hnamespace hclient hbuild)
  exact Model.checkText_eq_ok_iff.mpr ⟨by simpa using hnul, hform, rfl⟩

theorem result_generate_standard (hread : (Schema.read sdl).result = .ok d)
    (hbuild : (Model.build d s.scalars s.namespaceName s.clientName).result = .ok m)
    (hscalars : s.scalars = .standard) (hlayout : s.layout = .standard) (hhooks : s.hooks = {}) :
    (generate p sdl s).result =
      Model.checkText p.characterNames s.filename (Module.ofModel .standard m).text := by
  rw [generate_of_document p s hread, result_generateFrom, hbuild, hscalars, hlayout, hhooks]
  exact Model.result_render_standard (Model.supported_of_build hbuild)

/-- A schema that can be read and built has a module, if none of its names and texts is in the way:
no type is called by a keyword, no leading underscores of a member stand before a digit, no docstring
has one quote too many at its end, and neither the integers nor the lists of types are too long for
the grammar. -/
theorem generate_eq_ok_text (hread : (Schema.read sdl).result = .ok d)
    (hbuild : (Model.build d s.scalars s.namespaceName s.clientName).result = .ok m)
    (hscalars : s.scalars = .standard) (hlayout : s.layout = .standard) (hhooks : s.hooks = {})
    (hclient : isName (Model.effectiveClientName s.clientName))
    (hnamespace : Char.ofNat 0 ∉ s.namespaceName.toList) (h : d.IsWritable) :
    wellFormed p.characterNames (Module.ofModel .standard m).text ∧
      (generate p sdl s).result = .ok (Module.ofModel .standard m).text := by
  have hstandard := hbuild
  rw [hscalars] at hstandard
  have hcheck := Model.checkText_of_isWritable hread hstandard hclient hnamespace h
    p.characterNames s.filename
  rw [result_generate_standard hread hbuild hscalars hlayout hhooks]
  exact ⟨(Model.checkText_eq_ok_iff.mp hcheck).2.1, hcheck⟩

end Generate

theorem generate_eq_ok_text_adverse :
    let sdl := "schema \x7b query: Query \x7d scalar class \"Ends with \\\"\\\"\" type Query \x7b " ++
      "\"A \\\\\" match(from: [[Int!]], by: Sort = asc): [User] \"\\\"\" _id: class \x7d " ++
      "input Filter \x7b sort: [Sort!] = [asc] limit: Int = -5 \x7d enum Sort \x7b asc none \x7d"
    let s : Settings := { namespaceName := "Demo" }
    ∃ d m, (Schema.read sdl).result = .ok d ∧
      (Model.build d .standard "Demo" none).result = .ok m ∧ d.IsWritable ∧
      wellFormed Platform.verbatim.characterNames (Module.ofModel .standard m).text ∧
      (generate .verbatim sdl s).result = .ok (Module.ofModel .standard m).text := by
  intro sdl s
  obtain ⟨d, m, hd, hm, hwritable⟩ := Traced.exists_of_view (x := Schema.read sdl)
    (f := fun d => Model.build d .standard "Demo" none)
    (g := fun d _ => decide d.IsWritable) (v := true) (by decide +kernel)
  have h : d.IsWritable := of_decide_eq_true hwritable
  obtain ⟨hform, hresult⟩ := generate_eq_ok_text (p := .verbatim) (s := s) hd hm rfl rfl rfl
    (by decide) (by decide) h
  exact ⟨d, m, hd, hm, h, hform, hresult⟩

/-! ### A quote too many -/

open Mark (append_eq_ofList)

def quotedModel : Model :=
  { namespaceName := "Demo"
    clientName := "GraphQLClient"
    queryType := some "Query"
    types := [{
      name := "Query"
      description := some "say \"hi\""
      fields := [{ name := "ok", wireName := "ok", type := .leaf .scalar "Boolean" true }] }] }

set_option maxRecDepth 10000 in
theorem not_wellFormed_quotedModel :
    (Module.ofModel .standard quotedModel).text.toList.contains (Char.ofNat 0) = false ∧
      wellFormed Platform.verbatim.characterNames (Module.ofModel .standard quotedModel).text =
        false := by
  have hheader : (Module.ofModel .standard quotedModel).header = .ofList _ :=
    append_eq_ofList (append_eq_ofList (append_eq_ofList rfl rfl) rfl) rfl
  have hbase : "runtime.GraphQLClient[" ++ "\"Query\"" ++ ", " ++ "runtime.Unit" ++ "]" =
      .ofList _ :=
    append_eq_ofList (append_eq_ofList (append_eq_ofList (append_eq_ofList rfl rfl) rfl) rfl) rfl
  have hclass : Module.classLine "GraphQLClient"
      ("runtime.GraphQLClient[" ++ "\"Query\"" ++ ", " ++ "runtime.Unit" ++ "]") = .ofList _ :=
    append_eq_ofList (append_eq_ofList (append_eq_ofList (append_eq_ofList rfl rfl) rfl) hbase) rfl
  have hclient : (Module.ofModel .standard quotedModel).clientText = .ofList _ :=
    append_eq_ofList (append_eq_ofList (append_eq_ofList (append_eq_ofList (append_eq_ofList
      (append_eq_ofList (append_eq_ofList (append_eq_ofList (append_eq_ofList (append_eq_ofList
      (append_eq_ofList rfl rfl) hclass) rfl) rfl) rfl) rfl) rfl) rfl) rfl) rfl) rfl
  have hclasses : Text.join ""
      ((Module.ofModel .standard quotedModel).classes.map Module.ClassDeclaration.text) =
    "\n\nclass Query(runtime.QueryRoot):\n    \"\"\"say \"hi\"\"\"\"\n\n" ++
      "    ok: bool | None = pydantic.Field(default=None, alias=\"ok\")\n" := by
    decide +kernel
  have hregistration : Module.registrationHeader = .ofList _ :=
    append_eq_ofList (append_eq_ofList (append_eq_ofList rfl rfl) rfl) rfl
  have hrebuild : (Module.ofModel .standard quotedModel).rebuildText =
      "\n\nfor _model in (Query,):\n    _model.model_rebuild()\n" := by decide +kernel
  have htext : (Module.ofModel .standard quotedModel).text = .ofList _ :=
    append_eq_ofList (append_eq_ofList (append_eq_ofList (append_eq_ofList (append_eq_ofList
      (append_eq_ofList (append_eq_ofList hheader (rfl : _ = String.ofList [])) hclient)
        (hclasses.trans (append_eq_ofList rfl rfl))) (rfl : _ = String.ofList [])) hregistration)
        (rfl : _ = String.ofList [])) (hrebuild.trans rfl)
  rw [wellFormed, htext, String.toList_ofList]
  exact ⟨by decide +kernel, by decide +kernel⟩

/-- The quote at the end of the description stands right before the closing quotes. -/
theorem generate_eq_error_finalQuote :
    let sdl := "schema \x7b query: Query \x7d \"say \\\"hi\\\"\" type Query \x7b ok: Boolean \x7d"
    ∃ d m, (Schema.read sdl).result = .ok d ∧
      (Model.build d .standard "Demo" none).result = .ok m ∧ ¬d.IsWritable ∧
      (generate .verbatim sdl { namespaceName := "Demo" }).result =
        .error (.invalidModuleFor "client.py") := by
  intro sdl
  obtain ⟨d, m, hd, hm, hview⟩ := Traced.exists_of_view (x := Schema.read sdl)
    (f := fun d => Model.build d .standard "Demo" none)
    (g := fun d m => (decide d.IsWritable, m)) (v := (false, quotedModel)) (by decide +kernel)
  obtain ⟨hwritable, hmodel⟩ := Prod.mk.inj hview
  refine ⟨d, m, hd, hm, of_decide_eq_false hwritable, ?_⟩
  obtain ⟨hnul, hform⟩ := not_wellFormed_quotedModel
  rw [← hmodel] at hnul hform
  have hresult := result_generate_standard (p := .verbatim) (s := { namespaceName := "Demo" })
    hd hm rfl rfl rfl
  rw [hresult]
  exact Model.checkText_of_not_wellFormed hnul hform

end SchemaClient
