import Mathlib
import SchemaClient.Proofs.Sdl.Scan
import SchemaClient.Sdl.Grammar

/-! What a schema text that is read defines: the spelling of the names and numbers in it. -/
namespace SchemaClient.Sdl

/-! ### Definitions -/

def TypeRef.Valid : TypeRef → Prop
  | .named name => isName name.toList
  | .list of => of.Valid
  | .nonNull of => of.Valid

def Literal.Valid : Literal → Prop
  | .int spelling => IsNumber true spelling.toList
  | .float spelling => IsNumber false spelling.toList
  | .list items => ∀ v ∈ items, v.Valid
  | _ => True

structure InputValue.Valid (v : InputValue) : Prop where
  name : isName v.name.toList
  type : v.type.Valid
  default : ∀ l ∈ v.default, l.Valid

structure ObjectField.Valid (f : ObjectField) : Prop where
  name : isName f.name.toList
  type : f.type.Valid
  arguments : ∀ a ∈ f.arguments, a.Valid

def EnumValue.Valid (v : EnumValue) : Prop :=
  isName v.name.toList

structure Block.Valid {μ : Type} (member : μ → Prop) (b : Block μ) : Prop where
  name : isName b.name.toList
  members : ∀ m ∈ b.members, member m

def Definition.Valid : Definition → Prop
  | .schema roots | .schemaExtension roots => ∀ r ∈ roots, isName r.type.toList
  | .scalar name => isName name.toList
  | .object block _ => block.Valid ObjectField.Valid
  | .input block => block.Valid InputValue.Valid
  | .enum block => block.Valid EnumValue.Valid
  | _ => True

/-! ### What reading ensures -/

structure Cursor.Valid (c : Cursor) : Prop where
  current : c.current.token.Valid
  rest : ∀ l ∈ c.rest, l.token.Valid

namespace Parse

/-- Started at a valid place, `p` ends at one with the same fault behind it, and `P` holds of what it
has read. Only the fault of the scan can be that the text ends inside an escape. -/
structure Ensures {α : Type} (p : Parse α) (P : α → Prop) : Prop where
  ok : ∀ c a c', c.Valid → p.run c = .ok (a, c') → c'.Valid ∧ c'.fault = c.fault ∧ P a
  offText : ∀ c, c.Valid → p.run c = .error .offText → c.fault = some .offText

variable {α β : Type} {p : Parse α} {P : α → Prop}

theorem ensures_pure {a : α} (h : P a) : Ensures (pure a) P where
  ok := by
    intro c b c' hc hrun
    obtain ⟨rfl, rfl⟩ := Prod.mk.inj (Except.ok.inj hrun)
    exact ⟨hc, rfl, h⟩
  offText _ _ hrun := by cases hrun

theorem ensures_bind {f : α → Parse β} {Q : β → Prop} (hp : Ensures p P)
    (hf : ∀ a, P a → Ensures (f a) Q) : Ensures (p >>= f) Q where
  ok := by
    intro c b c' hc hrun
    rw [StateT.run_bind] at hrun
    obtain ⟨⟨a, d⟩, hfirst, hrest⟩ := bind_eq_ok_iff.mp hrun
    obtain ⟨hd, hfault, ha⟩ := hp.ok c a d hc hfirst
    obtain ⟨hc', hfault', hb⟩ := (hf a ha).ok d b c' hd hrest
    exact ⟨hc', hfault'.trans hfault, hb⟩
  offText := by
    intro c hc hrun
    rw [StateT.run_bind] at hrun
    rcases bind_eq_error_iff.mp hrun with hfirst | ⟨⟨a, d⟩, hfirst, hrest⟩
    · exact hp.offText c hc hfirst
    · obtain ⟨hd, hfault, ha⟩ := hp.ok c a d hc hfirst
      exact hfault.symm.trans ((hf a ha).offText d hd hrest)

theorem Ensures.mono {Q : α → Prop} (hp : Ensures p P) (h : ∀ a, P a → Q a) : Ensures p Q where
  ok := by
    intro c a c' hc hrun
    obtain ⟨hc', hfault, ha⟩ := hp.ok c a c' hc hrun
    exact ⟨hc', hfault, h a ha⟩
  offText := hp.offText

theorem Ensures.map {f : α → β} {Q : β → Prop} (hp : Ensures p P) (h : ∀ a, P a → Q (f a)) :
    Ensures (f <$> p) Q := by
  rw [map_eq_pure_bind]
  exact ensures_bind hp fun a ha => ensures_pure (h a ha)

theorem ensures_ite {b : Prop} [Decidable b] {q : Parse α} (hp : Ensures p P)
    (hq : Ensures q P) : Ensures (if b then p else q) P := by
  split_ifs
  · exact hp
  · exact hq

/-- Two ways that lead to one continuation. -/
theorem ensures_ite_bind {b : Prop} [Decidable b] {q : Parse α} {f : α → Parse β} {Q : β → Prop}
    (hp : Ensures p P) (hq : Ensures q P) (hf : ∀ a, P a → Ensures (f a) Q) :
    Ensures (if b then p >>= f else q >>= f) Q :=
  ensures_ite (ensures_bind hp hf) (ensures_bind hq hf)

theorem ensures_get : Ensures (get : Parse Cursor) Cursor.Valid where
  ok := by
    intro c a c' hc hrun
    obtain ⟨rfl, rfl⟩ := Prod.mk.inj (Except.ok.inj hrun)
    exact ⟨hc, rfl, hc⟩
  offText _ _ hrun := by cases hrun

theorem ensures_current : Ensures current Token.Valid :=
  ensures_bind ensures_get fun _ hc => ensures_pure hc.current

theorem ensures_lookahead : Ensures lookahead fun l => l.token.Valid where
  ok := by
    rintro ⟨current, rest, fault⟩ l c' hc hrun
    cases rest with
    | cons next rest =>
      obtain ⟨rfl, rfl⟩ := Prod.mk.inj (Except.ok.inj hrun)
      exact ⟨hc, rfl, hc.rest _ List.mem_cons_self⟩
    | nil =>
      cases fault with
      | some fault => cases hrun
      | none =>
        obtain ⟨rfl, rfl⟩ := Prod.mk.inj (Except.ok.inj hrun)
        exact ⟨hc, rfl, hc.current⟩
  offText := by
    rintro ⟨current, rest, fault⟩ hc hrun
    cases rest with
    | cons next rest => cases hrun
    | nil =>
      cases fault with
      | some fault => exact congrArg some (Except.error.inj hrun)
      | none => cases hrun

theorem ensures_advance : Ensures advance fun l => l.token.Valid := by
  refine ensures_bind ensures_lookahead fun next hnext => ?_
  refine ⟨fun c a c' hc hrun => ?_, fun c _ hrun => by cases hrun⟩
  obtain ⟨rfl, rfl⟩ := Prod.mk.inj (Except.ok.inj hrun)
  exact ⟨⟨hnext, fun l hl => hc.rest l (List.mem_of_mem_drop hl)⟩, rfl, hc.current⟩

theorem ensures_failAt (place : Lexeme) (cause : Cause) : Ensures (failAt place cause) P where
  ok _ _ _ _ hrun := by cases hrun
  offText _ _ hrun := by cases hrun

theorem ensures_fail (cause : Token → Cause) : Ensures (fail cause) P :=
  ensures_bind ensures_get fun _ _ => ensures_failAt _ _

theorem ensures_unexpected : Ensures (unexpected : Parse α) P :=
  ensures_fail _

/-! ### Readers that are not about definitions -/

/-- Nothing is said of what is read. -/
abbrev Sound (p : Parse α) : Prop :=
  Ensures p fun _ => True

theorem Ensures.sound (h : Ensures p P) : Sound p :=
  h.mono fun _ _ => trivial

theorem sound_pure (a : α) : Sound (pure a : Parse α) :=
  ensures_pure trivial

theorem sound_advance : Sound advance :=
  ensures_advance.sound

theorem sound_symbol (s : Symbol) : Sound (symbol s) :=
  ensures_bind ensures_current fun _ _ => ensures_ite sound_advance (ensures_fail _)

theorem sound_isAt (s : Symbol) : Sound (isAt s) :=
  ensures_bind ensures_current fun _ _ => sound_pure _

theorem sound_optional (s : Symbol) : Sound (optional s) :=
  ensures_bind (sound_isAt s) fun _ _ =>
    ensures_ite (ensures_bind sound_advance fun _ _ => sound_pure _) (sound_pure _)

theorem ensures_name : Ensures name fun text => isName text.toList := by
  refine ensures_bind ensures_current fun token htoken => ?_
  split
  · exact ensures_bind sound_advance fun _ _ => ensures_pure htoken
  · exact ensures_fail _

theorem sound_optionalKeyword (word : String) : Sound (optionalKeyword word) :=
  ensures_bind (ensures_bind ensures_current fun _ _ => sound_pure _) fun _ _ =>
    ensures_ite (ensures_bind sound_advance fun _ _ => sound_pure _) (sound_pure _)

theorem sound_keyword (word : String) : Sound (keyword word) :=
  ensures_bind (sound_optionalKeyword word) fun _ _ => ensures_ite (sound_pure _) (ensures_fail _)

theorem sound_endOfText : Sound endOfText :=
  ensures_bind ensures_current fun _ _ => ensures_ite (sound_pure _) (ensures_fail _)

theorem sound_bound : Sound bound :=
  ensures_bind ensures_get fun _ _ => sound_pure _

theorem ensures_itemsUntil (close : Symbol) {item : Parse α} (h : Ensures item P) (fuel : Nat) :
    Ensures (itemsUntil close item fuel) fun items => ∀ a ∈ items, P a := by
  induction fuel with
  | zero => exact ensures_unexpected
  | succ fuel ih =>
    refine ensures_bind (sound_optional close) fun _ _ => ensures_ite (ensures_pure (by simp)) ?_
    refine ensures_bind h fun first hfirst => ensures_bind ih fun rest hrest => ?_
    exact ensures_pure (List.forall_mem_cons.mpr ⟨hfirst, hrest⟩)

theorem ensures_several (opening closing : Symbol) {item : Parse α} (h : Ensures item P) :
    Ensures (several opening closing item) fun items => ∀ a ∈ items, P a :=
  ensures_bind (sound_symbol _) fun _ _ => ensures_bind sound_bound fun _ _ =>
    ensures_itemsUntil closing h _

theorem ensures_many (opening closing : Symbol) {item : Parse α} (h : Ensures item P) :
    Ensures (many opening closing item) fun items => ∀ a ∈ items, P a := by
  refine ensures_bind (sound_symbol _) fun _ _ => ensures_bind h fun first hfirst => ?_
  refine ensures_bind sound_bound fun _ _ =>
    ensures_bind (ensures_itemsUntil closing h _) fun rest hrest => ?_
  exact ensures_pure (List.forall_mem_cons.mpr ⟨hfirst, hrest⟩)

theorem ensures_optionalMany (opening closing : Symbol) {item : Parse α} (h : Ensures item P) :
    Ensures (optionalMany opening closing item) fun items => ∀ a ∈ items, P a :=
  ensures_bind (sound_isAt _) fun _ _ =>
    ensures_ite (ensures_many opening closing h) (ensures_pure (by simp))

theorem sound_delimitedRest (delimiter : Symbol) {item : Parse α} (h : Sound item) (fuel : Nat) :
    Sound (delimitedRest delimiter item fuel) := by
  induction fuel with
  | zero => exact ensures_unexpected
  | succ fuel ih =>
    refine ensures_bind h fun _ _ => ensures_bind (sound_optional _) fun _ _ => ?_
    exact ensures_ite (ensures_bind ih fun _ _ => sound_pure _) (sound_pure _)

theorem sound_delimited (delimiter : Symbol) {item : Parse α} (h : Sound item) :
    Sound (delimited delimiter item) :=
  ensures_bind (sound_optional _) fun _ _ => ensures_bind sound_bound fun _ _ =>
    sound_delimitedRest delimiter h _

end Parse

open Parse

/-! ### Literals and types -/

theorem valid_namedLiteral (text : String) : (namedLiteral text).Valid := by
  unfold namedLiteral
  split <;> simp [Literal.Valid]

theorem ensures_variableLiteral (constant : Bool) :
    Ensures (variableLiteral constant) Literal.Valid := by
  refine ensures_bind (sound_symbol _) fun _ _ => ensures_ite ?_ ?_
  · refine ensures_bind ensures_current fun _ _ => ?_
    split
    · exact ensures_failAt _ _
    · exact ensures_failAt _ _
  · exact ensures_bind ensures_name fun _ _ => ensures_pure (by simp [Literal.Valid])

theorem ensures_literalWithin (constant : Bool) (fuel : Nat) :
    Ensures (literalWithin constant fuel) Literal.Valid := by
  induction fuel with
  | zero => exact ensures_unexpected
  | succ fuel ih =>
    refine ensures_bind ensures_current fun token htoken => ?_
    split
    · refine ensures_bind (ensures_several _ _ ih) fun items hitems => ensures_pure ?_
      simpa only [Literal.Valid] using hitems
    · have hentry : Sound (do
          let key ← name
          let _ ← symbol .colon
          return (key, ← literalWithin constant fuel)) :=
        ensures_bind ensures_name fun _ _ => ensures_bind (sound_symbol _) fun _ _ =>
          ensures_bind ih fun _ _ => sound_pure _
      exact ensures_bind (ensures_several _ _ hentry) fun _ _ =>
        ensures_pure (by simp [Literal.Valid])
    · exact ensures_variableLiteral constant
    · refine ensures_bind sound_advance fun _ _ => ensures_pure ?_
      rw [Literal.Valid]
      exact htoken
    · refine ensures_bind sound_advance fun _ _ => ensures_pure ?_
      rw [Literal.Valid]
      exact htoken
    · exact ensures_bind sound_advance fun _ _ => ensures_pure (by simp [Literal.Valid])
    · exact ensures_bind sound_advance fun _ _ => ensures_pure (by simp [Literal.Valid])
    · exact ensures_bind sound_advance fun _ _ => ensures_pure (valid_namedLiteral _)
    · exact ensures_unexpected

theorem ensures_literal (constant : Bool) : Ensures (literal constant) Literal.Valid :=
  ensures_bind sound_bound fun _ _ => ensures_literalWithin constant _

theorem ensures_typeRefWithin (fuel : Nat) : Ensures (typeRefWithin fuel) TypeRef.Valid := by
  induction fuel with
  | zero => exact ensures_unexpected
  | succ fuel ih =>
    have hbang : ∀ inner : TypeRef, inner.Valid → Ensures (do
        if ← optional .bang then return .nonNull inner else return inner) TypeRef.Valid :=
      fun _ hinner => ensures_bind (sound_optional _) fun _ _ =>
        ensures_ite (ensures_pure hinner) (ensures_pure hinner)
    refine ensures_bind (sound_optional _) fun _ _ => ensures_ite ?_ ?_
    · exact ensures_bind ih fun _ helement => ensures_bind (sound_symbol _) fun _ _ =>
        ensures_bind (ensures_pure (P := TypeRef.Valid) helement) hbang
    · exact ensures_bind (ensures_name.map fun _ hname => hname) hbang

theorem ensures_typeRef : Ensures typeRef TypeRef.Valid :=
  ensures_bind sound_bound fun _ _ => ensures_typeRefWithin _

/-! ### Directives and executable definitions -/

theorem sound_arguments (constant : Bool) : Sound (arguments constant) := by
  have hargument : Sound (argument constant) :=
    ensures_bind ensures_name fun _ _ => ensures_bind (sound_symbol _) fun _ _ =>
      ensures_bind (ensures_literal constant) fun _ _ => sound_pure _
  exact ensures_bind (ensures_optionalMany _ _ hargument) fun _ _ => sound_pure _

theorem sound_directives (constant : Bool) : Sound (directives constant) := by
  refine ensures_bind sound_bound fun fuel _ => ?_
  induction fuel with
  | zero => exact ensures_unexpected
  | succ fuel ih =>
    refine ensures_bind (sound_optional _) fun _ _ => ensures_ite ?_ (sound_pure _)
    exact ensures_bind ensures_name fun _ _ => ensures_bind (sound_arguments constant) fun _ _ =>
      ensures_bind ih fun _ _ => sound_pure _

theorem sound_fragmentName : Sound fragmentName :=
  ensures_bind ensures_current fun _ _ =>
    ensures_ite ensures_unexpected (ensures_bind ensures_name fun _ _ => sound_pure _)

theorem sound_selectionSet : Sound selectionSet := by
  refine ensures_bind sound_bound fun fuel _ => ?_
  induction fuel with
  | zero => exact ensures_unexpected
  | succ fuel ih =>
    refine ensures_bind (ensures_many _ _ (P := fun _ => True) ?_) fun _ _ => sound_pure _
    refine ensures_bind (sound_isAt _) fun _ _ => ensures_ite ?_ ?_
    · refine ensures_bind (sound_symbol _) fun _ _ =>
        ensures_bind (sound_optionalKeyword _) fun _ _ => ?_
      have hinline : Sound (do
          let _ ← directives false
          selectionSetWithin fuel) :=
        ensures_bind (sound_directives _) fun _ _ => ih
      refine ensures_bind ensures_current fun _ _ => ensures_ite ?_ ?_
      · exact ensures_bind sound_fragmentName fun _ _ =>
          ensures_bind (sound_directives _) fun _ _ => sound_pure _
      · exact ensures_ite (ensures_bind ensures_name fun _ _ => hinline) hinline
    · have hfield : Sound (do
          arguments false
          let _ ← directives false
          if ← isAt .openBrace then selectionSetWithin fuel) :=
        ensures_bind (sound_arguments _) fun _ _ => ensures_bind (sound_directives _) fun _ _ =>
          ensures_bind (sound_isAt _) fun _ _ => ensures_ite ih (sound_pure _)
      exact ensures_bind ensures_name fun _ _ => ensures_bind (sound_optional _) fun _ _ =>
        ensures_ite (ensures_bind ensures_name fun _ _ => hfield) hfield

theorem sound_variableDefinition : Sound variableDefinition := by
  refine ensures_bind (sound_symbol _) fun _ _ => ensures_bind ensures_name fun _ _ =>
    ensures_bind (sound_symbol _) fun _ _ => ensures_bind ensures_typeRef fun _ _ =>
    ensures_bind (sound_optional _) fun _ _ => ?_
  have hdirectives : Sound (do let _ ← directives true) :=
    ensures_bind (sound_directives _) fun _ _ => sound_pure _
  exact ensures_ite (ensures_bind (ensures_literal _) fun _ _ => hdirectives) hdirectives

theorem sound_operationType : Sound operationType := by
  refine ensures_bind ensures_get fun _ _ => ensures_bind ensures_name fun _ _ => ?_
  split
  · exact sound_pure _
  · exact ensures_failAt _ _

theorem ensures_operationDefinition : Ensures operationDefinition Definition.Valid := by
  have hselection : Ensures (do
      selectionSet
      return .operation) Definition.Valid :=
    ensures_bind sound_selectionSet fun _ _ => ensures_pure trivial
  have hvariables : Ensures (do
      let _ ← optionalMany .openParen .closeParen variableDefinition
      let _ ← directives false
      selectionSet
      return .operation) Definition.Valid :=
    ensures_bind (ensures_optionalMany _ _ sound_variableDefinition) fun _ _ =>
      ensures_bind (sound_directives _) fun _ _ => hselection
  refine ensures_bind (sound_isAt _) fun _ _ => ensures_ite hselection ?_
  refine ensures_bind sound_operationType fun _ _ => ensures_bind ensures_current fun _ _ => ?_
  split
  · exact ensures_bind sound_advance fun _ _ => hvariables
  · exact hvariables

theorem ensures_fragmentDefinition : Ensures fragmentDefinition Definition.Valid :=
  ensures_bind (sound_keyword _) fun _ _ => ensures_bind sound_fragmentName fun _ _ =>
    ensures_bind (sound_keyword _) fun _ _ => ensures_bind ensures_name fun _ _ =>
    ensures_bind (sound_directives _) fun _ _ => ensures_bind sound_selectionSet fun _ _ =>
    ensures_pure trivial

/-! ### Members of types -/

theorem sound_description : Sound description := by
  refine ensures_bind ensures_current fun _ _ => ?_
  split
  · exact ensures_bind sound_advance fun _ _ => sound_pure _
  · exact ensures_bind sound_advance fun _ _ => sound_pure _
  · exact sound_pure _

theorem ensures_inputValue : Ensures inputValue InputValue.Valid := by
  refine ensures_bind sound_description fun description _ => ensures_bind ensures_name fun name hname =>
    ensures_bind (sound_symbol _) fun _ _ => ensures_bind ensures_typeRef fun type htype =>
    ensures_bind (sound_optional _) fun _ _ => ?_
  refine ensures_ite_bind ((ensures_literal _).map (Q := fun d => ∀ l ∈ d, Literal.Valid l) ?_)
    (ensures_pure (by simp)) fun default hdefault => ?_
  · intro l hl
    simpa using hl
  · exact ensures_bind (sound_directives _) fun _ _ => ensures_pure ⟨hname, htype, hdefault⟩

theorem ensures_argumentDefinitions :
    Ensures argumentDefinitions fun arguments => ∀ a ∈ arguments, a.Valid :=
  ensures_optionalMany _ _ ensures_inputValue

theorem ensures_objectField : Ensures objectField ObjectField.Valid := by
  refine ensures_bind sound_description fun _ _ => ensures_bind ensures_name fun name hname =>
    ensures_bind ensures_argumentDefinitions fun arguments harguments => ?_
  exact ensures_bind (sound_symbol _) fun _ _ => ensures_bind ensures_typeRef fun type htype =>
    ensures_bind (sound_directives _) fun _ _ => ensures_pure ⟨hname, htype, harguments⟩

theorem ensures_enumValue : Ensures enumValue EnumValue.Valid := by
  refine ensures_bind sound_description fun _ _ => ensures_bind ensures_current fun _ _ => ?_
  refine ensures_ite (ensures_fail _) (ensures_bind ensures_name fun name hname => ?_)
  exact ensures_bind (sound_directives _) fun _ _ => ensures_pure hname

theorem ensures_rootType : Ensures rootType fun r => isName r.type.toList :=
  ensures_bind sound_operationType fun _ _ => ensures_bind (sound_symbol _) fun _ _ =>
    ensures_bind ensures_name fun _ hname => ensures_pure hname

theorem sound_interfaces : Sound interfaces :=
  ensures_bind (sound_optionalKeyword _) fun _ _ =>
    ensures_ite (sound_delimited _ ensures_name.sound) (sound_pure _)

/-! ### Whole documents -/

theorem sound_unionMembers : Sound unionMembers :=
  ensures_bind (sound_optional _) fun _ _ =>
    ensures_ite (sound_delimited _ ensures_name.sound) (sound_pure _)

theorem ensures_directiveDefinition : Ensures directiveDefinition Definition.Valid := by
  have hlocation : Sound directiveLocation :=
    ensures_bind ensures_get fun _ _ => ensures_bind ensures_name fun _ _ =>
      ensures_ite (sound_pure _) (ensures_failAt _ _)
  exact ensures_bind (sound_symbol _) fun _ _ => ensures_bind ensures_name fun _ _ =>
    ensures_bind ensures_argumentDefinitions fun _ _ =>
    ensures_bind (sound_optionalKeyword _) fun _ _ => ensures_bind (sound_keyword _) fun _ _ =>
    ensures_bind (sound_delimited _ hlocation) fun _ _ => ensures_pure trivial

theorem ensures_typeSystemBody (word : String) (isExtension : Bool)
    (description : Option String) :
    Ensures (typeSystemBody word isExtension description) Definition.Valid := by
  have hadds : ∀ something : Bool,
      Sound (if isExtension && !something then unexpected else pure () : Parse Unit) :=
    fun _ => ensures_ite ensures_unexpected (sound_pure ())
  unfold typeSystemBody
  split
  case h_1 =>
    refine ensures_bind (sound_directives _) fun _ _ => ?_
    refine ensures_ite_bind (ensures_optionalMany _ _ ensures_rootType)
      (ensures_many _ _ ensures_rootType) fun roots hroots => ?_
    refine ensures_bind (hadds _) fun _ _ => ensures_pure ?_
    split_ifs
    · exact hroots
    · exact hroots
  case h_2 =>
    refine ensures_bind ensures_name fun _ hname => ensures_bind (sound_directives _) fun _ _ =>
      ensures_bind (hadds _) fun _ _ => ensures_pure ?_
    split_ifs
    · trivial
    · exact hname
  case h_3 =>
    exact ensures_bind ensures_name fun _ hname => ensures_bind sound_interfaces fun _ _ =>
      ensures_bind (sound_directives _) fun _ _ =>
      ensures_bind (ensures_optionalMany _ _ ensures_objectField) fun _ hmembers =>
      ensures_bind (hadds _) fun _ _ => ensures_pure ⟨hname, hmembers⟩
  case h_4 =>
    exact ensures_bind ensures_name fun _ _ => ensures_bind sound_interfaces fun _ _ =>
      ensures_bind (sound_directives _) fun _ _ =>
      ensures_bind (ensures_optionalMany _ _ ensures_objectField) fun _ _ =>
      ensures_bind (hadds _) fun _ _ => ensures_pure trivial
  case h_5 =>
    exact ensures_bind ensures_name fun _ _ => ensures_bind (sound_directives _) fun _ _ =>
      ensures_bind sound_unionMembers fun _ _ => ensures_bind (hadds _) fun _ _ =>
      ensures_pure trivial
  case h_6 =>
    exact ensures_bind ensures_name fun _ hname => ensures_bind (sound_directives _) fun _ _ =>
      ensures_bind (ensures_optionalMany _ _ ensures_enumValue) fun _ hmembers =>
      ensures_bind (hadds _) fun _ _ => ensures_pure ⟨hname, hmembers⟩
  case h_7 =>
    exact ensures_bind ensures_name fun _ hname => ensures_bind (sound_directives _) fun _ _ =>
      ensures_bind (ensures_optionalMany _ _ ensures_inputValue) fun _ hmembers =>
      ensures_bind (hadds _) fun _ _ => ensures_pure ⟨hname, hmembers⟩
  case h_8 => exact ensures_unexpected

theorem ensures_extensionDefinition : Ensures extensionDefinition Definition.Valid := by
  refine ensures_bind ensures_lookahead fun _ _ => ?_
  split
  · refine ensures_ite ?_ (ensures_bind (P := fun _ => False) (ensures_failAt _ _) fun _ => ?_)
    · exact ensures_bind sound_advance fun _ _ => ensures_bind sound_advance fun _ _ =>
        ensures_typeSystemBody _ _ _
    · exact False.elim
  · exact ensures_failAt _ _

theorem ensures_described (description : Option String) (word : String) :
    Ensures (described description word) Definition.Valid :=
  ensures_bind sound_advance fun _ _ =>
    ensures_ite ensures_directiveDefinition (ensures_typeSystemBody _ _ _)

theorem ensures_definition : Ensures definition Definition.Valid := by
  refine ensures_bind (sound_isAt _) fun _ _ => ensures_ite ensures_operationDefinition ?_
  refine ensures_bind ensures_get fun start _ =>
    ensures_ite_bind ensures_lookahead.sound (sound_pure _) fun place _ => ?_
  obtain ⟨token, offset⟩ := place
  cases token with
  | name word =>
    refine ensures_ite (ensures_bind sound_description fun _ _ => ensures_described _ _)
      (ensures_ite (ensures_failAt _ _) ?_)
    split
    · exact ensures_operationDefinition
    · exact ensures_operationDefinition
    · exact ensures_operationDefinition
    · exact ensures_fragmentDefinition
    · exact ensures_extensionDefinition
    · exact ensures_failAt _ _
  | _ => exact ensures_failAt _ _

theorem ensures_document : Ensures document fun ds => ∀ d ∈ ds, d.Valid := by
  refine ensures_bind sound_bound fun fuel _ => ?_
  induction fuel with
  | zero => exact ensures_unexpected
  | succ fuel ih =>
    refine ensures_bind ensures_definition fun first hfirst =>
      ensures_bind ensures_current fun _ _ => ensures_ite (ensures_pure (by simpa using hfirst)) ?_
    exact ensures_bind ih fun rest hrest =>
      ensures_pure (List.forall_mem_cons.mpr ⟨hfirst, hrest⟩)

theorem valid_of_start {s : Scan} {c : Cursor} (hs : ∀ l ∈ s.lexemes, l.token.Valid)
    (h : s.start = .ok c) : c.Valid := by
  unfold Scan.start at h
  split at h
  · cases h
  · rename_i first rest hlexemes
    obtain rfl := Except.ok.inj h
    rw [hlexemes, List.forall_mem_cons] at hs
    exact ⟨hs.1, hs.2⟩

/-- What a reader ensures, it ensures of whole texts too. -/
theorem ensures_toEnd {α : Type} {p : Parse α} {P : α → Prop} (hp : Ensures p P) :
    Ensures (do let a ← p; endOfText; return a) P :=
  ensures_bind hp fun _ ha => ensures_bind sound_endOfText fun _ _ => ensures_pure ha

theorem of_readAll {α : Type} {p : Parse α} {P : α → Prop} (hp : Ensures p P) {s : String} {a : α}
    (h : readAll p s = .ok a) : P a := by
  obtain ⟨start, hstart, h⟩ := bind_eq_ok_iff.mp h
  obtain ⟨⟨result, last⟩, hrun, h⟩ := bind_eq_ok_iff.mp h
  obtain rfl := Except.ok.inj h
  exact ((ensures_toEnd hp).ok _ _ _ (valid_of_start (valid_of_scan s) hstart) hrun).2.2

theorem valid_of_readDocument {s : String} {definitions : List Definition}
    (h : readDocument s = .ok definitions) : ∀ d ∈ definitions, d.Valid :=
  of_readAll ensures_document h

end SchemaClient.Sdl
