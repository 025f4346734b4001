import SchemaClient.Proofs.Module.ClassName
import SchemaClient.Proofs.Name.Member
import SchemaClient.Proofs.Schema.Valid

/-! Classes and the names that the rest of a module reads: a class hides none of them but `super`
and what stands inside the type of a scalar. -/
namespace SchemaClient

open Sdl (isName isNamePart isNameStart)

/-! ### Names within a text -/

namespace Text

/-- A name that starts in ASCII, whatever its other letters are. -/
def isPlainName : List Char → Bool
  | [] => false
  | c :: rest => isNameStart c && rest.all isWord

/-- A name, possibly the first of a dotted one, stands behind `before`: it is part of no longer name
and no attribute. -/
def StartsNameAt (before name text : List Char) : Prop :=
  ∃ after, text = before ++ name ++ after ∧
    (before.getLast?.any fun c => isWord c || c == '.') = false ∧ after.head?.any isWord = false

theorem isWord_of_isNamePart {c : Char} (h : isNamePart c) : isWord c := by
  rw [isWord, if_pos (Name.ascii_of_isNamePart h)]
  exact h

theorem isPlainName_of_isName {cs : List Char} (h : isName cs) : isPlainName cs := by
  cases cs with
  | nil => exact absurd h (by decide)
  | cons c rest =>
    obtain ⟨hc, hrest⟩ := Bool.and_eq_true_iff.mp h
    refine Bool.and_eq_true_iff.mpr ⟨hc, List.all_eq_true.mpr fun d hd => ?_⟩
    exact isWord_of_isNamePart (List.all_eq_true.mp hrest d hd)

theorem leadingName_append {name after : List Char} (hname : isPlainName name)
    (hafter : after.head?.any isWord = false) : leadingName (name ++ after) = name := by
  cases name with
  | nil => exact absurd hname (by decide)
  | cons c rest =>
    obtain ⟨hc, hrest⟩ := Bool.and_eq_true_iff.mp hname
    have hstop : after.takeWhile isWord = [] := by
      cases after with
      | nil => rfl
      | cons d more => exact List.takeWhile_cons_of_neg (Bool.eq_false_iff.mp hafter)
    rw [isNameStart] at hc
    rw [List.cons_append, leadingName, if_pos hc,
      List.takeWhile_append_of_pos (List.all_eq_true.mp hrest), hstop, List.append_nil]

theorem leadingName_of_startsNameAt {name text : List Char} (hname : isPlainName name)
    (h : StartsNameAt [] name text) : leadingName text = name := by
  obtain ⟨after, rfl, -, hafter⟩ := h
  exact leadingName_append hname hafter

end Text

/-! ### Names that a module reads -/

/-- The names that the text of a module reads, apart from those of its own classes and functions
and those in the types of scalars. -/
def Module.globalNames : List String := [
  -- the client
  "httpx", "runtime", "super",
  -- attributes, and accessors with a selector
  "pydantic", "list", "typing", "T",
  -- enums
  "str", "enum",
  -- the loop behind all classes
  "_model"]

/-- Scalars whose types a module may read: those of the schema and those of the language. -/
def Schema.Document.knownScalars (d : Schema.Document) : List String :=
  d.scalars ++ ScalarRegistry.builtinNames

theorem Module.startsNameAt_super (m : Module) :
    ∃ before, Text.StartsNameAt before "super".toList m.text.toList := by
  obtain ⟨front, hfront⟩ : ∃ front, m.clientText =
      front ++ "        super().__init__(http_client, query_pipeline)\n" := ⟨_, rfl⟩
  obtain ⟨back, hback⟩ : ∃ back, m.text = m.header ++ m.importLines ++ m.clientText ++ back := by
    unfold text
    simp only [String.append_assoc, String.append_right_inj, exists_eq']
  have hline : "        super().__init__(http_client, query_pipeline)\n" =
      "        " ++ "super" ++ "().__init__(http_client, query_pipeline)\n" := rfl
  refine ⟨(m.header ++ m.importLines ++ front ++ "        ").toList,
    ("().__init__(http_client, query_pipeline)\n" ++ back).toList, ?_, ?_, ?_⟩
  · rw [hback, hfront, hline]
    simp only [String.toList_append, List.append_assoc]
  · rw [String.toList_append, List.getLast?_append_of_ne_nil _ (by decide)]
    decide +kernel
  · rw [String.toList_append, List.head?_append_of_ne_nil _ (by decide)]
    decide +kernel

theorem Schema.Document.Valid.isName_typeNames {d : Schema.Document} (h : d.Valid) :
    ∀ n ∈ Model.typeNames d, isName n.toList := by
  simp only [Model.typeNames, List.forall_mem_append, List.forall_mem_map]
  exact ⟨⟨fun b hb => (h.objects b hb).name, fun b hb => (h.inputs b hb).name⟩,
    fun b hb => (h.enums b hb).name⟩

theorem Module.globalNames_kept {n : String} (h : n ∈ globalNames) :
    n = "super" ∨ n ∈ Name.moduleNames ++ Name.builtinNames := by
  revert n
  decide

theorem ScalarRegistry.typeText_builtin (scalars : ScalarRegistry) {s : String}
    (h : s ∈ builtinNames) : scalars.typeText s ∈ Name.builtinNames ∧
      Text.leadingName (scalars.typeText s).toList = (scalars.typeText s).toList := by
  have hall : ∀ s ∈ builtinNames, ∃ text ∈ Name.builtinNames, builtins.get? s = some text ∧
      Text.leadingName text.toList = text.toList := by
    decide +kernel
  obtain ⟨text, hkept, hget, hlead⟩ := hall s h
  rw [typeText, hget]
  exact ⟨hkept, hlead⟩

/-- The name at the start of the type of a scalar is kept for the module. -/
theorem Model.leadingName_mem_moduleNames {d : Schema.Document} {s : String}
    (hs : s ∈ d.knownScalars) (scalars : ScalarRegistry) :
    .ofList (Text.leadingName (scalars.typeText s).toList) ∈ moduleNames d scalars := by
  rcases List.mem_append.mp hs with hs | hs
  · exact List.mem_append_right _ (List.mem_map.mpr ⟨s, hs, rfl⟩)
  · obtain ⟨hmem, hlead⟩ := scalars.typeText_builtin hs
    rw [hlead, String.ofList_toList]
    exact List.mem_append_left _ (List.mem_append_right _ hmem)

/-- No class is called like something that the module binds for itself, and none but `super` like
something that its text reads. The name of a class may stand in the type of a scalar, but not at its
start, where only a client name that starts outside ASCII is let through. -/
theorem classNames_apart_from_globalNames {sdl : String} {d : Schema.Document}
    {scalars : ScalarRegistry} {namespaceName : String} {clientName : Option String} {m : Model}
    (hd : (Schema.read sdl).result = .ok d)
    (hm : (Model.build d scalars namespaceName clientName).result = .ok m) :
    ∀ n ∈ (Module.ofModel scalars m).classNames,
      n ∉ Name.moduleNames ∧ (n ∈ Module.globalNames → n = "super") ∧
      ∀ s ∈ d.knownScalars, ∀ before,
        Text.StartsNameAt before n.toList (scalars.typeText s).toList →
          before ≠ [] ∨ n = m.clientName ∧ ¬Text.isPlainName n.toList := by
  intro n hn
  rw [Module.classNames_of_build hm] at hn
  obtain ⟨hclient, htypes⟩ := Model.names_free_of_build hm
  have hfree : n ∉ Model.moduleNames d scalars := by
    rcases List.mem_cons.mp hn with rfl | hn
    · exact hclient
    · exact (htypes n hn).1
  have hplain : n = m.clientName ∨ Text.isPlainName n.toList := by
    refine (List.mem_cons.mp hn).imp_right fun hn => ?_
    exact Text.isPlainName_of_isName ((Schema.valid_of_read hd).isName_typeNames n hn)
  refine ⟨fun hkept => ?_, fun hglobal => ?_, fun s hs before hstarts => ?_⟩
  · exact hfree (List.mem_append_left _ (List.mem_append_left _ hkept))
  · refine (Module.globalNames_kept hglobal).resolve_right fun hkept => ?_
    exact hfree (List.mem_append_left _ hkept)
  · by_cases hname : Text.isPlainName n.toList
    · refine .inl fun hbefore => hfree ?_
      subst hbefore
      have hmem := Model.leadingName_mem_moduleNames hs scalars
      rwa [Text.leadingName_of_startsNameAt hname hstarts, String.ofList_toList] at hmem
    · exact .inr ⟨hplain.resolve_right hname, hname⟩

/-- A scalar of the standard table beside a class that is called like another one. -/
def scalarNameForClass : String :=
  "schema\x7bquery:Q\x7d scalar DateTime type Q\x7ba:DateTime\x7d type Date\x7bx:Int\x7d"

theorem classNames_apart_from_globalNames_scalarNameForClass :
    ∃ d m, (Schema.read scalarNameForClass).result = .ok d ∧
      (Model.build d .standard "Demo" none).result = .ok m ∧
      (d.scalars, (Module.ofModel .standard m).classNames) =
        (["DateTime"], ["GraphQLClient", "Q", "Date"]) ∧
      ∀ n ∈ (Module.ofModel .standard m).classNames,
        n ∉ Name.moduleNames ∧ (n ∈ Module.globalNames → n = "super") ∧
        ∀ s ∈ d.knownScalars, ∀ before,
          Text.StartsNameAt before n.toList (ScalarRegistry.standard.typeText s).toList →
            before ≠ [] ∨ n = m.clientName ∧ ¬Text.isPlainName n.toList := by
  obtain ⟨d, m, hd, hm, hview⟩ := Traced.exists_of_view (x := Schema.read scalarNameForClass)
    (f := fun d => Model.build d .standard "Demo" none)
    (g := fun d m => (d.scalars, (Module.ofModel .standard m).classNames))
    (v := (["DateTime"], ["GraphQLClient", "Q", "Date"])) (by decide +kernel)
  exact ⟨d, m, hd, hm, hview, classNames_apart_from_globalNames hd hm⟩

/-- Types of scalars that need more names than the one at their start, or one outside ASCII. -/
def wideScalars : ScalarRegistry :=
  (ScalarRegistry.standard.register "Money"
    ⟨"dict[str, Decimal]", some "from decimal import Decimal"⟩).register "Price" ⟨"é.Price", none⟩

def hidingTypes : String :=
  "schema\x7bquery:Q\x7d scalar Money scalar Price type Q\x7ba:Money b:Price\x7d" ++
    "type Decimal\x7bx:Int\x7d type super\x7bx:Int\x7d"

theorem globals_hidden_hidingTypes :
    ∃ d m, (Schema.read hidingTypes).result = .ok d ∧
      (Model.build d wideScalars "Demo" (some "é")).result = .ok m ∧
      (d.scalars, m.scalarImports, (Module.ofModel wideScalars m).classNames) =
        (["Money", "Price"], ["from decimal import Decimal"], ["é", "Q", "Decimal", "super"]) ∧
      (∃ before, Text.StartsNameAt before "super".toList
        (Module.ofModel wideScalars m).text.toList) ∧
      Text.StartsNameAt "dict[str, ".toList "Decimal".toList
        (wideScalars.typeText "Money").toList ∧
      Text.StartsNameAt [] "é".toList (wideScalars.typeText "Price").toList := by
  obtain ⟨d, m, hd, hm, hview⟩ := Traced.exists_of_view (x := Schema.read hidingTypes)
    (f := fun d => Model.build d wideScalars "Demo" (some "é"))
    (g := fun d m => (d.scalars, m.scalarImports, (Module.ofModel wideScalars m).classNames))
    (v := (["Money", "Price"], ["from decimal import Decimal"], ["é", "Q", "Decimal", "super"]))
    (by decide +kernel)
  refine ⟨d, m, hd, hm, hview, Module.startsNameAt_super _, ⟨"]".toList, ?_⟩, ⟨".Price".toList, ?_⟩⟩
  · decide +kernel
  · decide +kernel

end SchemaClient
