import SchemaClient.Proofs.Module.Mark

/-! The marks in the text of a module, declaration by declaration. -/
namespace SchemaClient

open Mark

variable {mark : Mark}

namespace Module

/-! ### Lines -/

theorem count_quotedDocstring (d : String) :
    mark.count (quotedDocstring d) = mark.count (Text.docstring d) := by
  have hquotes : IsUnmarked "\"\"\"" := isUnmarked_literal rfl (by decide)
  rw [quotedDocstring, String.append_assoc, hquotes.count_append,
    mark.count_append_of_closer _ (c := '"') (by rfl) (by simp [closers]),
    hquotes.count_eq_zero mark, Nat.add_zero]

theorem lines_docstringLines (d : String) :
    mark.Lines (docstringLines d) (mark.count (Text.docstring d)) := by
  have htwo : "\n\n" = "\n" ++ ("" ++ "\n") := rfl
  have hline : mark.lineCount (indent ++ quotedDocstring d) = mark.count (Text.docstring d) := by
    rw [lineCount_indent_append, count_quotedDocstring]
  have hlines : mark.Lines _ _ :=
    (lines_concat (indent ++ quotedDocstring d)).append (lines_concat "")
  rw [hline, lineCount_empty, Nat.add_zero] at hlines
  rw [docstringLines, htwo, ← String.append_assoc]
  exact hlines

theorem lines_classLine (name : String) {base : String} (hbase : IsUnmarked base) :
    mark.Lines (classLine name base) (mark.perClass + mark.count name) := by
  have hend : "):\n" = "):" ++ "\n" := rfl
  have hbehind : mark.count ("(" ++ (base ++ "):")) = 0 :=
    (isUnmarked_append.mpr ⟨isUnmarked_literal rfl (by decide), isUnmarked_append.mpr
      ⟨hbase, isUnmarked_literal rfl (by decide)⟩⟩).count_eq_zero mark
  have hline : mark.lineCount ("\n\nclass " ++ (name ++ ("(" ++ (base ++ "):")))) =
      mark.perClass + mark.count name := by
    rw [mark.lineCount_literal_append (s := "\n\nclass ") rfl (by cases mark <;> decide),
      mark.count_append_of_closer _ (c := '(') (by simp [String.toList_append]) (by simp [closers]),
      hbehind, mark.lineCount_literal (s := "\n\nclass ") rfl]
    cases mark <;> rfl
  have hlines : mark.Lines _ _ := lines_concat ("\n\nclass " ++ (name ++ ("(" ++ (base ++ "):"))))
  rw [hline] at hlines
  rw [classLine, hend]
  simpa only [String.append_assoc] using hlines

/-! ### Classes -/

/-- All but the options of an attribute is free of marks, and so are the wire names. No option goes
over the end of a line. -/
structure Attribute.IsUnmarked (a : Attribute) : Prop where
  name : Mark.IsUnmarked a.name
  hint : Mark.IsUnmarked a.hint
  wireNames : ∀ w, .wireName w ∈ a.options → Mark.IsUnmarked (Text.stringLiteral w)
  lines : ∀ o ∈ a.options, '\n' ∉ o.text.toList

structure Method.IsUnmarked (m : Method) : Prop where
  name : Mark.IsUnmarked m.name
  parameters : ∀ p ∈ m.parameters, Mark.IsUnmarked p.text
  returns : Mark.IsUnmarked m.returns
  body : Mark.IsUnmarked m.body.text

structure ClassDeclaration.IsUnmarked (c : ClassDeclaration) : Prop where
  name : Mark.IsUnmarked c.name
  base : Mark.IsUnmarked c.base
  attributes : ∀ a ∈ c.attributes, a.IsUnmarked
  methods : ∀ m ∈ c.methods, m.IsUnmarked

/-- Commas and brackets end what the options hold. -/
theorem count_join_options (options : List FieldOption) :
    mark.count (Text.join ", " (options.map FieldOption.text) ++ ")") =
      (options.map fun o => mark.count o.text).sum := by
  have hend : mark.count ")" = 0 :=
    (isUnmarked_literal (s := ")") rfl (by decide)).count_eq_zero mark
  induction options with
  | nil => exact hend
  | cons o more ih =>
    cases more with
    | nil =>
      rw [List.map_singleton, List.map_singleton, List.sum_singleton, Text.join,
        mark.count_append_of_closer _ (c := ')') (by rfl) (by simp [closers]), hend, Nat.add_zero]
    | cons next more =>
      have hcomma : Mark.IsUnmarked ", " := isUnmarked_literal rfl (by decide)
      have hjoin : Text.join ", " ((o :: next :: more).map FieldOption.text) =
        o.text ++ ", " ++ Text.join ", " ((next :: more).map FieldOption.text) := rfl
      rw [hjoin, String.append_assoc, String.append_assoc,
        mark.count_append_of_closer _ (c := ',') (by simp [String.toList_append])
          (by simp [closers]), hcomma.count_append, ih]
      simp only [List.map_cons, List.sum_cons]

theorem lineCount_attribute {a : Attribute} (h : a.IsUnmarked) :
    mark.lineCount a.text = (a.options.map fun o => mark.count o.text).sum := by
  have hcolon : Mark.IsUnmarked ": " := isUnmarked_literal rfl (by decide)
  have hfield : Mark.IsUnmarked " = pydantic.Field(" := isUnmarked_literal rfl (by decide)
  rw [Attribute.text]
  simp only [String.append_assoc]
  rw [lineCount_indent_append, h.name.count_append, hcolon.count_append, h.hint.count_append,
    hfield.count_append, count_join_options]

theorem lineCount_signature {m : Method} (h : m.IsUnmarked) :
    ∀ line ∈ m.signature, mark.lineCount line = 0 := by
  have hplain : ∀ s, Mark.IsUnmarked s → mark.lineCount (indent ++ s) = 0 :=
    fun s hs => (lineCount_indent_append mark s).trans (hs.count_eq_zero mark)
  have hliteral : ∀ s ∈ ["def ", "(", ", ", ") -> ", ":", indent, ","], Mark.IsUnmarked s := by
    simp only [List.forall_mem_cons]
    refine ⟨?_, ?_, ?_, ?_, ?_, ?_, ?_, by simp⟩ <;> exact isUnmarked_literal rfl (by decide)
  have hparameters : ∀ s ∈ m.parameters.map Parameter.text, Mark.IsUnmarked s :=
    List.forall_mem_map.mpr h.parameters
  have hjoin := isUnmarked_join (hliteral ", " (by simp)) hparameters
  unfold Method.signature
  intro line hline
  dsimp only at hline
  split_ifs at hline
  · rw [List.mem_singleton.mp hline]
    simp only [String.append_assoc]
    apply hplain
    simp only [isUnmarked_append]
    exact ⟨hliteral _ (by simp), h.name, hliteral _ (by simp), hjoin, hliteral _ (by simp),
      h.returns, hliteral _ (by simp)⟩
  · rw [List.mem_append, List.mem_append, List.mem_singleton, List.mem_singleton,
      List.mem_map] at hline
    rcases hline with (rfl | ⟨p, hp, rfl⟩) | rfl
    · simp only [String.append_assoc]
      apply hplain
      simp only [isUnmarked_append]
      exact ⟨hliteral _ (by simp), h.name, hliteral _ (by simp)⟩
    · simp only [String.append_assoc]
      apply hplain
      simp only [isUnmarked_append]
      exact ⟨hliteral _ (by simp), hparameters p hp, hliteral _ (by simp)⟩
    · simp only [String.append_assoc]
      apply hplain
      simp only [isUnmarked_append]
      exact ⟨hliteral _ (by simp), h.returns, hliteral _ (by simp)⟩

theorem lineCount_method {m : Method} (h : m.IsUnmarked) :
    mark.lineCount m.text = mark.perMethod +
      (m.docstring.toList.map fun d => mark.count (Text.docstring d)).sum := by
  have hindent : Mark.IsUnmarked indent := isUnmarked_literal rfl (by decide)
  have hdecorator : mark.lineCount (indent ++ selectorDecorator) = mark.perMethod := by
    rw [lineCount_indent_append, mark.count_literal (s := selectorDecorator) rfl]
    cases mark <;> rfl
  have hsignature : (m.signature.map mark.lineCount).sum = 0 :=
    List.sum_eq_zero (List.forall_mem_map.mpr (lineCount_signature h))
  have hdocstring : ∀ d, mark.lineCount (indent ++ indent ++ quotedDocstring d) =
      mark.count (Text.docstring d) := by
    intro d
    rw [String.append_assoc, lineCount_indent_append, hindent.count_append, count_quotedDocstring]
  have hreturn : mark.lineCount (indent ++ indent ++ "return " ++ m.body.text) = 0 := by
    simp only [String.append_assoc]
    rw [lineCount_indent_append]
    refine IsUnmarked.count_eq_zero mark ?_
    simp only [isUnmarked_append]
    exact ⟨hindent, isUnmarked_literal rfl (by decide), h.body⟩
  rw [Method.text, lineCount_join_newline]
  simp only [List.map_append, List.sum_append, List.map_cons, List.map_nil, List.sum_cons,
    List.sum_nil, hdecorator, hsignature, hreturn]
  cases m.docstring with
  | none => simp
  | some d => simp [hdocstring]

/-- What stands between the quotes of the docstrings of a class. -/
def ClassDeclaration.docstrings (c : ClassDeclaration) : List String :=
  (c.description.toList ++ c.methods.flatMap fun m => m.docstring.toList).map Text.docstring

def ClassDeclaration.options (c : ClassDeclaration) : List FieldOption :=
  c.attributes.flatMap Attribute.options

theorem sum_map_flatMap {α β : Type} (f : α → List β) (n : β → ℕ) (as : List α) :
    ((as.flatMap f).map n).sum = (as.map fun a => ((f a).map n).sum).sum := by
  simp [List.flatMap, List.sum_flatten, Function.comp_def]

theorem sum_methods {methods : List Method} (h : ∀ m ∈ methods, m.IsUnmarked) :
    (methods.map fun m => mark.lineCount m.text).sum = mark.perMethod * methods.length +
      ((methods.flatMap fun m => m.docstring.toList).map fun d =>
        mark.count (Text.docstring d)).sum := by
  rw [sum_map_flatMap, List.map_congr_left fun m hm => lineCount_method (h m hm),
    List.sum_map_add, List.map_const', List.sum_replicate, smul_eq_mul, Nat.mul_comm]

theorem sum_attributes {attributes : List Attribute} (h : ∀ a ∈ attributes, a.IsUnmarked) :
    (attributes.map fun a => mark.lineCount a.text).sum =
      ((attributes.flatMap Attribute.options).map fun o => mark.count o.text).sum := by
  rw [sum_map_flatMap, List.map_congr_left fun a ha => lineCount_attribute (h a ha)]

/-- Attributes and methods are lines of their own. -/
theorem lineCount_body (c : ClassDeclaration) : mark.lineCount c.body =
    (c.attributes.map fun a => mark.lineCount a.text).sum +
      (c.methods.map fun m => mark.lineCount m.text).sum := by
  cases hfirst : c.attributes with
  | nil =>
    cases hmethod : c.methods with
    | nil =>
      have hbody : c.body = indent ++ "pass" := by simp [ClassDeclaration.body, hfirst, hmethod]
      rw [hbody, lineCount_indent_append]
      exact (isUnmarked_literal (s := "pass") rfl (by decide)).count_eq_zero mark
    | cons m more =>
      have hbody : c.body = Text.join "\n\n" ((m :: more).map Method.text) := by
        simp [ClassDeclaration.body, hfirst, hmethod]
      rw [hbody, lineCount_join_blankLine, List.map_map, List.map_nil, List.sum_nil, Nat.zero_add,
        Function.comp_def]
  | cons a more =>
    have hbody : c.body = Text.join "\n\n"
        (Text.join "\n" ((a :: more).map Attribute.text) :: c.methods.map Method.text) := by
      simp [ClassDeclaration.body, hfirst]
    rw [hbody, lineCount_join_blankLine, List.map_cons, List.sum_cons, lineCount_join_newline,
      List.map_map, List.map_map, Function.comp_def, Function.comp_def]

/-- A docstring that is left out is empty. -/
theorem lines_description (description : Option String) :
    mark.Lines ((((nonEmpty (description.map Text.docstring)).bind fun _ => description).map
      docstringLines).getD "") ((description.toList.map Text.docstring).map mark.count).sum := by
  have hempty : mark.count "" = 0 :=
    (isUnmarked_literal (s := "") rfl (by decide)).count_eq_zero mark
  cases description with
  | none => exact lines_empty
  | some d =>
    by_cases hd : Text.docstring d = ""
    · simpa [nonEmpty, hd, hempty] using lines_empty
    · simpa [nonEmpty, hd] using lines_docstringLines d

theorem lines_class {c : ClassDeclaration} (h : c.IsUnmarked) :
    mark.Lines c.text (mark.perClass + mark.perMethod * c.methods.length +
      (c.docstrings.map mark.count).sum + (c.options.map fun o => mark.count o.text).sum) := by
  have hlines : mark.Lines _ _ := ((lines_classLine c.name h.base).append
    (lines_description c.description)).append (lines_concat c.body)
  rw [lineCount_body, sum_attributes h.attributes, sum_methods h.methods,
    h.name.count_eq_zero mark, ← String.append_assoc] at hlines
  have hcount : (c.docstrings.map mark.count).sum =
      ((c.description.toList.map Text.docstring).map mark.count).sum +
        ((c.methods.flatMap fun m => m.docstring.toList).map fun d =>
          mark.count (Text.docstring d)).sum := by
    rw [ClassDeclaration.docstrings, List.map_append, List.map_append, List.sum_append,
      List.map_map (l := c.methods.flatMap _), Function.comp_def]
  rw [hcount, ClassDeclaration.options]
  exact hlines.congr (by ring)

end Module

/-! ### Enums -/

structure Enum.IsUnmarked (e : Enum) : Prop where
  name : Mark.IsUnmarked e.name
  memberNames : ∀ v ∈ e.entries, Mark.IsUnmarked v.memberName
  wireNames : ∀ v ∈ e.entries, Mark.IsUnmarked (Text.stringLiteral v.wireName)

namespace Module

theorem lines_indented {s : String} (hs : Mark.IsUnmarked s) :
    mark.Lines ("    " ++ s ++ "\n") 0 :=
  (lines_concat _).congr ((lineCount_indent_append mark s).trans (hs.count_eq_zero mark))

theorem lines_enum {e : Enum} (h : e.IsUnmarked) :
    mark.Lines (enumText e)
      (mark.perClass + ((e.description.toList.map Text.docstring).map mark.count).sum) := by
  have hdescription : mark.Lines (((nonEmpty e.description).map docstringLines).getD "")
      ((e.description.toList.map Text.docstring).map mark.count).sum := by
    rcases hd : e.description with _ | d
    · exact lines_empty
    · by_cases hempty : d = ""
      · rw [hempty]
        exact lines_empty.congr (by cases mark <;> rfl)
      · simpa [nonEmpty, hempty] using lines_docstringLines d
  have hmembers : mark.Lines (if e.entries.isEmpty then "    pass\n"
      else Text.join "" (e.entries.map fun v =>
        "    " ++ v.memberName ++ " = " ++ Text.stringLiteral v.wireName ++ "\n")) 0 := by
    split_ifs
    · exact lines_indented (s := "pass") (isUnmarked_literal rfl (by decide))
    · refine (lines_join (n := fun _ => 0) fun v hv => ?_).congr (by simp)
      have hentry : Mark.IsUnmarked (v.memberName ++ " = " ++ Text.stringLiteral v.wireName) :=
        isUnmarked_append.mpr ⟨isUnmarked_append.mpr ⟨h.memberNames v hv,
          isUnmarked_literal rfl (by decide)⟩, h.wireNames v hv⟩
      simpa only [← String.append_assoc] using lines_indented hentry
  have hbase : Mark.IsUnmarked "str, enum.Enum" := isUnmarked_literal rfl (by decide)
  have hlines := ((lines_classLine e.name hbase).append hdescription).append hmembers
  exact hlines.congr (by rw [h.name.count_eq_zero mark, Nat.add_zero, Nat.add_zero])

/-- Literals with a mark nowhere in their lines. -/
theorem lines_quiet {s : String} {cs : List Char} (hs : s = .ofList cs)
    (hlast : cs.getLast? = some '\n')
    (hquiet : Text.countFrom (mark.first :: mark.rest) 0 ('\n' :: cs) = 0) : mark.Lines s 0 :=
  (lines_literal hs hlast).congr ((mark.lineCount_literal hs).trans hquiet)

theorem lines_registration {e : Enum} (h : e.IsUnmarked) : mark.Lines (registrationText e) 0 := by
  have hrow : ∀ key value, Mark.IsUnmarked key → Mark.IsUnmarked value →
      mark.Lines ("            " ++ key ++ ": " ++ value ++ ",\n") 0 := by
    intro key value hkey hvalue
    have hindent : "            " = "    " ++ "        " := rfl
    have hend : ",\n" = "," ++ "\n" := rfl
    have hrow : Mark.IsUnmarked ("        " ++ key ++ ": " ++ value ++ ",") := by
      simp only [isUnmarked_append]
      exact ⟨⟨⟨⟨isUnmarked_literal rfl (by decide), hkey⟩, isUnmarked_literal rfl (by decide)⟩,
        hvalue⟩, isUnmarked_literal rfl (by decide)⟩
    have hline : mark.Lines _ _ := lines_indented hrow
    rw [hindent, hend]
    simpa only [← String.append_assoc] using hline
  have hmember : ∀ v ∈ e.entries, Mark.IsUnmarked (e.name ++ "." ++ v.memberName) := fun v hv =>
    isUnmarked_append.mpr ⟨isUnmarked_append.mpr ⟨h.name, isUnmarked_literal rfl (by decide)⟩,
      h.memberNames v hv⟩
  have hstart : mark.Lines
      ("    registry.register(\n        " ++ e.name ++ ",\n        \x7b\n") 0 := by
    have hcall : "    registry.register(\n        " = "    " ++ "registry.register(" ++ "\n" ++
      ("    " ++ "    ") := rfl
    have hbrace : ",\n        \x7b\n" = "," ++ "\n" ++ ("    " ++ "    \x7b" ++ "\n") := rfl
    have hname : Mark.IsUnmarked ("    " ++ e.name ++ ",") := by
      simp only [isUnmarked_append]
      exact ⟨⟨isUnmarked_literal rfl (by decide), h.name⟩, isUnmarked_literal rfl (by decide)⟩
    have hlines : mark.Lines _ _ := ((lines_indented (s := "registry.register(")
      (isUnmarked_literal rfl (by decide))).append (lines_indented hname)).append
        (lines_indented (s := "    \x7b") (isUnmarked_literal rfl (by decide)))
    rw [hcall, hbrace]
    simpa only [← String.append_assoc] using hlines
  have hmiddle : mark.Lines "        \x7d,\n        \x7b\n" 0 :=
    lines_quiet rfl rfl (by cases mark <;> rfl)
  have hend : mark.Lines "        \x7d,\n    )\n" 0 := lines_quiet rfl rfl (by cases mark <;> rfl)
  have hforth : mark.Lines _ _ := lines_join (n := fun _ => 0) fun v hv =>
    hrow _ _ (h.wireNames v hv) (hmember v hv)
  have hback : mark.Lines _ _ := lines_join (n := fun _ => 0) fun v hv =>
    hrow _ _ (hmember v hv) (h.wireNames v hv)
  exact ((((hstart.append hforth).append hmiddle).append hback).append hend).congr (by simp)

/-! ### Modules -/

def moduleDocstring (m : Module) : String :=
  "GraphQL client module for the " ++ Text.docstring m.namespaceName ++ " namespace."

def clientDocstring (m : Module) : String :=
  "GraphQL client bound to the " ++ Text.docstring m.namespaceName ++ " schema roots."

/-- What stands between the quotes of the docstrings of a module. -/
def docstrings (m : Module) : List String :=
  m.moduleDocstring :: m.clientDocstring :: m.classes.flatMap ClassDeclaration.docstrings ++
    (m.enums.flatMap fun e => e.description.toList).map Text.docstring

def options (m : Module) : List FieldOption :=
  m.classes.flatMap ClassDeclaration.options

/-- All but the client name, the docstrings and the options is free of marks. -/
structure IsUnmarked (m : Module) : Prop where
  queryRoot : Mark.IsUnmarked m.queryRoot
  mutationRoot : Mark.IsUnmarked m.mutationRoot
  imports : ∀ line ∈ m.imports, ∀ mark : Mark, mark.lineCount line = 0
  classes : ∀ c ∈ m.classes, c.IsUnmarked
  enums : ∀ e ∈ m.enums, e.IsUnmarked

/-- A docstring whose own text starts and ends within the literals around `s`. -/
theorem lines_sentence {start a b c e finish : String} (hstart : start = a ++ b)
    (hfinish : finish = c ++ e)
    (h : ∀ s, mark.Lines (a ++ s ++ e) (mark.count s)) (s : String) :
    mark.Lines (start ++ s ++ finish) (mark.count (b ++ s ++ c)) := by
  have heq : start ++ s ++ finish = a ++ (b ++ s ++ c) ++ e := by
    rw [hstart, hfinish]
    simp only [String.append_assoc]
  rw [heq]
  exact h _

theorem lines_header (m : Module) : mark.Lines m.header (mark.count m.moduleDocstring) := by
  have hfirst : mark.Lines "# This file was generated by selectql. Do not edit.\n" 0 :=
    lines_quiet rfl rfl (by cases mark <;> rfl)
  have hdocstring : mark.Lines _ _ := lines_sentence
    (append_eq_ofList (s := "\"\"\"") (t := "GraphQL client module for the ") rfl rfl).symm
    (append_eq_ofList (s := " namespace.")
      (t := "\"\"\"\n\nfrom __future__ import annotations\n\nimport enum\nimport typing\n")
      rfl rfl).symm
    (lines_between rfl rfl (by cases mark <;> decide) (by cases mark <;> rfl) rfl rfl
      (by cases mark <;> rfl)) (Text.docstring m.namespaceName)
  have hlines := hfirst.append hdocstring
  simp only [← String.append_assoc, Nat.zero_add] at hlines
  exact hlines

theorem lines_imports {m : Module} (h : m.IsUnmarked) : mark.Lines m.importLines 0 :=
  (lines_join (n := fun _ => 0) fun line hline =>
    (lines_concat line).congr (h.imports line hline mark)).congr (by simp)

theorem lines_client {m : Module} (h : m.IsUnmarked) :
    mark.Lines m.clientText
      (mark.perClass + mark.count m.clientName + mark.count m.clientDocstring) := by
  have hbase : Mark.IsUnmarked
      ("runtime.GraphQLClient[" ++ m.queryRoot ++ ", " ++ m.mutationRoot ++ "]") := by
    simp only [isUnmarked_append]
    exact ⟨⟨⟨⟨isUnmarked_literal rfl (by decide), h.queryRoot⟩, isUnmarked_literal rfl (by decide)⟩,
      h.mutationRoot⟩, isUnmarked_literal rfl (by decide)⟩
  have hdocstring : mark.Lines ("    \"\"\"GraphQL client bound to the " ++
      Text.docstring m.namespaceName ++ " schema roots.\"\"\"\n\n")
      (mark.count m.clientDocstring) :=
    lines_sentence
      (append_eq_ofList (s := "    \"\"\"") (t := "GraphQL client bound to the ") rfl rfl).symm
      (append_eq_ofList (s := " schema roots.") (t := "\"\"\"\n\n") rfl rfl).symm
      (lines_between rfl rfl (by cases mark <;> decide) (by cases mark <;> rfl) rfl rfl
        (by cases mark <;> rfl)) _
  have himports : mark.Lines
      "\nimport httpx\nimport pydantic\n\nfrom selectql import runtime\n\n" 0 :=
    lines_quiet rfl rfl (by cases mark <;> rfl)
  have hvariable : mark.Lines "T = typing.TypeVar(\"T\")\n" 0 :=
    lines_quiet rfl rfl (by cases mark <;> rfl)
  have hdef : mark.Lines "    def __init__(\n" 0 := lines_quiet rfl rfl (by cases mark <;> rfl)
  have hself : mark.Lines "        self,\n" 0 := lines_quiet rfl rfl (by cases mark <;> rfl)
  have hhttp : mark.Lines "        http_client: httpx.AsyncClient,\n" 0 :=
    lines_quiet rfl rfl (by cases mark <;> rfl)
  have hpipeline : mark.Lines "        query_pipeline: runtime.QueryPipeline | None = None,\n" 0 :=
    lines_quiet rfl rfl (by cases mark <;> rfl)
  have hclose : mark.Lines "    ):\n" 0 := lines_quiet rfl rfl (by cases mark <;> rfl)
  have hsuper : mark.Lines "        super().__init__(http_client, query_pipeline)\n" 0 :=
    lines_quiet rfl rfl (by cases mark <;> rfl)
  have hlines := ((((((((himports.append hvariable).append
    (lines_classLine m.clientName hbase)).append hdocstring).append hdef).append hself).append
    hhttp).append hpipeline).append hclose).append hsuper
  simp only [← String.append_assoc, Nat.add_zero, Nat.zero_add] at hlines
  exact hlines

theorem isUnmarked_rebuildTargets {m : Module} (h : m.IsUnmarked) :
    Mark.IsUnmarked m.rebuildTargets := by
  have hcomma : Mark.IsUnmarked ", " := isUnmarked_literal rfl (by decide)
  unfold rebuildTargets
  split
  · rename_i c hc
    have hname := (h.classes c (by simp [hc])).name
    exact isUnmarked_append.mpr ⟨hname, isUnmarked_literal rfl (by decide)⟩
  · exact isUnmarked_join hcomma (List.forall_mem_map.mpr fun c hc => (h.classes c hc).name)

theorem lines_rebuild {m : Module} (h : m.IsUnmarked) : mark.Lines m.rebuildText 0 := by
  have hstart : mark.lineCount "\n\nfor _model in (" = 0 :=
    (mark.lineCount_literal rfl).trans (by cases mark <;> rfl)
  have hend : "):\n    _model.model_rebuild()\n" =
    "):" ++ "\n" ++ "    _model.model_rebuild()\n" := rfl
  have hlast : mark.Lines "    _model.model_rebuild()\n" 0 :=
    lines_quiet rfl rfl (by cases mark <;> rfl)
  have hloop : mark.lineCount ("\n\nfor _model in (" ++ (m.rebuildTargets ++ "):")) = 0 := by
    rw [mark.lineCount_literal_append (s := "\n\nfor _model in (") rfl (by cases mark <;> decide),
      hstart, Nat.zero_add]
    exact (isUnmarked_append.mpr ⟨isUnmarked_rebuildTargets h,
      isUnmarked_literal rfl (by decide)⟩).count_eq_zero mark
  unfold rebuildText
  split_ifs
  · exact lines_empty
  · have hlines := ((lines_concat _).congr hloop).append hlast
    rw [hend]
    simpa only [← String.append_assoc] using hlines

theorem lines_registrationHeader : mark.Lines registrationHeader 0 := by
  have hdef : mark.Lines
      "\n\ndef register_enum_converters(registry: runtime.EnumConverterRegistry) -> None:\n" 0 :=
    lines_quiet rfl rfl (by cases mark <;> rfl)
  have hfirst : mark.Lines
      "    \"\"\"Register the wire-name conversion tables of every enum in this module.\n\n" 0 :=
    lines_quiet rfl rfl (by cases mark <;> rfl)
  have hsecond : mark.Lines
      "    Call once at startup with the registry used for (de)serialization.\n" 0 :=
    lines_quiet rfl rfl (by cases mark <;> rfl)
  have hquotes : mark.Lines "    \"\"\"\n" 0 := lines_quiet rfl rfl (by cases mark <;> rfl)
  exact ((hdef.append hfirst).append hsecond).append hquotes

theorem lines_classes {classes : List ClassDeclaration} (h : ∀ c ∈ classes, c.IsUnmarked) :
    mark.Lines (Text.join "" (classes.map ClassDeclaration.text))
      (mark.perClass * classes.length +
        mark.perMethod * (classes.map fun c => c.methods.length).sum +
        ((classes.flatMap ClassDeclaration.docstrings).map mark.count).sum +
        ((classes.flatMap ClassDeclaration.options).map fun o => mark.count o.text).sum) := by
  refine (lines_join fun c hc => lines_class (h c hc)).congr ?_
  simp only [sum_map_flatMap, List.sum_map_add, List.sum_map_mul_left, List.map_const',
    List.sum_replicate, smul_eq_mul, Nat.mul_comm classes.length]

theorem lines_enums {enums : List Enum} (h : ∀ e ∈ enums, e.IsUnmarked) :
    mark.Lines (Text.join "" (enums.map enumText)) (mark.perClass * enums.length +
      (((enums.flatMap fun e => e.description.toList).map Text.docstring).map mark.count).sum) := by
  refine (lines_join fun e he => lines_enum (h e he)).congr ?_
  simp only [List.map_map, sum_map_flatMap, List.sum_map_add, List.map_const', List.sum_replicate,
    smul_eq_mul, Nat.mul_comm enums.length]

theorem head?_text (m : Module) : m.text.toList.head? = some '#' := by
  unfold text header
  simp only [String.append_assoc]
  rw [String.toList_append]
  rfl

/-- A mark occurs once for each class or each accessor, and wherever it stands in the client name,
in a docstring or in an option. -/
theorem count_text {m : Module} (h : m.IsUnmarked) : mark.count m.text =
    mark.perClass * (1 + m.classes.length + m.enums.length) +
      mark.perMethod * (m.classes.map fun c => c.methods.length).sum +
      ((m.clientName :: m.docstrings).map mark.count).sum +
      (m.options.map fun o => mark.count o.text).sum := by
  have hregistrations : mark.Lines (Text.join "" (m.enums.map registrationText)) 0 :=
    (lines_join (n := fun _ => 0) fun e he => lines_registration (h.enums e he)).congr (by simp)
  have hlines : mark.Lines _ _ := (((((((lines_header m).append (lines_imports h)).append
    (lines_client h)).append (lines_classes h.classes)).append (lines_enums h.enums)).append
    lines_registrationHeader).append hregistrations).append (lines_rebuild h)
  rw [← lineCount_eq_count (head?_text m) (by decide), text, hlines.lineCount_eq, docstrings,
    options]
  simp only [List.map_cons, List.sum_cons, List.cons_append, List.map_append, List.sum_append]
  ring

/-! ### The two counts -/

/-- What an option says beyond the name of its field. -/
def FieldOption.texts : FieldOption → List String
  | .default expression | .factory expression => [expression]
  | .description text => [text]
  | .wireName _ | .hidden => []

theorem count_decorator_option {o : FieldOption}
    (h : ∀ w, o = .wireName w → Mark.IsUnmarked (Text.stringLiteral w)) :
    decorator.count o.text = (o.texts.map decorator.count).sum := by
  have hone : ∀ s : String, decorator.count s = ([s].map decorator.count).sum := fun s => by
    rw [List.map_singleton, List.sum_singleton]
  cases o with
  | default expression =>
    have hkey : Mark.IsUnmarked "default=" := isUnmarked_literal rfl (by decide)
    exact (hkey.count_append decorator expression).trans (hone expression)
  | factory expression =>
    have hkey : Mark.IsUnmarked "default_factory=lambda: " := isUnmarked_literal rfl (by decide)
    exact (hkey.count_append decorator expression).trans (hone expression)
  | wireName w =>
    have hkey : Mark.IsUnmarked "alias=" := isUnmarked_literal rfl (by decide)
    exact (isUnmarked_append.mpr ⟨hkey, h w rfl⟩).count_eq_zero decorator
  | description text =>
    have hkey : Mark.IsUnmarked "description=" := isUnmarked_literal rfl (by decide)
    exact (hkey.count_append decorator _).trans ((count_stringLiteral text).trans (hone text))
  | hidden =>
    exact (isUnmarked_literal (s := "repr=False") rfl (by decide)).count_eq_zero decorator

/-- Texts in which a class line may happen to stand. -/
def freeLines (m : Module) : List String :=
  m.clientName :: m.docstrings

/-- Texts in which a decorator may happen to stand. -/
def freeTexts (m : Module) : List String :=
  m.freeLines ++ m.options.flatMap FieldOption.texts

variable {m : Module}

theorem exists_attribute_of_mem_options (h : m.IsUnmarked) {o : FieldOption} (ho : o ∈ m.options) :
    ∃ a : Attribute, a.IsUnmarked ∧ o ∈ a.options := by
  obtain ⟨c, hc, ho⟩ := List.mem_flatMap.mp ho
  obtain ⟨a, ha, ho⟩ := List.mem_flatMap.mp ho
  exact ⟨a, (h.classes c hc).attributes a ha, ho⟩

theorem count_classLine_text (h : m.IsUnmarked) : Mark.classLine.count m.text =
    1 + m.classes.length + m.enums.length + (m.freeLines.map Mark.classLine.count).sum := by
  have hoptions : (m.options.map fun o => Mark.classLine.count o.text).sum = 0 := by
    refine List.sum_eq_zero (List.forall_mem_map.mpr fun o ho => ?_)
    obtain ⟨a, ha, ho⟩ := exists_attribute_of_mem_options h ho
    rw [count_eq_zero_iff, toList_pattern]
    exact fun hfound => ha.lines o ho (hfound.subset List.mem_cons_self)
  rw [count_text h, hoptions, freeLines]
  simp [perClass, perMethod]

theorem count_decorator_text (h : m.IsUnmarked) : decorator.count m.text =
    (m.classes.map fun c => c.methods.length).sum + (m.freeTexts.map decorator.count).sum := by
  have hoptions : ∀ o ∈ m.options, decorator.count o.text = (o.texts.map decorator.count).sum := by
    intro o ho
    obtain ⟨a, ha, hoa⟩ := exists_attribute_of_mem_options h ho
    exact count_decorator_option fun w hw => ha.wireNames w (hw ▸ hoa)
  rw [count_text h, List.map_congr_left hoptions, freeTexts, freeLines, List.map_append,
    List.sum_append, sum_map_flatMap]
  simp [perClass, perMethod, Nat.add_assoc]

end Module

end SchemaClient
