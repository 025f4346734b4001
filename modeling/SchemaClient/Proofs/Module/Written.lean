import SchemaClient.Module.Layout
import SchemaClient.Proofs.Code.Lines
import SchemaClient.Proofs.Code.Written

/-! Declarations of a module as lines of text: each is a statement of the grammar if its names and
expressions can be written. -/
namespace SchemaClient

open Expression (isName)

namespace Code

open Reader (isIdentifier)

variable {closers : List String} {t v w : String} {n : Nat}

/-! ### Calls and parameters -/

/-- Arguments without the closing parenthesis. -/
def IsArgumentList (ls : List Lexeme) : Prop :=
  IsArguments 0 (ls ++ [.mark ")"])

/-- Parameters without the closing parenthesis. -/
def IsParameterList (ls : List Lexeme) : Prop :=
  IsParameters false (ls ++ [.mark ")"])

theorem Writes.isArgumentList (h : Writes IsAtomic closers t) : Writes IsArgumentList closers t :=
  h.mono fun _ hls => hls.isSum.isExpression.positional .close

/-- The call of a function of a module or of a variable. -/
theorem writes_dottedCall (closers : List String) (hv : isName v) (hw : isName w)
    (h : Writes IsArgumentList (")" :: closers) t) (hlength : closers.length < maxBrackets) :
    ∃ ls s, IsPrimary (.word v :: ls) s ∧
      Scans closers (v ++ "." ++ w ++ "(" ++ t ++ ")").toList (.word v :: ls) := by
  obtain ⟨ls, hls, hscan⟩ := h
  refine ⟨.mark "." :: .word w :: .mark "(" :: (ls ++ [.mark ")"]), _,
    ((isPrimary_name (isName_iff.mp hv).2).attribute (isName_iff.mp hw).2).call (hls true), ?_⟩
  have hcall := (scans_word (isName_iff.mp hw).1).append (by decide)
    (Scans.brackets .round hscan hlength)
  simpa using hcall.dotted (isName_iff.mp hv).1 ((startsName_of_isName hw).append _)

/-- A parameter: a name, with or without a hint. -/
inductive IsParameter : List Lexeme → Prop where
  | plain {w : String} : isIdentifier w → IsParameter [.word w]
  | hinted {w : String} {ls : List Lexeme} :
    isIdentifier w → IsExpression ls → IsParameter (.word w :: .mark ":" :: ls)

theorem IsParameter.append {ls ms : List Lexeme} (h : IsParameter ls)
    (k : IsMoreParameters false ms) : IsParameters false (ls ++ ms) := by
  cases h with
  | plain hw => exact k.plain hw
  | hinted hw hls => exact hls.parameter hw k

theorem isParameterList_cons {ls ms : List Lexeme} (h : IsParameter ls) (k : IsParameterList ms) :
    IsParameterList (ls ++ .mark "," :: ms) := by
  have happend := h.append (.comma k)
  rwa [IsParameterList, List.append_assoc, List.cons_append]

/-- An item on a line of its own within brackets, with a comma behind it. -/
theorem Scans.row {closer : String} {cs ds : List Char} {ls ms : List Lexeme}
    (h : Scans (closer :: closers) cs ls) (k : Scans (closer :: closers) ds ms) (i : Nat) :
    Scans (closer :: closers) (List.replicate i ' ' ++ (cs ++ ',' :: '\n' :: ds))
      (ls ++ .mark "," :: ms) :=
  (h.append (by decide) (k.wrap.mark (by decide : ',' ∈ looseMarks))).gaps i

theorem writes_rows {P R : List Lexeme → Prop} {closer : String} (nil : R [])
    (more : ∀ ls ms, P ls → R ms → R (ls ++ .mark "," :: ms)) {ts : List String}
    (h : ∀ t ∈ ts, Writes P (closer :: closers) t) (i j : Nat) :
    ∃ ls, R ls ∧ Scans (closer :: closers)
      (ts.flatMap (fun t => List.replicate i ' ' ++ (t.toList ++ [',', '\n'])) ++
        List.replicate j ' ') ls := by
  induction ts with
  | nil =>
    refine ⟨[], nil, ?_⟩
    have hnil : Scans (closer :: closers) [] [] := scans_nil
    simpa using hnil.gaps j
  | cons t ts ih =>
    obtain ⟨ls, hls, hscan⟩ := h t (by simp)
    obtain ⟨ms, hms, kscan⟩ := ih fun t ht => h t (List.mem_cons_of_mem _ ht)
    refine ⟨ls ++ .mark "," :: ms, more ls ms hls hms, ?_⟩
    simpa using hscan.row kscan i

/-! ### Lines one after another -/

theorem toList_joinLines {ts : List String} (h : ts ≠ []) :
    (Text.join "\n" ts ++ "\n").toList = ts.flatMap fun t => t.toList ++ ['\n'] := by
  induction ts with
  | nil => exact absurd rfl h
  | cons t ts ih =>
    cases ts with
    | nil => simp [Text.join]
    | cons u ts =>
      have ih := ih (by simp)
      simp only [String.toList_append] at ih
      simp only [Text.join, String.toList_append, List.append_assoc, ih]
      simp

theorem toList_join_empty (ts : List String) :
    (Text.join "" ts).toList = ts.flatMap String.toList := by
  induction ts with
  | nil => rfl
  | cons t ts ih =>
    cases ts with
    | nil => simp [Text.join]
    | cons u ts => simp [Text.join, ih]

theorem WritesLines.flatMap {α : Type} {f : α → List Char} {cs : List Char}
    (h : WritesLines IsStatements n cs) (as : List α)
    (k : ∀ a ∈ as, WritesLines IsStatements n (f a)) :
    WritesLines IsStatements n (cs ++ as.flatMap f) := by
  induction as generalizing cs with
  | nil => simpa using h
  | cons a as ih =>
    have hfirst := h.append (k a (by simp)) fun _ _ => IsStatements.append
    simpa using ih hfirst fun a ha => k a (List.mem_cons_of_mem _ ha)

theorem writesLines_flatMap {α : Type} {f : α → List Char} {as : List α} (hne : as ≠ [])
    (h : ∀ a ∈ as, WritesLines IsStatements n (f a)) :
    WritesLines IsStatements n (as.flatMap f) := by
  obtain ⟨a, as, rfl⟩ := List.exists_cons_of_ne_nil hne
  exact (h a (by simp)).flatMap as fun a ha => h a (List.mem_cons_of_mem _ ha)

/-- Paragraphs of statements, with blank lines between them. -/
theorem writesLines_paragraphs {ts : List String} (hne : ts ≠ [])
    (h : ∀ t ∈ ts, WritesLines IsStatements n (t ++ "\n").toList) :
    WritesLines IsStatements n (Text.join "\n\n" ts ++ "\n").toList := by
  induction ts with
  | nil => exact absurd rfl hne
  | cons t ts ih =>
    cases ts with
    | nil => exact h t (by simp)
    | cons u ts =>
      have hfirst := (h t (by simp)).blankAfter
      have hboth := hfirst.append (ih (by simp) fun t ht => h t (List.mem_cons_of_mem _ ht))
        fun _ _ => IsStatements.append
      simpa [Text.join] using hboth

/-! ### Docstrings -/

/-- The text can stand between the quotes of a docstring: of the quotes at its end, not one is left
over. -/
def IsDocstring (d : String) : Prop :=
  Text.endQuotes (Text.trim d.toList) % 3 ≠ 1 ∧ Char.ofNat 0 ∉ d.toList

instance (d : String) : Decidable (IsDocstring d) :=
  inferInstanceAs (Decidable (_ ∧ _))

theorem getLast?_escapeDocstring_trim (cs : List Char) :
    (Text.escapeDocstring (Text.trim cs)).getLast? ≠ some '\r' := by
  rw [← Text.trim_escapeDocstring]
  intro hmem
  exact absurd (Text.isBlank_getLast?_trim _ _ hmem) (by decide)

theorem writesLines_quotedDocstring {d : String} (h : IsDocstring d) (hn : n < maxIndents) :
    WritesLines IsStatement n (List.replicate (4 * n) ' ' ++
      ((Module.quotedDocstring d).toList ++ ['\n'])) := by
  rw [toList_quotedDocstring]
  refine writesLines_docstring h.1 ?_ (getLast?_escapeDocstring_trim _) hn
  rw [Text.mem_trim (by decide)]
  exact h.2

end Code

namespace Module

open Code
open Reader (isIdentifier)

/-! ### Attributes -/

/-- An option whose expression can be written within the parentheses of a field. -/
def FieldOption.IsWritten : FieldOption → Prop
  | default expression | factory expression => Writes IsExpression [")"] expression
  | wireName _ | description _ | hidden => True

/-- A value that is given to a parameter by name. -/
def IsNamedArgument (ls : List Lexeme) : Prop :=
  ∃ w value, ls = .word w :: .mark "=" :: value ∧ isIdentifier w ∧ IsExpression value

theorem writes_namedArgument {closers : List String} {t u w : String} (hw : isName w)
    (h : Writes IsExpression closers t) (hu : u.toList = w.toList ++ '=' :: t.toList) :
    Writes IsNamedArgument closers u := by
  obtain ⟨ls, hls, hscan⟩ := h
  refine ⟨_, ⟨w, ls, rfl, (isName_iff.mp hw).2, hls⟩, ?_⟩
  rw [hu]
  exact hscan.keyword (isName_iff.mp hw).1

theorem writes_option {o : FieldOption} (h : o.IsWritten) :
    Writes IsNamedArgument [")"] o.text := by
  have htext : ∀ s, Writes IsExpression [")"] (Text.stringLiteral s) := fun s =>
    (writes_text s).isSum.isExpression
  cases o with
  | default e =>
    change Writes IsNamedArgument [")"] ("default=" ++ e)
    have hvalue : Writes IsExpression [")"] e := h
    exact writes_namedArgument (w := "default") (by decide) hvalue (by simp)
  | factory e =>
    change Writes IsNamedArgument [")"] ("default_factory=lambda: " ++ e)
    have hvalue : Writes IsExpression [")"] e := h
    obtain ⟨ls, hls, hscan⟩ := hvalue
    have hlambda : Writes IsExpression [")"] ("lambda: " ++ e) := by
      have hword : Scans [")"] "lambda".toList [.word "lambda"] := scans_word (by decide)
      refine ⟨_, hls.lambda, ?_⟩
      simpa using hword.append (by decide) (hscan.gap.mark (by decide : ':' ∈ looseMarks))
    exact writes_namedArgument (w := "default_factory") (by decide) hlambda (by simp)
  | wireName s =>
    change Writes IsNamedArgument [")"] ("alias=" ++ Text.stringLiteral s)
    exact writes_namedArgument (w := "alias") (by decide) (htext s) (by simp)
  | description s =>
    change Writes IsNamedArgument [")"] ("description=" ++ Text.stringLiteral s)
    exact writes_namedArgument (w := "description") (by decide) (htext s) (by simp)
  | hidden =>
    have hfalse : Writes IsExpression [")"] "False" :=
      (writes_constant (by simp)).isSum.isExpression
    exact writes_namedArgument (w := "repr") (by decide) hfalse rfl

theorem writes_options {options : List FieldOption} (h : ∀ o ∈ options, o.IsWritten) :
    Writes IsArgumentList [")"] (Text.join ", " (options.map FieldOption.text)) := by
  cases options with
  | nil => exact ⟨[], isArguments_nil 0, scans_nil⟩
  | cons o options =>
    have hjoin : Writes (fun ls => ∀ stage, IsArguments stage (ls ++ [.mark ")"])) [")"]
        (Text.join ", " ((o :: options).map FieldOption.text)) := by
      refine writes_join (P := IsNamedArgument) ?_ ?_ fun t ht => ?_
      · rintro ls ⟨w, value, rfl, hw, hvalue⟩ stage
        exact hvalue.keyword hw .close
      · rintro ls ms ⟨w, value, rfl, hw, hvalue⟩ hms stage
        have harguments : IsArguments stage _ := hvalue.keyword hw (.comma (hms (max 1 stage)))
        simpa using harguments
      · rw [← List.map_cons] at ht
        obtain ⟨o, ho, rfl⟩ := List.mem_map.mp ht
        exact writes_option (h o ho)
    exact hjoin.mono fun ls hls => hls 0

/-- A name that may be assigned to at the start of a line. -/
def isAssignedName (w : String) : Bool :=
  isName w && w != "match"

theorem isAssignedName_iff {w : String} : isAssignedName w ↔ isName w ∧ w ≠ "match" := by
  simp [isAssignedName]

structure Attribute.IsWritten (a : Attribute) : Prop where
  name : isAssignedName a.name
  hint : Writes IsExpression [] a.hint
  options : ∀ o ∈ a.options, o.IsWritten

theorem writesLines_attribute {a : Attribute} (h : a.IsWritten) :
    WritesLines IsStatement 1 (a.text ++ "\n").toList := by
  obtain ⟨hname, hmatch⟩ := isAssignedName_iff.mp h.name
  obtain ⟨hint, hhint, hscan⟩ := h.hint
  obtain ⟨ls, s, hfield, kscan⟩ := writes_dottedCall [] (v := "pydantic") (w := "Field")
    (by decide) (by decide) (writes_options h.options) (by decide)
  have hline := (scans_word (isName_iff.mp hname).1).append (by decide)
    ((hscan.append (by decide) kscan.equals).gap.mark (by decide : ':' ∈ looseMarks))
  have hstatement := hhint.annotate (isName_iff.mp hname).2 hmatch hfield.isExpression
  have hwrites := hline.writesLines (P := IsStatement) (n := 1)
    ((startsName_of_isName hname).append _).opensLine (by simpa using hstatement) (by decide)
  simpa [Attribute.text, indent, List.replicate] using hwrites

/-! ### Methods -/

structure Parameter.IsWritten (p : Parameter) : Prop where
  name : isName p.name
  hint : ∀ hint ∈ p.hint, Writes IsExpression [")"] hint

theorem writes_parameter {p : Parameter} (h : p.IsWritten) : Writes IsParameter [")"] p.text := by
  obtain ⟨hname, hhint⟩ := h
  obtain ⟨name, hint⟩ := p
  have hword : Scans [")"] name.toList [.word name] := scans_word (isName_iff.mp hname).1
  cases hint with
  | none => exact ⟨_, .plain (isName_iff.mp hname).2, hword⟩
  | some hint =>
    obtain ⟨ls, hls, hscan⟩ := hhint hint rfl
    refine ⟨_, .hinted (isName_iff.mp hname).2 hls, ?_⟩
    have hcolon := hscan.gap.mark (by decide : ':' ∈ looseMarks)
    simpa [Parameter.text] using hword.append (by decide) hcolon

structure Method.IsWritten (m : Method) : Prop where
  name : isName m.name
  parameters : ∀ p ∈ m.parameters, p.IsWritten
  returns : Writes IsExpression [] m.returns
  docstring : ∀ d ∈ m.docstring, IsDocstring d
  body : Writes IsExpression [] m.body.text

/-- The text between a name and the hint of the result, on one line or on several. -/
theorem signature_eq {m : Method} (h : m.IsWritten) : ∃ inner ls, IsParameterList ls ∧
    Scans [")"] inner ls ∧ (m.signature.flatMap fun t => t.toList ++ ['\n']) =
      List.replicate 4 ' ' ++ ("def ".toList ++ m.name.toList ++ '(' :: (inner ++ [')']) ++
        (" -> ".toList ++ m.returns.toList ++ [':']) ++ ['\n']) := by
  have hparameters : ∀ t ∈ m.parameters.map Parameter.text, Writes IsParameter [")"] t := by
    intro t ht
    obtain ⟨p, hp, rfl⟩ := List.mem_map.mp ht
    exact writes_parameter (h.parameters p hp)
  unfold Method.signature
  dsimp only
  generalize m.parameters.map Parameter.text = parameters at *
  split_ifs
  · have hlist : Writes IsParameterList [")"] (Text.join ", " parameters) := by
      cases parameters with
      | nil => exact ⟨[], isParameters_nil false, scans_nil⟩
      | cons p parameters =>
        exact writes_join (fun ls hls => hls.append .close)
          (fun ls ms hls hms => isParameterList_cons hls hms) hparameters
    obtain ⟨ls, hls, hscan⟩ := hlist
    exact ⟨_, ls, hls, hscan, by simp [indent]⟩
  · obtain ⟨ls, hls, hscan⟩ := writes_rows (isParameters_nil false)
      (fun ls ms hls hms => isParameterList_cons hls hms) hparameters 8 4
    refine ⟨_, ls, hls, hscan.wrap, ?_⟩
    simp [indent, List.flatMap_map]

/-- A function, with its lexemes from its first word on. -/
def IsFunction (ls : List Lexeme) : Prop :=
  ∃ more, ls = .word "def" :: more ∧ IsStatement ls

theorem writesLines_function {n : Nat} {w returns : String} {inner ds : List Char}
    {ls : List Lexeme} (hw : isName w) (hls : IsParameterList ls) (h : Scans [")"] inner ls)
    (hreturns : Writes IsExpression [] returns) (hbody : WritesLines IsStatements (n + 1) ds)
    (hn : n < maxIndents) : WritesLines IsFunction n (List.replicate (4 * n) ' ' ++
      ("def ".toList ++ w.toList ++ '(' :: (inner ++ [')']) ++
        (" -> ".toList ++ returns.toList ++ [':']) ++ '\n' :: ds)) := by
  obtain ⟨rs, hrs, kscan⟩ := hreturns
  have hcolon : Scans [] [':'] [.mark ":"] := scans_nil.mark (by decide : ':' ∈ looseMarks)
  have hbrackets := Scans.brackets .round h (by decide)
  have hsignature := hbrackets.append (by decide) (kscan.append (by decide) hcolon).arrow
  have hcall := (scans_word (isName_iff.mp hw).1).append (by decide) hsignature
  have hword : Scans [] "def".toList [.word "def"] := scans_word (by decide)
  have hline := hword.append (by decide) hcall.gap
  have hstarts : OpensLine "def".toList := ⟨'d', ['e', 'f'], rfl, by decide⟩
  have hwrites := hbody.under (P := IsFunction) hline (hstarts.append _)
    (fun ms hms => ⟨_, by simp; rfl, by
      simpa using IsParameters.isStatement_returning (isName_iff.mp hw).2 hls hrs hms⟩) hn
  simpa using hwrites

theorem writesLines_return {t : String} (h : Writes IsExpression [] t) :
    WritesLines IsStatements 2 ((indent ++ indent ++ "return " ++ t).toList ++ ['\n']) := by
  obtain ⟨ls, hls, hscan⟩ := h
  have hword : Scans [] "return".toList [.word "return"] := scans_word (by decide)
  have hstarts : OpensLine "return".toList := ⟨'r', ['e', 't', 'u', 'r', 'n'], rfl, by decide⟩
  have hwrites := (hword.append (by decide) hscan.gap).writesLines (P := IsStatements) (n := 2)
    (hstarts.append _) (.one (by simpa using hls.returned)) (by decide)
  simpa [indent, List.replicate] using hwrites

theorem writesLines_method {m : Method} (h : m.IsWritten) :
    WritesLines IsStatements 1 (m.text ++ "\n").toList := by
  have hreturn := writesLines_return h.body
  have hbody : WritesLines IsStatements 2
      (((m.docstring.map fun d => indent ++ indent ++ quotedDocstring d).toList ++
        [indent ++ indent ++ "return " ++ m.body.text]).flatMap fun t => t.toList ++ ['\n']) := by
    cases hd : m.docstring with
    | none => simpa using hreturn
    | some d =>
      have hdocstring := writesLines_quotedDocstring (n := 2) (h.docstring d hd) (by decide)
      have hboth := hdocstring.append hreturn fun _ _ hls hms => IsStatements.cons hls hms
      simpa [indent, List.replicate] using hboth
  obtain ⟨inner, ps, hps, hscan, heq⟩ := signature_eq h
  have hfunction := writesLines_function h.name hps hscan h.returns hbody (by decide)
  have hdecorator : Scans [] selectorDecorator.toList
      [.mark "@", .word "runtime", .mark ".", .word "graphql_selector"] := by
    have hword : Scans [] "graphql_selector".toList [.word "graphql_selector"] :=
      scans_word (by decide)
    exact (hword.dotted (w := "runtime") (by decide)
      (startsName_of_isIdentifier (by decide))).mark (by decide : '@' ∈ looseMarks)
  have hexpression : IsExpression [.word "runtime", .mark ".", .word "graphql_selector"] :=
    ((isPrimary_name (w := "runtime") (by decide)).attribute (w := "graphql_selector")
      (by decide)).isExpression
  have hopens : OpensLine selectorDecorator.toList := ⟨'@', _, rfl, by decide⟩
  have hwrites := hfunction.below (P := IsStatements) hdecorator hopens
    (fun ms hms => by
      obtain ⟨more, rfl, hstatement⟩ := hms
      exact .one (hexpression.decorate hstatement)) (by decide)
  rw [Method.text, toList_joinLines (by simp), List.append_assoc, List.flatMap_append,
    List.flatMap_append, heq]
  simpa [indent, List.replicate] using hwrites

/-! ### Classes -/

theorem scans_classLine {name base : String} (hname : isName name) {ls : List Lexeme}
    (h : Scans [")"] base.toList ls) : ∃ cs, OpensLine cs ∧
      Scans [] cs (.word "class" :: .word name :: .mark "(" :: (ls ++ [.mark ")", .mark ":"])) ∧
      (classLine name base).toList = '\n' :: '\n' :: (cs ++ ['\n']) := by
  have hcolon : Scans [] [':'] [.mark ":"] := scans_nil.mark (by decide : ':' ∈ looseMarks)
  have hbrackets := (Scans.brackets .round h (by decide)).append (by decide) hcolon
  have hword : Scans [] "class".toList [.word "class"] := scans_word (by decide)
  have hline := hword.append (by decide)
    ((scans_word (isName_iff.mp hname).1).append (by decide) hbrackets).gap
  have hstarts : OpensLine "class".toList := ⟨'c', ['l', 'a', 's', 's'], rfl, by decide⟩
  exact ⟨_, hstarts.append _, by simpa using hline, by simp [classLine]⟩

theorem writesLines_class {name base : String} (hname : isName name)
    (hbase : Writes IsArgumentList [")"] base) {ds : List Char}
    (hbody : WritesLines IsStatements 1 ds) :
    WritesLines IsStatement 0 ((classLine name base).toList ++ ds) := by
  obtain ⟨ls, hls, hscan⟩ := hbase
  obtain ⟨cs, hopens, hline, htext⟩ := scans_classLine hname hscan
  have hwrites := hbody.under (P := IsStatement) hline hopens
    (fun ms hms => by
      simpa using IsArguments.isStatement_class (isName_iff.mp hname).2 hls hms) (by decide)
  rw [htext]
  simpa using hwrites.blank.blank

theorem writesLines_docstringLines {d : String} (h : IsDocstring d) {ds : List Char}
    (k : WritesLines IsStatements 1 ds) :
    WritesLines IsStatements 1 ((docstringLines d).toList ++ ds) := by
  have hdocstring := (writesLines_quotedDocstring (n := 1) h (by decide)).blankAfter
  have hboth := hdocstring.append k fun _ _ hls hms => IsStatements.cons hls hms
  simpa [docstringLines, indent, List.replicate] using hboth

theorem writesLines_pass : WritesLines IsStatements 1 "    pass\n".toList := by
  have hword : Scans [] "pass".toList [.word "pass"] := scans_word (by decide)
  exact hword.writesLines (n := 1) ⟨'p', ['a', 's', 's'], rfl, by decide⟩ (.one isStatement_pass)
    (by decide)

structure ClassDeclaration.IsWritten (c : ClassDeclaration) : Prop where
  name : isName c.name
  base : Writes IsArgumentList [")"] c.base
  description : ∀ d ∈ c.description, IsDocstring d
  attributes : ∀ a ∈ c.attributes, a.IsWritten
  methods : ∀ m ∈ c.methods, m.IsWritten

theorem writesLines_body {c : ClassDeclaration} (h : c.IsWritten) :
    WritesLines IsStatements 1 (c.body ++ "\n").toList := by
  unfold ClassDeclaration.body
  dsimp only
  split
  · exact writesLines_pass
  · rename_i hne
    refine writesLines_paragraphs (fun hnil => hne hnil) fun t ht => ?_
    rcases List.mem_append.mp ht with ht | ht
    · split_ifs at ht with hempty
      · simp at ht
      · obtain rfl := List.mem_singleton.mp ht
        have hne : c.attributes.map Attribute.text ≠ [] := by simpa using hempty
        rw [toList_joinLines hne]
        refine writesLines_flatMap hne fun t ht => ?_
        obtain ⟨a, ha, rfl⟩ := List.mem_map.mp ht
        have hattribute := writesLines_attribute (h.attributes a ha)
        rw [String.toList_append] at hattribute
        exact hattribute.mono fun _ => IsStatements.one
    · obtain ⟨m, hm, rfl⟩ := List.mem_map.mp ht
      exact writesLines_method (h.methods m hm)

theorem writesLines_declaration {c : ClassDeclaration} (h : c.IsWritten) :
    WritesLines IsStatement 0 c.text.toList := by
  have hbody := writesLines_body h
  unfold ClassDeclaration.text
  dsimp only
  cases hd : (nonEmpty (c.description.map Text.docstring)).bind fun _ => c.description with
  | none =>
    have hclass := writesLines_class h.name h.base hbody
    simpa using hclass
  | some d =>
    obtain ⟨-, -, hdescription⟩ := Option.bind_eq_some_iff.mp hd
    have hclass := writesLines_class h.name h.base
      (writesLines_docstringLines (h.description d hdescription) hbody)
    simpa using hclass

/-! ### Enums -/

structure EnumIsWritten (e : Enum) : Prop where
  name : isName e.name
  description : ∀ d ∈ e.description, IsDocstring d
  entries : ∀ v ∈ e.entries, isAssignedName v.memberName

theorem writesLines_member {w wire : String} (h : isAssignedName w) :
    WritesLines IsStatements 1 ("    " ++ w ++ " = " ++ Text.stringLiteral wire ++ "\n").toList := by
  obtain ⟨hname, hmatch⟩ := isAssignedName_iff.mp h
  have hvalue : Scans [] (Text.stringLiteral wire).toList [.text false] := scans_text wire
  have hline := (scans_word (isName_iff.mp hname).1).append (by decide) hvalue.equals
  have hstatement := isPrimary_text.isExpression.assign (isName_iff.mp hname).2 hmatch
  have hwrites := hline.writesLines (P := IsStatements) (n := 1)
    ((startsName_of_isName hname).append _).opensLine (.one (by simpa using hstatement)) (by decide)
  simpa [List.replicate] using hwrites

theorem writesLines_enum {e : Enum} (h : EnumIsWritten e) :
    WritesLines IsStatement 0 (enumText e).toList := by
  have hbase : Writes IsArgumentList [")"] "str, enum.Enum" := by
    have hattribute : Writes IsAtomic [")"] ("enum" ++ "." ++ "Enum") :=
      writes_attribute (by decide) (by decide)
    obtain ⟨ls, ⟨s, hls⟩, hscan⟩ := hattribute
    have hword : Scans [")"] "str".toList [.word "str"] := scans_word (by decide)
    have hstr : IsExpression [.word "str"] := (isPrimary_name (by decide)).isExpression
    have henum := hls.isExpression.positional .close
    refine ⟨[.word "str"] ++ .mark "," :: ls, ?_, ?_⟩
    · simpa [IsArgumentList] using hstr.positional (.comma henum)
    · exact hword.append (by decide) (hscan.gap.mark (by decide : ',' ∈ looseMarks))
  have hmembers : WritesLines IsStatements 1 (if e.entries.isEmpty then "    pass\n"
      else Text.join "" (e.entries.map fun v =>
        "    " ++ v.memberName ++ " = " ++ Text.stringLiteral v.wireName ++ "\n")).toList := by
    split_ifs with hempty
    · exact writesLines_pass
    · rw [toList_join_empty]
      refine writesLines_flatMap (by simpa using hempty) fun t ht => ?_
      obtain ⟨v, hv, rfl⟩ := List.mem_map.mp ht
      exact writesLines_member (h.entries v hv)
  unfold enumText
  dsimp only
  cases hd : nonEmpty e.description with
  | none =>
    have hclass := writesLines_class h.name hbase hmembers
    simpa using hclass
  | some d =>
    have hdescription : d ∈ e.description := by
      unfold nonEmpty at hd
      split at hd
      · cases hd
      · exact hd
    have hclass := writesLines_class h.name hbase
      (writesLines_docstringLines (h.description d hdescription) hmembers)
    simpa using hclass

end Module

end SchemaClient
