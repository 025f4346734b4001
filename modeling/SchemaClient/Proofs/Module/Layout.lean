import SchemaClient.Proofs.Module.Written

/-! The text of a whole module: it follows the grammar if all that is written into it can be
written. -/
namespace SchemaClient.Module

open Code
open Expression (isName)
open Reader (isIdentifier)

/-! ### Docstrings with fixed text around a name -/

/-- A character that stands for itself in a docstring. -/
def isLiteral (c : Char) : Bool :=
  c != '\\' && c != '"'

theorem escapeDocstring_literals {front : List Char} (h : front.all isLiteral) (cs : List Char) :
    Text.escapeDocstring (front ++ cs) = front ++ Text.escapeDocstring cs := by
  induction front with
  | nil => rfl
  | cons c front ih =>
    simp only [List.all_cons, Bool.and_eq_true, isLiteral, bne_iff_ne] at h
    obtain ⟨⟨hslash, hquote⟩, hfront⟩ := h
    rw [List.cons_append, Text.escapeDocstring_cons hslash (by simp [hquote]),
      ih (by simpa [isLiteral] using hfront), List.cons_append]

theorem startsPair_append {c : Char} (hc : c ≠ '"') {cs : List Char}
    (h : Text.startsPair cs = false) (ds : List Char) :
    Text.startsPair (cs ++ c :: ds) = false := by
  match cs with
  | [] => cases ds <;> simp [Text.startsPair, hc]
  | [d] => simp [Text.startsPair, hc]
  | d :: e :: rest => simpa [Text.startsPair] using h

/-- Escaping goes on afresh behind a character that stands for itself. -/
theorem escapeDocstring_append {c : Char} (hc : isLiteral c) (cs ds : List Char) :
    Text.escapeDocstring (cs ++ c :: ds) =
      Text.escapeDocstring cs ++ Text.escapeDocstring (c :: ds) := by
  simp only [isLiteral, Bool.and_eq_true, bne_iff_ne] at hc
  induction cs using Text.escape_cases with
  | nil => rfl
  | slash cs ih =>
    rw [List.cons_append, Text.escapeDocstring_slash, ih, Text.escapeDocstring_slash]
    rfl
  | triple cs ih =>
    rw [List.cons_append, List.cons_append, List.cons_append, Text.escapeDocstring_triple, ih,
      Text.escapeDocstring_triple]
    rfl
  | other d cs hslash hquotes ih =>
    rw [List.cons_append, Text.escapeDocstring_cons hslash fun hd =>
      startsPair_append hc.2 (hquotes hd) ds, ih, Text.escapeDocstring_cons hslash hquotes]
    rfl

/-- Fixed text around a name keeps the quotes of the name away from the end. -/
theorem writesLines_nameDocstring {n : Nat} (front : List Char) (c : Char) (back : List Char)
    {name : List Char} (hfront : front.all isLiteral) (hback : (c :: back).all isLiteral)
    (hlast : (c :: back).getLast? = some '.') (hnul : Char.ofNat 0 ∉ front ++ c :: back)
    (hname : Char.ofNat 0 ∉ name) (hn : n < maxIndents) :
    WritesLines IsStatement n (List.replicate (4 * n) ' ' ++ ('"' :: '"' :: '"' ::
      (front ++ Text.escapeDocstring name ++ c :: back) ++ ['"', '"', '"', '\n'])) := by
  have hescape : Text.escapeDocstring (front ++ (name ++ c :: back)) =
      front ++ Text.escapeDocstring name ++ c :: back := by
    have hc : isLiteral c := List.all_eq_true.mp hback c (by simp)
    have hself := escapeDocstring_literals hback []
    rw [List.append_nil, Text.escapeDocstring, List.append_nil] at hself
    rw [escapeDocstring_literals hfront, escapeDocstring_append hc, hself, List.append_assoc]
  obtain ⟨more, hmore⟩ := List.getLast?_eq_some_iff.mp hlast
  have hdocstring : WritesLines IsStatement n _ :=
    writesLines_docstring (t := front ++ (name ++ c :: back)) (n := n) ?_ ?_ ?_ hn
  · rw [quoted, hescape] at hdocstring
    simpa using hdocstring
  · rw [hmore, Text.endQuotes]
    simp
  · simp only [List.mem_append] at hnul ⊢
    tauto
  · rw [hescape, hmore, ← List.append_assoc, List.getLast?_append]
    simp

/-! ### Imports -/

theorem writesLines_import {w : String} (hw : isName w) :
    WritesLines IsStatements 0 ("import " ++ w ++ "\n").toList := by
  have hword : Scans [] "import".toList [.word "import"] := scans_word (by decide)
  have hstarts : OpensLine "import".toList := ⟨'i', ['m', 'p', 'o', 'r', 't'], rfl, by decide⟩
  have hline := hword.append (by decide) (scans_word (isName_iff.mp hw).1).gap
  have hwrites := hline.writesLines (P := IsStatements) (n := 0) (hstarts.append _)
    (.one (isStatement_import (isName_iff.mp hw).2)) (by decide)
  simpa using hwrites

theorem writesLines_importFrom {v w : String} (hv : isName v) (hw : isName w) :
    WritesLines IsStatements 0 ("from " ++ v ++ " import " ++ w ++ "\n").toList := by
  have hfrom : Scans [] "from".toList [.word "from"] := scans_word (by decide)
  have himport : Scans [] "import".toList [.word "import"] := scans_word (by decide)
  have hstarts : OpensLine "from".toList := ⟨'f', ['r', 'o', 'm'], rfl, by decide⟩
  have hline := hfrom.append (by decide) ((scans_word (isName_iff.mp hv).1).append (by decide)
    (himport.append (by decide) (scans_word (isName_iff.mp hw).1).gap).gap).gap
  have hwrites := hline.writesLines (P := IsStatements) (n := 0) (hstarts.append _)
    (.one (isStatement_importFrom (isName_iff.mp hv).2 (isName_iff.mp hw).2)) (by decide)
  simpa using hwrites

/-- A comment makes nothing. -/
theorem lines_note (m : Nat) :
    Lines m "# This file was generated by selectql. Do not edit.\n".toList [] m := by
  rw [String.toList_ofList]
  refine ⟨by simp, by simp, fun rest => ?_⟩
  rw [Text.unifyNewlines_of_not_mem (by simp)]
  exact reaches_step (by simp) (fun _ _ => rfl) (by simp [cost]; omega)

/-! ### The client -/

theorem writes_clientBase {query mutation : String} (hquery : Writes IsExpression ["]", ")"] query)
    (hmutation : Writes IsExpression ["]", ")"] mutation) : Writes IsArgumentList [")"]
      ("runtime.GraphQLClient[" ++ query ++ ", " ++ mutation ++ "]") :=
  Writes.isArgumentList (writes_pair (v := "runtime") (w := "GraphQLClient") (by decide) (by decide)
    hquery hmutation (by decide))

/-- A method of what a call without arguments gives. -/
theorem scans_ofCall {w : String} (hw : Text.isIdentifier w.toList) {cs : List Char}
    {ls : List Lexeme} (h : Scans [] cs ls) (hcs : StartsName cs) :
    Scans [] (w.toList ++ '(' :: ')' :: '.' :: cs)
      (.word w :: .mark "(" :: .mark ")" :: .mark "." :: ls) where
  clean := List.forall_mem_append.mpr ⟨isClean_of_mem_identifier hw, by
    simpa [isClean] using h.clean⟩
  head := ((startsName_of_isIdentifier hw).append _).head
  run := by
    intro indents x rest hx
    have hword := reaches_word hw (by decide : endsWord '(') [] indents
      (')' :: '.' :: (cs ++ x :: rest))
    rw [String.ofList_toList] at hword
    have hopen : Reaches ⟨[], indents, false⟩ _ _ _ _ := reaches_opener .round (by decide)
      (')' :: '.' :: (cs ++ x :: rest))
    have hcall := hopen.trans (reaches_closer .round _)
    rw [List.append_assoc]
    exact hword.trans (hcall.trans ((reaches_point (hcs.append _)).trans (h.run indents x rest hx)))

theorem writesLines_superCall : WritesLines IsStatements 2
    "        super().__init__(http_client, query_pipeline)\n".toList := by
  have hsuper : IsPrimary ([.word "super"] ++ [.mark "(", .mark ")"]) .other :=
    (isPrimary_name (by decide)).call (isArguments_nil 0 true)
  have harguments : IsArguments 0 [.word "http_client", .mark ",", .word "query_pipeline",
      .mark ")"] := (isPrimary_name (w := "http_client") (by decide)).isExpression.positional
    (.comma ((isPrimary_name (w := "query_pipeline") (by decide)).isExpression.positional .close))
  have hcall := (hsuper.attribute (w := "__init__") (by decide)).call (harguments true)
  have hclient : Scans [")"] "http_client".toList [.word "http_client"] := scans_word (by decide)
  have hpipeline : Scans [")"] "query_pipeline".toList [.word "query_pipeline"] :=
    scans_word (by decide)
  have hinit : Scans [] "__init__".toList [.word "__init__"] := scans_word (by decide)
  have hinner := hclient.append (by decide) (hpipeline.gap.mark (by decide : ',' ∈ looseMarks))
  have hscan := scans_ofCall (w := "super") (by decide)
    (hinit.append (by decide) (Scans.brackets .round hinner (by decide)))
    ((startsName_of_isIdentifier (by decide)).append _)
  have hwrites := hscan.writesLines (P := IsStatements) (n := 2)
    ((startsName_of_isIdentifier (by decide)).append _).opensLine
    (.one (hcall.isStatement (by simp))) (by decide)
  rw [String.toList_ofList]
  simpa [List.replicate] using hwrites

/-- The parameters of the client, of which the last has a default. -/
def initRows : List Char :=
  '\n' :: ("        self,\n".toList ++ "        http_client: httpx.AsyncClient,\n".toList ++
    "        query_pipeline: runtime.QueryPipeline | None = None,\n    ".toList)

theorem scans_initRows : ∃ ls, IsParameterList ls ∧ Scans [")"] initRows ls := by
  have hself : Scans [")"] "self".toList [.word "self"] := scans_word (by decide)
  have hhttpHint : Writes IsAtomic [")"] ("httpx" ++ "." ++ "AsyncClient") :=
    writes_attribute (by decide) (by decide)
  have hqueryHint : Writes IsAtomic [")"] ("runtime" ++ "." ++ "QueryPipeline") :=
    writes_attribute (by decide) (by decide)
  obtain ⟨hs, ⟨s, hhttp⟩, httpScan⟩ := hhttpHint
  obtain ⟨qs, hqs, queryScan⟩ := writes_orNone hqueryHint true
  have hnone : IsExpression [.word "None"] := (isPrimary_constant (by simp)).isExpression
  have hnoneScan : Scans [")"] "None".toList [.word "None"] := scans_word (by decide)
  have hclient : Scans [")"] "http_client".toList [.word "http_client"] := scans_word (by decide)
  have hpipeline : Scans [")"] "query_pipeline".toList [.word "query_pipeline"] :=
    scans_word (by decide)
  have hlast := hpipeline.append (by decide)
    ((queryScan.append (by decide) hnoneScan.equals).gap.mark (by decide : ':' ∈ looseMarks))
  have hsecond := hclient.append (by decide) (httpScan.gap.mark (by decide : ':' ∈ looseMarks))
  have hrows := hself.row (hsecond.row (hlast.row (scans_nil.gaps 4) 8) 8) 8
  refine ⟨.word "self" :: .mark "," :: .word "http_client" :: .mark ":" :: (hs ++ .mark "," ::
    .word "query_pipeline" :: .mark ":" :: (qs ++ [.mark "=", .word "None", .mark ","])), ?_, ?_⟩
  · have hthird : IsParameters false (.word "query_pipeline" :: .mark ":" ::
        (qs ++ .mark "=" :: ([.word "None"] ++ [.mark ",", .mark ")"]))) :=
      hqs.isExpression.defaulted (by decide) hnone (.comma (isParameters_nil true))
    have hhinted : IsParameter (.word "http_client" :: .mark ":" :: hs) :=
      .hinted (by decide) hhttp.isExpression
    have hplain : IsParameter [.word "self"] := .plain (by decide)
    simpa [IsParameterList] using hplain.append (.comma (hhinted.append (.comma hthird)))
  · delta initRows
    rw [String.toList_ofList, String.toList_ofList, String.toList_ofList]
    simpa [List.replicate, orNone, ScalarRegistry.unmapped] using hrows.wrap

theorem writesLines_init : WritesLines IsStatement 1 ("    def __init__(".toList ++
    (initRows ++ "):\n".toList) ++
      "        super().__init__(http_client, query_pipeline)\n".toList) := by
  obtain ⟨ls, hls, hscan⟩ := scans_initRows
  have hcolon : Scans [] [':'] [.mark ":"] := scans_nil.mark (by decide : ':' ∈ looseMarks)
  have hinit : Scans [] "__init__".toList [.word "__init__"] := scans_word (by decide)
  have hword : Scans [] "def".toList [.word "def"] := scans_word (by decide)
  have hbrackets := (Scans.brackets .round hscan (by decide)).append (by decide) hcolon
  have hline := hword.append (by decide) (hinit.append (by decide) hbrackets).gap
  have hwrites := writesLines_superCall.under (P := IsStatement) hline
    ((startsName_of_isIdentifier (by decide)).append _).opensLine
    (fun ms hms => by
      simpa using IsParameters.isStatement_def (by decide : isIdentifier "__init__") hls hms)
    (by decide)
  generalize "        super().__init__(http_client, query_pipeline)\n".toList = body at *
  simpa [List.replicate] using hwrites

/-! ### Conversion tables -/

/-- A row of a table. -/
def IsEntry (ls : List Lexeme) : Prop :=
  ∃ key value, ls = key ++ .mark ":" :: value ∧ IsExpression key ∧ IsExpression value

theorem writes_entry {closers : List String} {t u : String} (h : Writes IsAtomic closers t)
    (k : Writes IsAtomic closers u) : Writes IsEntry closers (t ++ ": " ++ u) := by
  obtain ⟨ls, hls, hscan⟩ := h
  obtain ⟨ms, hms, kscan⟩ := k
  refine ⟨_, ⟨ls, ms, rfl, hls.isSum.isExpression, hms.isSum.isExpression⟩, ?_⟩
  simpa using hscan.append (by decide) (kscan.gap.mark (by decide : ':' ∈ looseMarks))

def tableText (rows : List String) : String :=
  "\x7b\n" ++ Text.join "" (rows.map fun t => "            " ++ t ++ ",\n") ++ "        \x7d"

theorem writes_table {closers : List String} {rows : List String}
    (h : ∀ t ∈ rows, Writes IsEntry ("\x7d" :: closers) t)
    (hlength : closers.length < maxBrackets) :
    Writes IsAtomic closers (tableText rows) := by
  have hrows := writes_rows (R := fun ls => IsEntries (ls ++ [.mark "\x7d"]) ∧
      IsAtomic (.mark "\x7b" :: (ls ++ [.mark "\x7d"])))
    ⟨isEntries_nil, _, isPrimary_noEntries⟩ ?_ h 12 8
  · obtain ⟨ls, ⟨-, hls⟩, hscan⟩ := hrows
    refine ⟨_, hls, ?_⟩
    have htable := Scans.brackets .curly hscan.wrap hlength
    simpa [tableText, toList_join_empty, List.flatMap_map, List.replicate] using htable
  · rintro ls ms ⟨key, value, rfl, hkey, hvalue⟩ ⟨hms, -⟩
    have hentries := hkey.entry hvalue hms
    have htable := hkey.table hvalue hms
    exact ⟨by simpa using hentries, _, by simpa using htable⟩

theorem registrationText_eq (e : Enum) : (registrationText e).toList =
    List.replicate 4 ' ' ++ (("registry.register(".toList ++ '\n' ::
      ([e.name, tableText (e.entries.map fun v =>
          Text.stringLiteral v.wireName ++ ": " ++ (e.name ++ "." ++ v.memberName)),
        tableText (e.entries.map fun v =>
          (e.name ++ "." ++ v.memberName) ++ ": " ++ Text.stringLiteral v.wireName)].flatMap
        (fun t => List.replicate 8 ' ' ++ (t.toList ++ [',', '\n'])) ++ List.replicate 4 ' ') ++
      [')']) ++ ['\n']) := by
  delta registrationText tableText
  simp [toList_join_empty, List.flatMap_map, List.replicate]

theorem writesLines_registration {e : Enum} (h : EnumIsWritten e) :
    WritesLines IsStatements 1 (registrationText e).toList := by
  have hmember : ∀ v ∈ e.entries, ∀ closers,
      Writes IsAtomic closers (e.name ++ "." ++ v.memberName) :=
    fun v hv closers => writes_attribute h.name (isAssignedName_iff.mp (h.entries v hv)).1
  have htables : ∀ t ∈ [e.name, tableText (e.entries.map fun v =>
        Text.stringLiteral v.wireName ++ ": " ++ (e.name ++ "." ++ v.memberName)),
      tableText (e.entries.map fun v =>
        (e.name ++ "." ++ v.memberName) ++ ": " ++ Text.stringLiteral v.wireName)],
      Writes IsAtomic [")"] t := by
    simp only [List.forall_mem_cons, List.not_mem_nil, false_imp_iff, implies_true, and_true]
    refine ⟨writes_name h.name, writes_table ?_ (by decide), writes_table ?_ (by decide)⟩
    · intro t ht
      obtain ⟨v, hv, rfl⟩ := List.mem_map.mp ht
      exact writes_entry (writes_text _) (hmember v hv _)
    · intro t ht
      obtain ⟨v, hv, rfl⟩ := List.mem_map.mp ht
      exact writes_entry (hmember v hv _) (writes_text _)
  obtain ⟨ls, hls, hscan⟩ := writes_rows (R := IsArgumentList) (isArguments_nil 0)
    (fun ls ms hls hms => by
      simpa [IsArgumentList] using hls.isSum.isExpression.positional (.comma hms)) htables 8 4
  obtain ⟨ms, s, hcall, kscan⟩ := writes_dottedCall [] (v := "registry")
    (w := "register") (t := .ofList ('\n' :: _)) (by decide) (by decide) ⟨ls, hls, by
      rw [String.toList_ofList]
      exact hscan.wrap⟩ (by decide)
  have hstarts : OpensLine "registry".toList := ⟨'r', _, rfl, by decide⟩
  have hwrites := kscan.writesLines (P := IsStatements) (n := 1)
    (by
      simp only [String.toList_append, List.append_assoc]
      exact hstarts.append _)
    (.one (hcall.isStatement (by simp))) (by decide)
  rw [registrationText_eq]
  simpa [List.replicate] using hwrites

/-- Text of the docstring of the registration. -/
def registrationNote : List Char :=
  "Register the wire-name conversion tables of every enum in this module.\n\n".toList ++
    "    Call once at startup with the registry used for (de)serialization.\n    ".toList

theorem registrationHeader_eq : registrationHeader.toList =
    '\n' :: '\n' :: ("def ".toList ++ "register_enum_converters".toList ++
      '(' :: ("registry: runtime.EnumConverterRegistry".toList ++ [')']) ++
      (" -> ".toList ++ "None".toList ++ [':']) ++ '\n' :: (List.replicate 4 ' ' ++
        ('"' :: '"' :: '"' :: (registrationNote ++ ['"', '"', '"']) ++ ['\n']))) := by
  delta registrationHeader registrationNote
  simp only [String.toList_append]
  repeat rw [String.toList_ofList]
  rfl

theorem writesLines_registrationNote : WritesLines IsStatements 1 (List.replicate 4 ' ' ++
    ('"' :: '"' :: '"' :: (registrationNote ++ ['"', '"', '"']) ++ ['\n'])) := by
  have hliteral : registrationNote.all isLiteral && registrationNote.all isClean := by
    delta registrationNote
    rw [String.toList_ofList, String.toList_ofList]
    rfl
  have hlast : registrationNote.getLast? = some ' ' := by
    delta registrationNote
    rw [String.toList_ofList, String.toList_ofList]
    rfl
  obtain ⟨hliteral, hclean⟩ := Bool.and_eq_true_iff.mp hliteral
  have hself : Text.escapeDocstring registrationNote = registrationNote := by
    have hliterals := escapeDocstring_literals hliteral []
    rwa [List.append_nil, Text.escapeDocstring, List.append_nil] at hliterals
  obtain ⟨more, hmore⟩ := List.getLast?_eq_some_iff.mp hlast
  have hquotes : Text.endQuotes registrationNote % 3 ≠ 1 := by
    rw [hmore, Text.endQuotes]
    simp
  have hnote : WritesLines IsStatement 1 _ := writesLines_docstring hquotes
    (fun hmem => absurd (List.all_eq_true.mp hclean _ hmem) (by decide))
    (by rw [hself, hlast]; decide) (by decide)
  rw [quoted, hself] at hnote
  exact hnote.mono fun _ => IsStatements.one

theorem writesLines_registrations {enums : List Enum} (h : ∀ e ∈ enums, EnumIsWritten e) :
    WritesLines IsStatements 0 (registrationHeader.toList ++
      (enums.map registrationText).flatMap String.toList) := by
  have hbody := writesLines_registrationNote.flatMap (f := String.toList)
    (enums.map registrationText) fun t ht => by
      obtain ⟨e, he, rfl⟩ := List.mem_map.mp ht
      exact writesLines_registration (h e he)
  have hhint : Writes IsExpression [")"] "runtime.EnumConverterRegistry" :=
    (writes_attribute (v := "runtime") (w := "EnumConverterRegistry") (by decide)
      (by decide)).isSum.isExpression
  obtain ⟨ls, hls, hscan⟩ := writes_parameter
    (p := ⟨"registry", some "runtime.EnumConverterRegistry"⟩) ⟨by decide, fun hint hmem => by
      obtain rfl := Option.some.inj hmem
      exact hhint⟩
  have htext : (Parameter.text ⟨"registry", some "runtime.EnumConverterRegistry"⟩) =
      "registry: runtime.EnumConverterRegistry" := by decide
  rw [htext] at hscan
  have hnone : Writes IsExpression [] "None" := (writes_constant (by simp)).isSum.isExpression
  have hfunction := (writesLines_function (n := 0) (w := "register_enum_converters") (by decide)
    (hls.append .close) hscan hnone hbody (by decide)).mono
      fun _ hls => IsStatements.one (hls.elim fun _ h => h.2)
  have hblank := hfunction.blank.blank
  rw [registrationHeader_eq]
  simpa only [List.append_assoc, List.cons_append, List.replicate_zero, List.nil_append,
    Nat.mul_zero] using hblank

/-! ### Classes once more -/

theorem writes_targets {c : ClassDeclaration} {classes : List ClassDeclaration}
    (h : ∀ d ∈ c :: classes, isName d.name) : Writes IsAtomic []
      ("(" ++ (match c :: classes with
        | [c] => c.name ++ ","
        | classes => Text.join ", " (classes.map ClassDeclaration.name)) ++ ")") := by
  have hfirst : Writes IsAtomic [")"] c.name := writes_name (h c (by simp))
  obtain ⟨ls, ⟨s, hls⟩, hscan⟩ := hfirst
  cases classes with
  | nil =>
    obtain ⟨t, htuple⟩ := hls.isExpression.tuple (isElements_nil ")")
    refine ⟨_, ⟨t, htuple⟩, ?_⟩
    have hcomma : Scans [")"] [','] [.mark ","] := scans_nil.mark (by decide : ',' ∈ looseMarks)
    simpa using Scans.brackets .round (hscan.append (by decide) hcomma) (by decide)
  | cons d classes =>
    have hjoin : Writes (fun ls => IsElements ")" (ls ++ [.mark ")"])) [")"]
        (Text.join ", " ((d :: classes).map ClassDeclaration.name)) := by
      refine writes_join (P := IsExpression) (fun ls hls => hls.elements (by simp) .close) ?_ ?_
      · intro ls ms hls hms
        simpa using hls.elements (by simp) (.comma hms)
      · intro t ht
        rw [← List.map_cons] at ht
        obtain ⟨e, he, rfl⟩ := List.mem_map.mp ht
        exact (writes_name (h e (List.mem_cons_of_mem _ he))).isSum.isExpression
    obtain ⟨ms, hms, kscan⟩ := hjoin
    obtain ⟨t, htuple⟩ := hls.isExpression.tuple hms
    refine ⟨_, ⟨t, htuple⟩, ?_⟩
    have hinner := hscan.append (by decide) (kscan.gap.mark (by decide : ',' ∈ looseMarks))
    simpa [Text.join] using Scans.brackets .round hinner (by decide)

/-- The loop over the classes is the last statement. -/
theorem writesLines_rebuild {targets : String} (h : Writes IsAtomic [] ("(" ++ targets ++ ")")) :
    WritesLines IsModule 0
      ("\n\nfor _model in (" ++ targets ++ "):\n    _model.model_rebuild()\n").toList := by
  obtain ⟨ls, hls, hscan⟩ := h
  have hcolon : Scans [] [':'] [.mark ":"] := scans_nil.mark (by decide : ':' ∈ looseMarks)
  have hword : ∀ {w}, Text.isIdentifier w.toList → Scans [] w.toList [.word w] := scans_word
  have hfor := hword (w := "for") (by decide)
  have hmodel := hword (w := "_model") (by decide)
  have hin := hword (w := "in") (by decide)
  have hline := hfor.append (by decide) (hmodel.append (by decide)
    (hin.append (by decide) (hscan.append (by decide) hcolon).gap).gap).gap
  have hstarts : OpensLine "for".toList := ⟨'f', ['o', 'r'], rfl, by decide⟩
  have hbody : WritesLines IsStatements 1 "    _model.model_rebuild()\n".toList := by
    obtain ⟨ms, s, hcall, kscan⟩ := writes_dottedCall [] (v := "_model")
      (w := "model_rebuild") (t := "") (by decide) (by decide) ⟨[], isArguments_nil 0, scans_nil⟩
      (by decide)
    have hwrites := kscan.writesLines (P := IsStatements) (n := 1) ⟨'_', _, rfl, by decide⟩
      (.one (hcall.isStatement (by simp))) (by decide)
    rw [String.toList_ofList]
    simpa [List.replicate] using hwrites
  have hwrites := hbody.under (P := IsModule) hline (hstarts.append _)
    (fun ms hms => by
      have hreads := hls.isSum.isExpression.reads_for (by decide : isIdentifier "_model") hms
      simpa using isModule_of_reads hreads (by simp) isModule_nil) (by decide)
  simpa using hwrites.blank.blank

/-! ### Whole modules -/

/-- All that is written into a module can be written. -/
structure IsWritten (m : Module) : Prop where
  namespaceName : Char.ofNat 0 ∉ m.namespaceName.toList
  clientName : isName m.clientName
  queryRoot : Writes IsExpression ["]", ")"] m.queryRoot
  mutationRoot : Writes IsExpression ["]", ")"] m.mutationRoot
  imports : ∀ line ∈ m.imports, ∃ source name, isName source ∧ isName name ∧
    line = "from " ++ source ++ " import " ++ name
  classes : ∀ c ∈ m.classes, c.IsWritten
  enums : ∀ e ∈ m.enums, EnumIsWritten e

variable {m : Module}

theorem nul_not_mem_trim {name : String} (h : Char.ofNat 0 ∉ name.toList) :
    Char.ofNat 0 ∉ Text.trim name.toList := by
  rwa [Text.mem_trim (by decide)]

theorem writesLines_header (h : m.IsWritten) : WritesLines IsStatements 0 m.header.toList := by
  have hdocstring := writesLines_nameDocstring (n := 0)
    "GraphQL client module for the ".toList ' ' "namespace.".toList
    (by rw [String.toList_ofList]; rfl) (by rw [String.toList_ofList]; rfl)
    (by rw [String.toList_ofList]; rfl) (by rw [String.toList_ofList, String.toList_ofList]; simp)
    (nul_not_mem_trim h.namespaceName) (by decide)
  have himports := (writesLines_importFrom (v := "__future__") (w := "annotations")
    (by decide) (by decide)).append
      ((writesLines_import (w := "enum") (by decide)).append
        (writesLines_import (w := "typing") (by decide)) fun _ _ => IsStatements.append).blank
      fun _ _ => IsStatements.append
  obtain ⟨ls, k, hls, hlines⟩ := hdocstring.append himports.blank fun _ _ hls hms =>
    IsStatements.cons hls hms
  refine ⟨ls, k, hls, fun i hi => ?_⟩
  have hnote := (lines_note i).append (hlines i hi)
  delta header
  simp only [String.toList_append, Text.toList_docstring] at hnote ⊢
  generalize Text.escapeDocstring (Text.trim m.namespaceName.toList) = name at *
  repeat rw [String.toList_ofList] at hnote
  repeat rw [String.toList_ofList]
  simpa using hnote

theorem writesLines_typeVariable :
    WritesLines IsStatements 0 "T = typing.TypeVar(\"T\")\n".toList := by
  obtain ⟨ls, s, hcall, hscan⟩ := writes_dottedCall [] (v := "typing") (w := "TypeVar")
    (by decide) (by decide) (writes_text "T").isArgumentList (by decide)
  have hword : Scans [] "T".toList [.word "T"] := scans_word (by decide)
  have hstatement := hcall.isExpression.assign (by decide : isIdentifier "T") (by decide)
  have hwrites := (hword.append (by decide) hscan.equals).writesLines (P := IsStatements) (n := 0)
    ((startsName_of_isIdentifier (by decide)).append _).opensLine
    (.one (by simpa using hstatement)) (by decide)
  have hliteral : (Text.stringLiteral "T").toList = ['"', 'T', '"'] := by decide
  rw [String.toList_ofList]
  simpa [hliteral] using hwrites

theorem toList_clientText (m : Module) : m.clientText.toList =
    '\n' :: (("import " ++ "httpx" ++ "\n").toList ++ ("import " ++ "pydantic" ++ "\n").toList ++
      '\n' :: ("from " ++ "selectql" ++ " import " ++ "runtime" ++ "\n").toList ++
      '\n' :: "T = typing.TypeVar(\"T\")\n".toList ++
      ((classLine m.clientName
          ("runtime.GraphQLClient[" ++ m.queryRoot ++ ", " ++ m.mutationRoot ++ "]")).toList ++
        (List.replicate (4 * 1) ' ' ++ ('"' :: '"' :: '"' :: ("GraphQL client bound to the ".toList ++
            Text.escapeDocstring (Text.trim m.namespaceName.toList) ++ ' ' :: "schema roots.".toList) ++
          ['"', '"', '"', '\n']) ++ ['\n'] ++ ("    def __init__(".toList ++ (initRows ++ "):\n".toList) ++
            "        super().__init__(http_client, query_pipeline)\n".toList)))) := by
  delta clientText initRows
  generalize classLine _ _ = line
  simp only [String.toList_append, Text.toList_docstring, List.append_assoc, List.cons_append]
  generalize Text.escapeDocstring (Text.trim m.namespaceName.toList) = name
  generalize line.toList = line
  repeat rw [String.toList_ofList]
  rfl

theorem writesLines_client (h : m.IsWritten) : WritesLines IsStatements 0 m.clientText.toList := by
  have hdocstring := (writesLines_nameDocstring (n := 1)
    "GraphQL client bound to the ".toList ' ' "schema roots.".toList
    (by rw [String.toList_ofList]; rfl) (by rw [String.toList_ofList]; rfl)
    (by rw [String.toList_ofList]; rfl) (by rw [String.toList_ofList, String.toList_ofList]; simp)
    (nul_not_mem_trim h.namespaceName) (by decide)).blankAfter
  have hbody := hdocstring.append (writesLines_init.mono fun _ => IsStatements.one)
    fun _ _ hls hms => IsStatements.cons hls hms
  have hclass := (writesLines_class h.clientName
    (writes_clientBase h.queryRoot h.mutationRoot) hbody).mono fun _ => IsStatements.one
  have himports := (writesLines_import (w := "httpx") (by decide)).append
    (writesLines_import (w := "pydantic") (by decide)) fun _ _ => IsStatements.append
  have hruntime := himports.append (writesLines_importFrom (v := "selectql")
    (w := "runtime") (by decide) (by decide)).blank fun _ _ => IsStatements.append
  have hvariable := hruntime.append writesLines_typeVariable.blank fun _ _ => IsStatements.append
  rw [toList_clientText]
  exact (hvariable.append hclass fun _ _ => IsStatements.append).blank

/-- The text before the classes. -/
def front (m : Module) : List Char :=
  m.header.toList ++ m.imports.flatMap (fun line => (line ++ "\n").toList) ++ m.clientText.toList

theorem writesLines_front (h : m.IsWritten) : WritesLines IsStatements 0 m.front := by
  have himports := (writesLines_header h).flatMap (f := fun line => (line ++ "\n").toList)
    m.imports fun line hline => by
      obtain ⟨source, name, hsource, hname, rfl⟩ := h.imports line hline
      exact writesLines_importFrom hsource hname
  exact himports.append (writesLines_client h) fun _ _ => IsStatements.append

theorem toList_text (m : Module) : m.text.toList =
    m.front ++ m.classes.flatMap (fun c => c.text.toList) ++
      m.enums.flatMap (fun e => (enumText e).toList) ++
      (registrationHeader.toList ++ (m.enums.map registrationText).flatMap String.toList) ++
      m.rebuildText.toList := by
  simp [text, front, importLines, toList_join_empty, List.flatMap_map]

/-- Where all that is written into a module can be written, its text follows the grammar. -/
theorem wellFormed_text (names : CharacterNames) (h : m.IsWritten) :
    Char.ofNat 0 ∉ m.text.toList ∧ wellFormed names m.text := by
  have hclasses := (writesLines_front h).flatMap (f := fun c => c.text.toList) m.classes
    fun c hc => (writesLines_declaration (h.classes c hc)).mono fun _ => IsStatements.one
  have henums := hclasses.flatMap (f := fun e => (enumText e).toList) m.enums fun e he =>
    (writesLines_enum (h.enums e he)).mono fun _ => IsStatements.one
  have hbefore := henums.append (writesLines_registrations h.enums) fun _ _ => IsStatements.append
  refine wellFormed_of_writesLines names ?_
  rw [toList_text, rebuildText]
  split_ifs with hempty
  · have hmodule : WritesLines IsModule 0 _ := hbefore.mono fun _ hls => by
      have hmodule := hls.isModule isModule_nil
      rwa [List.append_nil] at hmodule
    simpa using hmodule
  · have htargets : Writes IsAtomic [] ("(" ++ m.rebuildTargets ++ ")") := by
      unfold rebuildTargets at hempty ⊢
      cases hclasses : m.classes with
      | nil => simp [hclasses, Text.join] at hempty
      | cons c classes =>
        refine writes_targets fun d hd => (h.classes d ?_).name
        rwa [hclasses]
    exact hbefore.append (writesLines_rebuild htargets) fun _ _ hls hms => hls.isModule hms

end SchemaClient.Module
