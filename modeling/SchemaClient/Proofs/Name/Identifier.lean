import SchemaClient.Proofs.Name.Settled
import SchemaClient.Text.Character

/-! Member names as identifiers: only a digit behind leading underscores stands in the way. -/
namespace SchemaClient.Name

open Sdl (isName isNamePart)

/-! ### The character in front -/

/-- Underscores between words come behind the first character that is none. -/
theorem find?_separateWords (inRun : Bool) (cs : List Char) :
    (separateWords inRun cs).find? (· != '_') = cs.find? (· != '_') := by
  induction inRun, cs using separateWords.induct with
  | case1 inRun => rfl
  | case2 inRun c => rfl
  | case3 inRun c d rest hrun ih =>
    rw [separateWords, if_pos hrun]
    simp only [List.find?_cons, ih]
  | case4 inRun c d rest hrun hword ih =>
    have hunderscore : ('_' != '_') = false := rfl
    rw [separateWords, if_neg hrun, if_pos hword]
    simp only [List.find?_cons, hunderscore, ih]
  | case5 inRun c d rest hrun hword ih =>
    rw [separateWords, if_neg hrun, if_neg hword]
    simp only [List.find?_cons, ih]

theorem find?_separateCapitals (cs : List Char) :
    (separateCapitals cs).find? (· != '_') = cs.find? (· != '_') := by
  induction cs using separateCapitals.induct with
  | case1 => rfl
  | case2 c => rfl
  | case3 c d rest hcapital ih =>
    have hunderscore : ('_' != '_') = false := rfl
    rw [separateCapitals, if_pos hcapital]
    simp only [List.find?_cons, hunderscore, ih]
  | case4 c d rest hcapital ih =>
    rw [separateCapitals, if_neg hcapital]
    simp only [List.find?_cons, ih]

/-- A change of case leaves underscores where they are. -/
theorem find?_map_case {f : Char → Char} {cs : List Char}
    (hf : ∀ c ∈ cs, f c = '_' ↔ c = '_') :
    (cs.map f).find? (· != '_') = (cs.find? (· != '_')).map f := by
  induction cs with
  | nil => rfl
  | cons c rest ih =>
    obtain ⟨hc, hrest⟩ := List.forall_mem_cons.mp hf
    have hsame : (f c != '_') = (c != '_') := by
      rw [Bool.eq_iff_iff, bne_iff_ne, bne_iff_ne, Ne, Ne, hc]
    rw [List.map_cons, List.find?_cons, List.find?_cons, hsame, ih hrest]
    cases c != '_' <;> rfl

theorem find?_snake {cs : List Char} (h : IsWord cs) :
    (snake cs).find? (· != '_') = (cs.find? (· != '_')).map Char.toLower := by
  have hwords := isWord_separateCapitals (isWord_separateWords false h)
  have hlower : ∀ c ∈ separateCapitals (separateWords false cs), c.toLower = '_' ↔ c = '_' :=
    fun c hc => of_ascii (P := fun d => d.toLower = '_' ↔ d = '_')
      (ascii_of_isNamePart (hwords c hc)) (by decide)
  rw [snake, Text.lower, lowerAfter_of_isWord hwords, find?_map_case hlower,
    find?_separateCapitals, find?_separateWords]

/-! ### Identifiers -/

theorem isIdentifierPart_of_isNamePart {c : Char} (h : isNamePart c) : Text.isIdentifierPart c := by
  have hascii := ascii_of_isNamePart h
  rw [Text.isIdentifierPart, if_pos hascii]
  exact h

theorem isIdentifierStart_iff_of_isNamePart {c : Char} (h : isNamePart c) :
    Text.isIdentifierStart c ↔ c.isDigit = false :=
  of_ascii (P := fun d => isNamePart d → (Text.isIdentifierStart d ↔ d.isDigit = false))
    (ascii_of_isNamePart h) (by decide) h

/-- A word is an identifier unless it is empty or has a digit in front. -/
theorem isIdentifier_iff_of_isWord {cs : List Char} (h : IsWord cs) :
    Text.isIdentifier cs ↔ ∃ c, cs.head? = some c ∧ c.isDigit = false := by
  cases cs with
  | nil => simp [Text.isIdentifier]
  | cons c rest =>
    obtain ⟨hc, hrest⟩ := List.forall_mem_cons.mp h
    have hparts : rest.all Text.isIdentifierPart :=
      List.all_eq_true.mpr fun d hd => isIdentifierPart_of_isNamePart (hrest d hd)
    simp [Text.isIdentifier, hparts, isIdentifierStart_iff_of_isNamePart hc]

theorem isDigit_toLower {c : Char} (h : isNamePart c) : c.toLower.isDigit = c.isDigit :=
  of_ascii (P := fun d => d.toLower.isDigit = d.isDigit) (ascii_of_isNamePart h) (by decide)

theorem isDigit_toUpper {c : Char} (h : isNamePart c) : c.toUpper.isDigit = c.isDigit :=
  of_ascii (P := fun d => d.toUpper.isDigit = d.isDigit) (ascii_of_isNamePart h) (by decide)

/-- Whether a digit comes first when underscores do not count. -/
def startsWithDigit (cs : List Char) : Bool :=
  (cs.find? (· != '_')).any Char.isDigit

theorem startsWithDigit_snake {cs : List Char} (h : IsWord cs) :
    startsWithDigit (snake cs) = startsWithDigit cs := by
  rw [startsWithDigit, startsWithDigit, find?_snake h]
  cases hfirst : cs.find? (· != '_') with
  | none => rfl
  | some c => exact isDigit_toLower (h c (List.mem_of_find?_eq_some hfirst))

theorem startsWithDigit_map_toUpper {cs : List Char} (h : IsWord cs) :
    startsWithDigit (cs.map Char.toUpper) = startsWithDigit cs := by
  have hupper : ∀ c ∈ cs, c.toUpper = '_' ↔ c = '_' := fun c hc =>
    of_ascii (P := fun d => d.toUpper = '_' ↔ d = '_') (ascii_of_isNamePart (h c hc)) (by decide)
  rw [startsWithDigit, startsWithDigit, find?_map_case hupper]
  cases hfirst : cs.find? (· != '_') with
  | none => rfl
  | some c => exact isDigit_toUpper (h c (List.mem_of_find?_eq_some hfirst))

/-- With its underscores moved, a word is an identifier unless that brings a digit to the front. -/
theorem isIdentifier_moveUnderscores_iff (fallback : List Char) (hfallback : IsWord fallback)
    {f : Char} (hf : fallback.head? = some f) (hdigit : f.isDigit = false) {cs : List Char}
    (h : IsWord cs) (hcs : cs ≠ []) :
    Text.isIdentifier (moveUnderscores fallback cs) ↔ startsWithDigit cs = false := by
  rw [isIdentifier_iff_of_isWord (isWord_moveUnderscores hfallback h),
    head?_moveUnderscores fallback hf hcs, startsWithDigit]
  cases cs.find? (· != '_') with
  | none => simp [hdigit]
  | some c => simp

theorem isIdentifier_append_underscore {cs : List Char} (hcs : cs ≠ []) :
    Text.isIdentifier (cs ++ ['_']) ↔ Text.isIdentifier cs := by
  obtain ⟨c, rest, rfl⟩ := List.exists_cons_of_ne_nil hcs
  have hunderscore : Text.isIdentifierPart '_' := by decide
  simp [Text.isIdentifier, hunderscore]

theorem isIdentifier_safeIdentifier {name : String} (hname : name.toList ≠ []) :
    Text.isIdentifier (safeIdentifier name).toList ↔ Text.isIdentifier name.toList := by
  unfold safeIdentifier
  split_ifs
  · rw [String.toList_append]
    exact isIdentifier_append_underscore hname
  · rfl

theorem isIdentifier_memberName_iff {wire : String} (h : isName wire.toList) :
    Text.isIdentifier (memberName wire).toList ↔ startsWithDigit wire.toList = false := by
  have hwire := isWord_of_isName h
  have hsnake := snake_ne_nil hwire (ne_nil_of_isName h)
  have hmoved : moveUnderscores "field".toList (snake wire.toList) ≠ [] := by
    intro hnil
    have hhead := head?_moveUnderscores "field".toList rfl hsnake
    rw [hnil] at hhead
    cases hhead
  rw [memberName, isIdentifier_safeIdentifier (by rwa [String.toList_ofList]),
    String.toList_ofList, isIdentifier_moveUnderscores_iff "field".toList
      (isWord_of_isName (by decide)) rfl (by decide) (isWord_snake hwire) hsnake,
    startsWithDigit_snake hwire]

theorem isIdentifier_enumMemberName_iff {wire : String} (h : isName wire.toList) :
    Text.isIdentifier (enumMemberName wire).toList ↔ startsWithDigit wire.toList = false := by
  have hwire := isWord_of_isName h
  have hne := ne_nil_of_isName h
  -- capitals are made of the name itself or of its words, which start alike
  have hupper : ∀ words, IsWord words → words ≠ [] →
      startsWithDigit words = startsWithDigit wire.toList →
      (Text.isIdentifier (moveUnderscores "VALUE".toList (Text.upper words)) ↔
        startsWithDigit wire.toList = false) := by
    intro words hwords hwne hsame
    rw [upper_of_isWord hwords, isIdentifier_moveUnderscores_iff "VALUE".toList
      (isWord_of_isName (by decide)) rfl (by decide) (isWord_map isNamePart_toUpper hwords)
      (by simpa using hwne), startsWithDigit_map_toUpper hwords, hsame]
  unfold enumMemberName
  dsimp only
  rw [String.toList_ofList]
  split_ifs
  · exact hupper _ hwire hne rfl
  · exact hupper _ (isWord_snake hwire) (snake_ne_nil hwire hne) (startsWithDigit_snake hwire)

/-! ### Case and keywords -/

theorem not_isUpperChar_of_isSettled {name : String} (h : IsSettled name) :
    ∀ c ∈ name.toList, Text.isUpperChar c = false := by
  intro c hc
  obtain ⟨hpart, hupper⟩ := h.parts c hc
  rw [Text.isUpperChar, if_pos (ascii_of_isNamePart hpart)]
  exact hupper

theorem not_isLowerChar_enumMemberName {wire : String} (h : isName wire.toList) :
    ∀ c ∈ (enumMemberName wire).toList, Text.isLowerChar c = false := by
  obtain ⟨words, hwords, -, heq⟩ := enumMemberName_eq h
  rw [heq, String.toList_ofList]
  refine forall_mem_moveUnderscores (List.all_iff_forall_prop.mp (by decide)) (by decide) ?_
  intro c hc
  obtain ⟨d, hd, rfl⟩ := List.mem_map.mp hc
  rw [Text.isLowerChar, if_pos (ascii_of_isNamePart (isNamePart_toUpper (hwords d hd)))]
  exact not_isLower_toUpper (hwords d hd)

/-- Every keyword but the underscore has a lowercase letter. -/
theorem not_mem_keywords_of_not_isLowerChar {name : String}
    (h : ∀ c ∈ name.toList, Text.isLowerChar c = false) (hstart : name.toList.head? ≠ some '_') :
    name ∉ keywords ++ softKeywords := by
  have hkeywords : ∀ w ∈ keywords ++ softKeywords, w = "_" ∨ w.toList.any Text.isLowerChar := by
    decide +kernel
  intro hmem
  rcases hkeywords name hmem with rfl | hlower
  · exact hstart rfl
  · obtain ⟨c, hc, hlower⟩ := List.any_eq_true.mp hlower
    simp [h c hc] at hlower

/-- Of a name on the wire both member names are identifiers, unless its leading underscores stand
before a digit: then neither is. They are never keywords and never start with an underscore, and one
has no capital and the other no lowercase letter. -/
theorem isIdentifier_memberNames_iff {wire : String} (h : isName wire.toList) :
    (Text.isIdentifier (memberName wire).toList ↔ startsWithDigit wire.toList = false) ∧
      (Text.isIdentifier (enumMemberName wire).toList ↔ startsWithDigit wire.toList = false) ∧
      (∀ name ∈ [memberName wire, enumMemberName wire],
        name ∉ keywords ∧ name ∉ softKeywords ∧ name.toList.head? ≠ some '_') ∧
      (∀ c ∈ (memberName wire).toList, Text.isUpperChar c = false) ∧
      ∀ c ∈ (enumMemberName wire).toList, Text.isLowerChar c = false := by
  have hsettled := isSettled_memberName h
  have hlower := not_isLowerChar_enumMemberName h
  have hstart : ∀ {name : String}, (∃ c, name.toList.head? = some c ∧ c ≠ '_') →
      name.toList.head? ≠ some '_' := by
    rintro name ⟨c, hc, hne⟩ hunderscore
    exact hne (Option.some.inj (hc.symm.trans hunderscore))
  have henum : (enumMemberName wire).toList.head? ≠ some '_' := by
    obtain ⟨c, hc, hne, -⟩ := head?_enumMemberName h
    exact hstart ⟨c, hc, hne⟩
  refine ⟨isIdentifier_memberName_iff h, isIdentifier_enumMemberName_iff h, ?_,
    not_isUpperChar_of_isSettled hsettled, hlower⟩
  simp only [List.forall_mem_cons, List.not_mem_nil, false_imp_iff, implies_true, and_true]
  have hfree := hsettled.free
  have henumFree := not_mem_keywords_of_not_isLowerChar hlower henum
  rw [List.mem_append, not_or] at hfree henumFree
  exact ⟨⟨hfree.1, hfree.2, hstart hsettled.start⟩, henumFree.1, henumFree.2, henum⟩

/-- Capitals, digits and underscores in one name. -/
theorem isIdentifier_memberNames_iff_mixed :
    isName "__HTTP2Class_".toList ∧ memberName "__HTTP2Class_" = "http2_class__" ∧
      enumMemberName "__HTTP2Class_" = "HTTP2_CLASS__" ∧
      Text.isIdentifier (memberName "__HTTP2Class_").toList ∧
      Text.isIdentifier (enumMemberName "__HTTP2Class_").toList := by
  have hname : isName "__HTTP2Class_".toList := by decide
  have hdigit : startsWithDigit "__HTTP2Class_".toList = false := by decide
  obtain ⟨hmember, henum, -⟩ := isIdentifier_memberNames_iff hname
  exact ⟨hname, by decide +kernel, by decide +kernel, hmember.mpr hdigit, henum.mpr hdigit⟩

/-- Without its underscore the name starts with a digit. -/
theorem not_isIdentifier_underscoredDigit :
    isName "_1".toList ∧ memberName "_1" = "1_" ∧ enumMemberName "_1" = "1_" ∧
      Text.isIdentifier (memberName "_1").toList = false ∧
      Text.isIdentifier (enumMemberName "_1").toList = false := by
  decide +kernel

end SchemaClient.Name
