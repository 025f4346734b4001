import SchemaClient.Proofs.Name.Member

/-! Names that can be given to members: they are their own member names, and stay such names when
they are changed to be free. -/
namespace SchemaClient.Name

open Sdl (isName isNamePart)

/-! ### Suffixes -/

/-- The name ends in an underscore or a digit, as all names do that were changed to be free. -/
def isSuffixed (name : String) : Bool :=
  name.toList.getLast?.any fun c => c == '_' || c.isDigit

theorem isSuffixed_append_underscore (name : String) : isSuffixed (name ++ "_") := by
  simp [isSuffixed]

theorem getLast?_numbered (base : String) (k : Nat) :
    ∃ c, (numbered base k).toList.getLast? = some c ∧ c.isDigit := by
  have hne : (toString k).toList ≠ [] := by
    rw [Nat.toString_eq_repr, Nat.repr, String.toList_ofList]
    exact Nat.toDigits_ne_nil
  refine ⟨(toString k).toList.getLast hne, ?_, isDigit_of_mem_toString (List.getLast_mem hne)⟩
  rw [numbered, String.toList_append, List.getLast?_append_of_ne_nil _ hne,
    List.getLast?_eq_some_getLast hne]

theorem isSuffixed_numbered (base : String) (k : Nat) : isSuffixed (numbered base k) := by
  obtain ⟨c, hlast, hdigit⟩ := getLast?_numbered base k
  rw [isSuffixed, hlast, Option.any_some, hdigit, Bool.or_true]

theorem dropEndWhile_of_getLast? {p : Char → Bool} {c : Char} (hc : p c = false) {cs : List Char}
    (h : cs.getLast? = some c) : Text.dropEndWhile p cs = cs := by
  induction cs with
  | nil => rfl
  | cons d rest ih =>
    cases rest with
    | nil =>
      obtain rfl : d = c := by simpa using h
      simp [Text.dropEndWhile, hc]
    | cons e rest =>
      rw [List.getLast?_cons_cons] at h
      rw [Text.dropEndWhile, ih h]

/-- A number is put behind the stem, so that the name does not come back. -/
theorem numbered_stem_ne (name : String) (k : Nat) : numbered (stem name) k ≠ name := by
  intro heq
  obtain ⟨c, hlast, hdigit⟩ := getLast?_numbered (stem name) k
  rw [heq] at hlast
  have hc : (c == '_') = false := by
    rw [beq_eq_false_iff_ne]
    rintro rfl
    exact absurd hdigit (by decide)
  have hstem : stem name = name := by
    rw [stem, dropEndWhile_of_getLast? (p := (· == '_')) hc hlast, String.ofList_toList]
  have hlength := congrArg String.length heq
  rw [hstem, numbered, String.length_append, String.length_append] at hlength
  have hone : "_".length = 1 := rfl
  omega

theorem stem_append_underscore (name : String) : stem (name ++ "_") = stem name := by
  unfold stem
  rw [String.toList_append]
  exact congrArg _ (dropEndWhile_append_singleton rfl _)

/-! ### Settled names -/

/-- Lowercase letters, digits and underscores without an underscore in front, and no keyword. -/
structure IsSettled (name : String) : Prop where
  parts : ∀ c ∈ name.toList, isNamePart c ∧ c.isUpper = false
  start : ∃ c, name.toList.head? = some c ∧ c ≠ '_'
  free : name ∉ keywords ++ softKeywords

theorem separateWords_of_lower (inRun : Bool) {cs : List Char} (h : ∀ c ∈ cs, c.isUpper = false) :
    separateWords inRun cs = cs := by
  induction inRun, cs using separateWords.induct with
  | case1 inRun => rfl
  | case2 inRun c => rfl
  | case3 inRun c d rest hrun ih =>
    rw [separateWords, if_pos hrun, ih (List.forall_mem_cons.mp h).2]
  | case4 inRun c d rest hrun hcapital ih =>
    have hd := h d (List.mem_cons_of_mem _ List.mem_cons_self)
    simp [hd] at hcapital
  | case5 inRun c d rest hrun hcapital ih =>
    rw [separateWords, if_neg hrun, if_neg hcapital, ih (List.forall_mem_cons.mp h).2]

theorem separateCapitals_of_lower {cs : List Char} (h : ∀ c ∈ cs, c.isUpper = false) :
    separateCapitals cs = cs := by
  induction cs using separateCapitals.induct with
  | case1 => rfl
  | case2 c => rfl
  | case3 c d rest hcapital ih =>
    have hd := h d (List.mem_cons_of_mem _ List.mem_cons_self)
    simp [hd] at hcapital
  | case4 c d rest hcapital ih =>
    rw [separateCapitals, if_neg hcapital, ih (List.forall_mem_cons.mp h).2]

theorem toLower_eq_self {c : Char} (hc : isNamePart c) (hupper : c.isUpper = false) :
    c.toLower = c :=
  of_ascii (P := fun d => d.isUpper = false → d.toLower = d) (ascii_of_isNamePart hc) (by decide)
    hupper

theorem not_isUpper_toLower {c : Char} (hc : isNamePart c) : c.toLower.isUpper = false :=
  of_ascii (P := fun d => d.toLower.isUpper = false) (ascii_of_isNamePart hc) (by decide)

/-- A settled name is a member name already. -/
theorem IsSettled.memberName_eq {name : String} (h : IsSettled name) : memberName name = name := by
  have hlower : ∀ c ∈ name.toList, c.isUpper = false := fun c hc => (h.parts c hc).2
  have hword : IsWord name.toList := fun c hc => (h.parts c hc).1
  have hsnake : snake name.toList = name.toList := by
    rw [snake, separateWords_of_lower false hlower, separateCapitals_of_lower hlower, Text.lower,
      lowerAfter_of_isWord hword]
    exact (List.map_congr_left fun c hc => toLower_eq_self (hword c hc) (hlower c hc)).trans
      (List.map_id _)
  have hmoved : moveUnderscores "field".toList name.toList = name.toList := by
    obtain ⟨c, hhead, hc⟩ := h.start
    obtain ⟨rest, hname⟩ := List.head?_eq_some_iff.mp hhead
    rw [hname, moveUnderscores, if_neg (by simpa using hc)]
  have hfree := h.free
  rw [List.mem_append, not_or] at hfree
  rw [memberName, hsnake, hmoved, String.ofList_toList, safeIdentifier, if_neg]
  simpa using hfree

/-- Of the keywords only the underscore ends like a name that was changed. -/
theorem not_mem_keywords_of_isSuffixed {name : String} (h : isSuffixed name)
    (hstart : ∃ c, name.toList.head? = some c ∧ c ≠ '_') : name ∉ keywords ++ softKeywords := by
  have hkeywords : ∀ w ∈ keywords ++ softKeywords, isSuffixed w → w = "_" := by decide +kernel
  intro hmem
  obtain ⟨c, hhead, hc⟩ := hstart
  rw [hkeywords name hmem h] at hhead
  exact hc (Option.some.inj hhead).symm

theorem head?_append_of_head? {name : String} {c : Char} (h : name.toList.head? = some c)
    (suffix : String) : (name ++ suffix).toList.head? = some c := by
  rw [String.toList_append, List.head?_append, h, Option.some_or]

section Changed

variable {name : String} (h : IsSettled name)

include h

theorem IsSettled.append_underscore : IsSettled (name ++ "_") := by
  obtain ⟨c, hhead, hc⟩ := h.start
  have hstart : ∃ c, (name ++ "_").toList.head? = some c ∧ c ≠ '_' :=
    ⟨c, head?_append_of_head? hhead "_", hc⟩
  refine ⟨?_, hstart, not_mem_keywords_of_isSuffixed (isSuffixed_append_underscore name) hstart⟩
  rw [String.toList_append]
  exact List.forall_mem_append.mpr ⟨h.parts, List.forall_mem_singleton.mpr (by decide)⟩

theorem IsSettled.numbered (k : Nat) : IsSettled (numbered (stem name) k) := by
  obtain ⟨c, hhead, hc⟩ := h.start
  have hstart : ∃ c, (Name.numbered (stem name) k).toList.head? = some c ∧ c ≠ '_' :=
    ⟨c, head?_numbered hhead hc k, hc⟩
  refine ⟨?_, hstart, not_mem_keywords_of_isSuffixed (isSuffixed_numbered _ k) hstart⟩
  refine forall_mem_numbered h.parts (by decide) (fun d hd => ?_) k
  have hpart : isNamePart d := by simp [isNamePart, Char.isAlphanum, hd]
  exact ⟨hpart, of_ascii (P := fun d => d.isDigit → d.isUpper = false) (ascii_of_isNamePart hpart)
    (by decide) hd⟩

end Changed

theorem isSettled_memberName {wire : String} (h : isName wire.toList) :
    IsSettled (memberName wire) := by
  have hwords := isWord_separateCapitals (isWord_separateWords false (isWord_of_isName h))
  have hsnake : ∀ c ∈ snake wire.toList, isNamePart c ∧ c.isUpper = false := by
    rw [snake, Text.lower, lowerAfter_of_isWord hwords]
    intro c hc
    obtain ⟨d, hd, rfl⟩ := List.mem_map.mp hc
    exact ⟨isNamePart_toLower (hwords d hd), not_isUpper_toLower (hwords d hd)⟩
  have hfallback : ∀ c ∈ "field".toList, isNamePart c ∧ c.isUpper = false :=
    List.all_iff_forall_prop.mp (by decide)
  have hmoved := forall_mem_moveUnderscores hfallback (by decide) hsnake
  have hstart := head?_memberName h
  unfold memberName safeIdentifier at hstart ⊢
  split_ifs at hstart ⊢ with hkeyword
  · refine ⟨?_, hstart, not_mem_keywords_of_isSuffixed (isSuffixed_append_underscore _) hstart⟩
    rw [String.toList_append, String.toList_ofList]
    exact List.forall_mem_append.mpr ⟨hmoved, List.forall_mem_singleton.mpr (by decide)⟩
  · refine ⟨by rwa [String.toList_ofList], hstart, ?_⟩
    simpa using hkeyword

end SchemaClient.Name
