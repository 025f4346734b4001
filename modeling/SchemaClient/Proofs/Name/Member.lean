import Mathlib
import SchemaClient.Name
import SchemaClient.Proofs.Name.Fresh
import SchemaClient.Proofs.Sdl.Scan

/-! Which characters the names of members are made of, and which they start with. -/
namespace SchemaClient.Name

open Sdl (isName isNamePart isNameStart)

/-! ### ASCII words -/

/-- What holds of all ASCII characters can be tried out. -/
theorem of_ascii {P : Char → Prop} {c : Char} (hc : c.toNat < 128) (h : ∀ n < 128, P (.ofNat n)) :
    P c := by
  have hn := h c.toNat hc
  rwa [Char.ofNat_toNat] at hn

/-- Letters, digits and underscores. -/
def IsWord (cs : List Char) : Prop :=
  ∀ c ∈ cs, isNamePart c

theorem ascii_of_isNamePart {c : Char} (h : isNamePart c) : c.toNat < 128 := by
  simp only [isNamePart, Char.isAlphanum, Char.isAlpha, Char.isUpper, Char.isLower, Char.isDigit,
    Bool.or_eq_true, Bool.and_eq_true, decide_eq_true_eq, beq_iff_eq, ge_iff_le,
    UInt32.le_iff_toNat_le] at h
  show c.val.toNat < 128
  rcases h with ((⟨-, h⟩ | ⟨-, h⟩) | ⟨-, h⟩) | rfl
  · exact lt_of_le_of_lt h (by decide)
  · exact lt_of_le_of_lt h (by decide)
  · exact lt_of_le_of_lt h (by decide)
  · decide

theorem isNamePart_of_isNameStart {c : Char} (h : isNameStart c) : isNamePart c := by
  rcases Bool.or_eq_true_iff.mp h with h | h
  · simp [isNamePart, Char.isAlphanum, h]
  · simp [isNamePart, h]

theorem isWord_of_isName {cs : List Char} (h : isName cs) : IsWord cs := by
  cases cs with
  | nil => exact absurd h (by decide)
  | cons c rest =>
    obtain ⟨hc, hrest⟩ := Bool.and_eq_true_iff.mp h
    exact List.forall_mem_cons.mpr ⟨isNamePart_of_isNameStart hc, List.all_eq_true.mp hrest⟩

theorem upper_of_isWord {cs : List Char} (h : IsWord cs) : Text.upper cs = cs.map Char.toUpper := by
  induction cs with
  | nil => rfl
  | cons c rest ih =>
    obtain ⟨hc, hrest⟩ := List.forall_mem_cons.mp h
    have hupper : Text.upperChar c = [c.toUpper] := if_pos (ascii_of_isNamePart hc)
    have hstep : Text.upper (c :: rest) = Text.upperChar c ++ Text.upper rest := rfl
    rw [hstep, hupper, ih hrest]
    rfl

theorem lowerAfter_of_isWord {before cs : List Char} (h : IsWord cs) :
    Text.lowerAfter before cs = cs.map Char.toLower := by
  induction cs generalizing before with
  | nil => rfl
  | cons c rest ih =>
    obtain ⟨hc, hrest⟩ := List.forall_mem_cons.mp h
    have hascii := ascii_of_isNamePart hc
    have hsigma : c ≠ 'Σ' := by
      rintro rfl
      exact absurd hascii (by decide)
    have hlower : Text.lowerChar c = [c.toLower] := if_pos hascii
    simp [Text.lowerAfter, hsigma, hlower, ih hrest]

theorem isNamePart_toUpper {c : Char} (h : isNamePart c) : isNamePart c.toUpper := by
  exact of_ascii (P := fun d => isNamePart d → isNamePart d.toUpper) (ascii_of_isNamePart h)
    (by decide) h

theorem isNamePart_toLower {c : Char} (h : isNamePart c) : isNamePart c.toLower := by
  exact of_ascii (P := fun d => isNamePart d → isNamePart d.toLower) (ascii_of_isNamePart h)
    (by decide) h

theorem not_isLower_toUpper {c : Char} (h : isNamePart c) : c.toUpper.isLower = false := by
  exact of_ascii (P := fun d => d.toUpper.isLower = false) (ascii_of_isNamePart h) (by decide)

/-! ### Snake case -/

theorem isWord_separateWords (inRun : Bool) {cs : List Char} (h : IsWord cs) :
    IsWord (separateWords inRun cs) := by
  induction inRun, cs using separateWords.induct with
  | case1 inRun => exact h
  | case2 inRun c => exact h
  | case3 inRun c d rest hrun ih =>
    obtain ⟨hc, htail⟩ := List.forall_mem_cons.mp h
    rw [separateWords, if_pos hrun]
    exact List.forall_mem_cons.mpr ⟨hc, ih htail⟩
  | case4 inRun c d rest hrun hcapital ih =>
    obtain ⟨hc, htail⟩ := List.forall_mem_cons.mp h
    obtain ⟨hd, hrest⟩ := List.forall_mem_cons.mp htail
    rw [separateWords, if_neg hrun, if_pos hcapital]
    simp only [IsWord, List.forall_mem_cons]
    exact ⟨hc, by decide, hd, ih hrest⟩
  | case5 inRun c d rest hrun hcapital ih =>
    obtain ⟨hc, htail⟩ := List.forall_mem_cons.mp h
    rw [separateWords, if_neg hrun, if_neg hcapital]
    exact List.forall_mem_cons.mpr ⟨hc, ih htail⟩

theorem isWord_separateCapitals {cs : List Char} (h : IsWord cs) :
    IsWord (separateCapitals cs) := by
  induction cs using separateCapitals.induct with
  | case1 => exact h
  | case2 c => exact h
  | case3 c d rest hcapital ih =>
    obtain ⟨hc, htail⟩ := List.forall_mem_cons.mp h
    rw [separateCapitals, if_pos hcapital]
    simp only [IsWord, List.forall_mem_cons]
    exact ⟨hc, by decide, ih htail⟩
  | case4 c d rest hcapital ih =>
    obtain ⟨hc, htail⟩ := List.forall_mem_cons.mp h
    rw [separateCapitals, if_neg hcapital]
    exact List.forall_mem_cons.mpr ⟨hc, ih htail⟩

theorem isWord_map {f : Char → Char} (hf : ∀ {c}, isNamePart c → isNamePart (f c))
    {cs : List Char} (h : IsWord cs) : IsWord (cs.map f) := by
  intro d hd
  obtain ⟨c, hc, rfl⟩ := List.mem_map.mp hd
  exact hf (h c hc)

theorem isWord_snake {cs : List Char} (h : IsWord cs) : IsWord (snake cs) := by
  have hwords := isWord_separateCapitals (isWord_separateWords false h)
  rw [snake, Text.lower, lowerAfter_of_isWord hwords]
  exact isWord_map isNamePart_toLower hwords

/-! ### Underscores -/

/-- A name is made of its own characters, those of the fallback, and underscores. -/
theorem forall_mem_moveUnderscores {P : Char → Prop} {fallback cs : List Char}
    (hfallback : ∀ c ∈ fallback, P c) (hunderscore : P '_') (h : ∀ c ∈ cs, P c) :
    ∀ c ∈ moveUnderscores fallback cs, P c := by
  cases cs with
  | nil => exact h
  | cons c rest =>
    rw [moveUnderscores]
    split_ifs
    · split
      · exact List.forall_mem_append.mpr ⟨hfallback, by simpa using hunderscore⟩
      · rename_i d kept hdrop
        refine List.forall_mem_append.mpr ⟨fun e he => h e ?_, by simpa using hunderscore⟩
        rw [← hdrop] at he
        exact List.mem_cons_of_mem _ ((List.dropWhile_suffix _).subset he)
    · exact h

theorem isWord_moveUnderscores {fallback cs : List Char} (hfallback : IsWord fallback)
    (h : IsWord cs) : IsWord (moveUnderscores fallback cs) :=
  forall_mem_moveUnderscores hfallback (by decide) h

/-- Behind the leading underscores comes the first character that is none, or else the fallback. -/
theorem head?_moveUnderscores (fallback : List Char) {f : Char} (hf : fallback.head? = some f)
    {cs : List Char} (hcs : cs ≠ []) :
    (moveUnderscores fallback cs).head? = some ((cs.find? (· != '_')).getD f) := by
  obtain ⟨c, rest, rfl⟩ := List.exists_cons_of_ne_nil hcs
  by_cases hc : c = '_'
  · subst hc
    have hfind : rest.find? (· != '_') = (rest.dropWhile (· == '_')).head? :=
      rest.find?_not_eq_head?_dropWhile (· == '_')
    rw [moveUnderscores, if_pos (by decide), List.find?_cons_of_neg (by decide), hfind]
    split
    · rename_i hdrop
      rw [hdrop, List.head?_append, hf]
      rfl
    · rename_i d kept hdrop
      rw [hdrop]
      rfl
  · rw [moveUnderscores, if_neg (by simpa using hc), List.find?_cons_of_pos (by simpa using hc)]
    rfl

theorem find?_getD_ne_underscore {f : Char} (hf : f ≠ '_') (cs : List Char) :
    (cs.find? (· != '_')).getD f ≠ '_' := by
  cases hfind : cs.find? (· != '_') with
  | none => exact hf
  | some c => simpa using List.find?_some hfind

/-! ### Names of members -/

theorem separateWords_ne_nil {inRun : Bool} {cs : List Char} (h : cs ≠ []) :
    separateWords inRun cs ≠ [] := by
  fun_cases separateWords inRun cs
  · exact absurd rfl h
  all_goals simp

theorem separateCapitals_ne_nil {cs : List Char} (h : cs ≠ []) : separateCapitals cs ≠ [] := by
  fun_cases separateCapitals cs
  · exact absurd rfl h
  all_goals simp

theorem snake_ne_nil {cs : List Char} (h : IsWord cs) (hne : cs ≠ []) : snake cs ≠ [] := by
  have hseparated : separateCapitals (separateWords false cs) ≠ [] :=
    separateCapitals_ne_nil (separateWords_ne_nil hne)
  have hwords := isWord_separateCapitals (isWord_separateWords false h)
  rw [snake, Text.lower, lowerAfter_of_isWord hwords]
  simpa using hseparated

theorem ne_nil_of_isName {cs : List Char} (h : isName cs) : cs ≠ [] := by
  rintro rfl
  exact absurd h (by decide)

theorem head?_memberName {wire : String} (h : isName wire.toList) :
    ∃ c, (memberName wire).toList.head? = some c ∧ c ≠ '_' := by
  have hsnake := snake_ne_nil (isWord_of_isName h) (ne_nil_of_isName h)
  have hmoved := head?_moveUnderscores "field".toList rfl hsnake
  refine ⟨_, ?_, find?_getD_ne_underscore (f := 'f') (by decide) (snake wire.toList)⟩
  unfold memberName safeIdentifier
  split_ifs
  · rw [String.toList_append, String.toList_ofList, List.head?_append, hmoved]
    rfl
  · rwa [String.toList_ofList]

/-- The words that the name of an enum value is made of, before they are capitalised. -/
theorem enumMemberName_eq {wire : String} (h : isName wire.toList) :
    ∃ words, IsWord words ∧ words ≠ [] ∧
      enumMemberName wire = .ofList (moveUnderscores "VALUE".toList (words.map Char.toUpper)) := by
  have hwire := isWord_of_isName h
  have hne := ne_nil_of_isName h
  unfold enumMemberName
  dsimp only
  split_ifs
  · exact ⟨wire.toList, hwire, hne, by rw [upper_of_isWord hwire]⟩
  · exact ⟨snake wire.toList, isWord_snake hwire, snake_ne_nil hwire hne,
      by rw [upper_of_isWord (isWord_snake hwire)]⟩

theorem head?_enumMemberName {wire : String} (h : isName wire.toList) :
    ∃ c, (enumMemberName wire).toList.head? = some c ∧ c ≠ '_' ∧ c.isLower = false := by
  obtain ⟨words, hwords, hne, heq⟩ := enumMemberName_eq h
  have hupper : words.map Char.toUpper ≠ [] := by simpa using hne
  have hmoved := head?_moveUnderscores "VALUE".toList rfl hupper
  rw [heq, String.toList_ofList]
  refine ⟨_, hmoved, find?_getD_ne_underscore (by decide) _, ?_⟩
  cases hfind : (words.map Char.toUpper).find? (· != '_') with
  | none => decide
  | some c =>
    obtain ⟨d, hd, rfl⟩ := List.mem_map.mp (List.mem_of_find?_eq_some hfind)
    exact not_isLower_toUpper (hwords d hd)

/-! ### Numbered names -/

theorem dropEndWhile_cons {p : Char → Bool} {c : Char} (hc : p c = false) (rest : List Char) :
    Text.dropEndWhile p (c :: rest) = c :: Text.dropEndWhile p rest := by
  rw [Text.dropEndWhile]
  split
  · rename_i heq
    simp [hc, heq]
  · rename_i heq
    rw [heq]

theorem dropEndWhile_append_singleton {p : Char → Bool} {c : Char} (hc : p c) (cs : List Char) :
    Text.dropEndWhile p (cs ++ [c]) = Text.dropEndWhile p cs := by
  induction cs with
  | nil => simp [Text.dropEndWhile, hc]
  | cons d rest ih => simp only [List.cons_append, Text.dropEndWhile, ih]

theorem mem_of_mem_dropEndWhile {p : Char → Bool} {cs : List Char} {c : Char}
    (h : c ∈ Text.dropEndWhile p cs) : c ∈ cs := by
  induction cs with
  | nil => exact h
  | cons d rest ih =>
    rw [Text.dropEndWhile] at h
    split at h
    · split_ifs at h
      · cases h
      · exact List.mem_singleton.mp h ▸ List.mem_cons_self
    · rename_i heq
      rw [← heq] at h
      rcases List.mem_cons.mp h with rfl | hrest
      · exact List.mem_cons_self
      · exact List.mem_cons_of_mem _ (ih hrest)

theorem forall_mem_numbered {P : Char → Prop} {name : String} (h : ∀ c ∈ name.toList, P c)
    (hunderscore : P '_') (hdigit : ∀ c : Char, c.isDigit → P c) (k : Nat) :
    ∀ c ∈ (numbered (stem name) k).toList, P c := by
  rw [numbered, String.toList_append, String.toList_append, stem, String.toList_ofList]
  refine List.forall_mem_append.mpr ⟨List.forall_mem_append.mpr ⟨fun c hc => ?_, ?_⟩,
    fun c hc => ?_⟩
  · exact h c (mem_of_mem_dropEndWhile hc)
  · simpa using hunderscore
  · exact hdigit c (isDigit_of_mem_toString hc)

theorem head?_numbered {name : String} {c : Char} (h : name.toList.head? = some c) (hc : c ≠ '_')
    (k : Nat) : (numbered (stem name) k).toList.head? = some c := by
  obtain ⟨rest, hname⟩ := List.head?_eq_some_iff.mp h
  rw [numbered, String.toList_append, String.toList_append, stem, String.toList_ofList, hname,
    dropEndWhile_cons (by simpa using hc)]
  rfl

/-- A number at the end changes nothing at the front. -/
theorem head?_fresh {free : String → Bool} {name : String} (bound : Nat) {c : Char}
    (h : name.toList.head? = some c) (hc : c ≠ '_') :
    (fresh free name bound).toList.head? = some c := by
  rcases fresh_eq free name bound with heq | ⟨k, heq⟩
  · rwa [heq]
  · rw [heq]
    exact head?_numbered h hc k

end SchemaClient.Name
