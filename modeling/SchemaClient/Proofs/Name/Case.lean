import SchemaClient.Name
import SchemaClient.Proofs.Name.Member

/-! Snake case: reading a name twice from the left, once for words and once for capitals, finds the
places that a rule about three neighbouring characters describes. -/
namespace SchemaClient.Name

/-! ### Patterns -/

/-- What a match at the front of a text is replaced by, and how many characters it takes. -/
structure Match where
  image : List Char
  length : Nat

/-- Replaces the matches of a pattern from the left, behind the `taken` characters that belong to
the match before. -/
def substitute (pattern : List Char → Option Match) : Nat → List Char → List Char
  | _, [] => []
  | taken + 1, _ :: rest => substitute pattern taken rest
  | 0, c :: rest =>
    match pattern (c :: rest) with
    | some m => m.image ++ substitute pattern (m.length - 1) rest
    | none => c :: substitute pattern 0 rest

/-- Any character but a line feed, then a capital with all lowercase letters behind it, one at
least. An underscore comes before the capital. -/
def wordPattern : List Char → Option Match
  | c :: d :: rest =>
    let run := rest.takeWhile Char.isLower
    if c != '\n' && d.isUpper && !run.isEmpty then some ⟨c :: '_' :: d :: run, run.length + 2⟩
    else none
  | _ => none

/-- A lowercase letter or digit, then a capital. An underscore comes between them. -/
def capitalPattern : List Char → Option Match
  | c :: d :: _ => if (c.isLower || c.isDigit) && d.isUpper then some ⟨[c, '_', d], 2⟩ else none
  | _ => none

theorem substitute_of_some {pattern : List Char → Option Match} {c : Char} {rest : List Char}
    {m : Match} (h : pattern (c :: rest) = some m) :
    substitute pattern 0 (c :: rest) = m.image ++ substitute pattern (m.length - 1) rest := by
  rw [substitute, h]

theorem substitute_of_none {pattern : List Char → Option Match} {c : Char} {rest : List Char}
    (h : pattern (c :: rest) = none) :
    substitute pattern 0 (c :: rest) = c :: substitute pattern 0 rest := by
  rw [substitute, h]

/-! ### The two readings -/

/-- The letters at the front of a text that belong to a word before it. -/
def wordRest (inRun : Bool) (cs : List Char) : List Char :=
  if inRun then cs.takeWhile Char.isLower else []

theorem wordRest_of_not {inRun : Bool} {c : Char} (h : ¬(inRun && c.isLower)) (rest : List Char) :
    wordRest inRun (c :: rest) = [] := by
  cases inRun with
  | false => rfl
  | true =>
    have hc : ¬c.isLower := by simpa using h
    rw [wordRest, if_pos rfl, List.takeWhile_cons_of_neg hc]

theorem wordPattern_cons (c d : Char) (rest : List Char) : wordPattern (c :: d :: rest) =
    if c != '\n' && d.isUpper && rest.head?.any Char.isLower then
      some ⟨c :: '_' :: d :: wordRest true rest, (wordRest true rest).length + 2⟩
    else none := by
  have hrun : (!(wordRest true rest).isEmpty) = rest.head?.any Char.isLower := by
    cases rest with
    | nil => rfl
    | cons e rest => cases he : e.isLower <;> simp [wordRest, he]
  rw [← hrun]
  rfl

theorem separateWords_eq_substitute (inRun : Bool) (cs : List Char) : separateWords inRun cs =
    wordRest inRun cs ++ substitute wordPattern (wordRest inRun cs).length cs := by
  induction inRun, cs using separateWords.induct with
  | case1 inRun => cases inRun <;> rfl
  | case2 inRun c =>
    by_cases hrun : inRun && c.isLower
    · obtain ⟨rfl, hc⟩ := Bool.and_eq_true_iff.mp hrun
      simp [separateWords, wordRest, hc, substitute]
    · rw [wordRest_of_not hrun]
      rfl
  | case3 inRun c d rest hrun ih =>
    obtain ⟨rfl, hc⟩ := Bool.and_eq_true_iff.mp hrun
    have hword : wordRest true (c :: d :: rest) = c :: wordRest true (d :: rest) :=
      List.takeWhile_cons_of_pos hc
    rw [separateWords, if_pos hrun, ih, hword]
    rfl
  | case4 inRun c d rest hrun hword ih =>
    have hmatch := wordPattern_cons c d rest
    rw [if_pos hword] at hmatch
    rw [separateWords, if_neg hrun, if_pos hword, ih, wordRest_of_not hrun]
    exact (substitute_of_some hmatch).symm
  | case5 inRun c d rest hrun hword ih =>
    have hmatch := wordPattern_cons c d rest
    rw [if_neg hword] at hmatch
    rw [separateWords, if_neg hrun, if_neg hword, ih, wordRest_of_not hrun]
    exact (substitute_of_none hmatch).symm

theorem not_isLower_of_isUpper {c : Char} (h : c.isUpper) : (c.isLower || c.isDigit) = false := by
  have hpart : Sdl.isNamePart c := by simp [Sdl.isNamePart, Char.isAlphanum, Char.isAlpha, h]
  exact of_ascii (P := fun c => c.isUpper → (c.isLower || c.isDigit) = false)
    (ascii_of_isNamePart hpart) (by decide) h

theorem not_isUpper_of_isLower {c : Char} (h : c.isLower) : c.isUpper = false := by
  cases hupper : c.isUpper with
  | false => rfl
  | true =>
    have hlower := not_isLower_of_isUpper hupper
    simp [h] at hlower

/-- A capital that ends one match starts no other. -/
theorem separateCapitals_eq_substitute (cs : List Char) :
    separateCapitals cs = substitute capitalPattern 0 cs := by
  induction cs using separateCapitals.induct with
  | case1 => rfl
  | case2 c => rfl
  | case3 c d rest hcapital ih =>
    have hmatch : capitalPattern (c :: d :: rest) = some ⟨[c, '_', d], 2⟩ := if_pos hcapital
    have hnext : capitalPattern (d :: rest) = none := by
      have hd := not_isLower_of_isUpper (Bool.and_eq_true_iff.mp hcapital).2
      cases rest with
      | nil => rfl
      | cons e rest => simp [capitalPattern, hd]
    rw [separateCapitals, if_pos hcapital, ih, substitute_of_none hnext, substitute_of_some hmatch]
    rfl
  | case4 c d rest hcapital ih =>
    have hmatch : capitalPattern (c :: d :: rest) = none := if_neg hcapital
    rw [separateCapitals, if_neg hcapital, ih, substitute_of_none hmatch]

/-! ### The places between words -/

/-- Whether a word starts at a position behind the first: there is a capital, behind a lowercase
letter or digit, or before a lowercase letter and not behind a line feed. -/
def startsWord (cs : List Char) (i : Nat) : Bool :=
  1 ≤ i && cs[i]?.any Char.isUpper &&
    (cs[i - 1]?.any (fun c => c.isLower || c.isDigit) ||
      cs[i + 1]?.any Char.isLower && cs[i - 1]? != some '\n')

/-- All characters of a text in their order, with an underscore before each that starts a word. -/
def separated (cs : List Char) : List Char :=
  cs.zipIdx.flatMap fun p => if startsWord cs p.2 then ['_', p.1] else [p.1]

/-- Whether a word starts between two characters, given the one behind them. -/
def isBreak (c d : Char) (next : Option Char) : Bool :=
  d.isUpper && ((c.isLower || c.isDigit) || next.any Char.isLower && c != '\n')

/-- The text with an underscore in every break, read from the left. -/
def markBreaks : List Char → List Char
  | [] => []
  | [c] => [c]
  | c :: d :: rest =>
    if isBreak c d rest.head? then c :: '_' :: markBreaks (d :: rest)
    else c :: markBreaks (d :: rest)

theorem startsWord_append (before : List Char) (c d : Char) (rest : List Char) :
    startsWord (before ++ c :: d :: rest) (before.length + 1) = isBreak c d rest.head? := by
  have hcurrent : (before ++ c :: d :: rest)[before.length + 1]? = some d := by
    rw [List.getElem?_append_right (by omega)]
    simp
  have hprevious : (before ++ c :: d :: rest)[before.length]? = some c := by
    rw [List.getElem?_append_right (by omega)]
    simp
  have hnext : (before ++ c :: d :: rest)[before.length + 2]? = rest.head? := by
    rw [List.getElem?_append_right (by omega), List.head?_eq_getElem?]
    simp
  have hline : (some c != some '\n') = (c != '\n') := rfl
  rw [startsWord, Nat.add_sub_cancel, hcurrent, hprevious, hnext, hline]
  simp [isBreak]

theorem flatMap_zipIdx_eq (before : List Char) (c : Char) (rest : List Char) :
    ((c :: rest).zipIdx before.length).flatMap
        (fun p => if startsWord (before ++ c :: rest) p.2 then ['_', p.1] else [p.1]) =
      (if startsWord (before ++ c :: rest) before.length then ['_'] else []) ++
        markBreaks (c :: rest) := by
  induction rest generalizing before c with
  | nil => cases h : startsWord (before ++ [c]) before.length <;> simp [h, markBreaks]
  | cons d rest ih =>
    have hnext := ih (before ++ [c]) d
    rw [List.append_assoc, List.singleton_append, List.length_append, List.length_singleton,
      startsWord_append] at hnext
    rw [List.zipIdx_cons, List.flatMap_cons, hnext, markBreaks]
    split_ifs <;> rfl

theorem separated_eq_markBreaks (cs : List Char) : separated cs = markBreaks cs := by
  cases cs with
  | nil => rfl
  | cons c rest => exact flatMap_zipIdx_eq [] c rest

/-! ### What the readings find -/

theorem separateWords_cons (inRun : Bool) (c : Char) (rest : List Char) :
    ∃ more, separateWords inRun (c :: rest) = c :: more := by
  cases rest with
  | nil => exact ⟨[], rfl⟩
  | cons d rest =>
    rw [separateWords]
    split_ifs
    · exact ⟨_, rfl⟩
    · exact ⟨_, rfl⟩
    · exact ⟨_, rfl⟩

theorem separateCapitals_underscore (c : Char) (cs : List Char) :
    separateCapitals (c :: '_' :: cs) = c :: '_' :: separateCapitals cs := by
  have hunderscore : separateCapitals ('_' :: cs) = '_' :: separateCapitals cs := by
    cases cs with
    | nil => rfl
    | cons d rest => rw [separateCapitals, if_neg (by simp)]
  rw [separateCapitals, if_neg (by simp), hunderscore]

theorem separateCapitals_cons_separateWords (inRun : Bool) (c d : Char) (rest : List Char) :
    separateCapitals (c :: separateWords inRun (d :: rest)) =
      if (c.isLower || c.isDigit) && d.isUpper then
        c :: '_' :: separateCapitals (separateWords inRun (d :: rest))
      else c :: separateCapitals (separateWords inRun (d :: rest)) := by
  obtain ⟨more, hmore⟩ := separateWords_cons inRun d rest
  rw [hmore, separateCapitals]

/-- The first reading finds no word right behind another, since the word before takes in the letter
that the match would start with. That letter is a lowercase one, so that the second reading finds
it. -/
theorem separateCapitals_separateWords (inRun : Bool) (cs : List Char) :
    separateCapitals (separateWords inRun cs) = markBreaks cs := by
  induction inRun, cs using separateWords.induct with
  | case1 inRun => rfl
  | case2 inRun c => rfl
  | case3 inRun c d rest hrun ih =>
    have hc : c.isLower := (Bool.and_eq_true_iff.mp hrun).2
    rw [separateWords, if_pos hrun, separateCapitals_cons_separateWords, ih, markBreaks, isBreak]
    simp [hc]
  | case4 inRun c d rest hrun hword ih =>
    rw [separateWords, if_neg hrun, if_pos hword, separateCapitals_underscore]
    simp only [Bool.and_eq_true] at hword
    obtain ⟨⟨hc, hd⟩, hnext⟩ := hword
    cases rest with
    | nil => simp at hnext
    | cons e rest =>
      have he : e.isLower := hnext
      have hupper : e.isUpper = false := not_isUpper_of_isLower he
      have hbreak : isBreak c d (e :: rest).head? := by simp [isBreak, hd, hc, he]
      rw [separateCapitals_cons_separateWords, ih, markBreaks, if_pos hbreak, markBreaks, isBreak]
      simp [hupper]
  | case5 inRun c d rest hrun hword ih =>
    rw [separateWords, if_neg hrun, if_neg hword, separateCapitals_cons_separateWords, ih,
      markBreaks, isBreak]
    cases hd : d.isUpper
    · simp
    · have hnext : (rest.head?.any Char.isLower && c != '\n') = false := by
        simpa [hd, Bool.and_comm] using hword
      simp [hnext]

/-- Replacing the two patterns one after the other puts an underscore before each position where a
word starts, and changes nothing else. Snake case is the lower case of that text. -/
theorem snakeCase_eq_lower_separated (s : String) :
    substitute capitalPattern 0 (substitute wordPattern 0 s.toList) = separated s.toList ∧
      separateCapitals (separateWords false s.toList) = separated s.toList ∧
      snakeCase s = .ofList (Text.lower (separated s.toList)) := by
  have hwords : substitute wordPattern 0 s.toList = separateWords false s.toList :=
    (separateWords_eq_substitute false s.toList).symm
  have hmarked : separateCapitals (separateWords false s.toList) = separated s.toList := by
    rw [separateCapitals_separateWords, separated_eq_markBreaks]
  refine ⟨?_, hmarked, ?_⟩
  · rw [hwords, ← separateCapitals_eq_substitute, hmarked]
  · rw [snakeCase, snake, hmarked]

example : separated "getHTTPResponse2Go".toList = "get_HTTP_Response2_Go".toList := by decide

end SchemaClient.Name
