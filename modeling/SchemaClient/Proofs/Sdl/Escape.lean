import Mathlib
import SchemaClient.Proofs.Sdl.Document

/-! Texts that end inside an escape. Reading runs off the text in no other place: every reader leaves
a suffix of its text, and each step of a scan takes a character at least. -/
namespace SchemaClient.Sdl

/-- The text ends behind a backslash, or before the fourth digit of an escape that it starts. -/
def EndsInEscape (cs : List Char) : Prop :=
  ∃ tail, '\\' :: tail <:+ cs ∧ (tail = [] ∨ ∃ digits, tail = 'u' :: digits ∧ digits.length < 4)

variable {offset : Nat} {cs ds : List Char} {read : List Char × List Char} {reading : Reading}

theorem EndsInEscape.mono (h : EndsInEscape cs) (hsuffix : cs <:+ ds) : EndsInEscape ds := by
  obtain ⟨tail, htail, hend⟩ := h
  exact ⟨tail, htail.trans hsuffix, hend⟩

/-! ### Numbers -/

theorem suffix_of_readDigits (h : readDigits offset cs = .ok read) : read.2 <:+ cs.tail := by
  unfold readDigits at h
  split_ifs at h with hhead
  obtain rfl := Except.ok.inj h
  cases cs with
  | nil => exact List.suffix_refl []
  | cons c rest =>
    have hc : c.isDigit := by simpa using hhead
    rw [List.dropWhile_cons_of_pos hc]
    exact List.dropWhile_suffix _

theorem suffix_of_readWhole (h : readWhole offset cs = .ok read) : read.2 <:+ cs.tail := by
  unfold readWhole at h
  split at h
  · split_ifs at h
    obtain rfl := Except.ok.inj h
    exact List.suffix_refl _
  · exact suffix_of_readDigits h

theorem suffix_of_readFraction (h : readFraction offset cs = .ok read) : read.2 <:+ cs := by
  unfold readFraction at h
  split at h
  · obtain ⟨digits, hdigits, hread⟩ := bind_eq_ok_iff.mp h
    obtain rfl := Except.ok.inj hread
    exact ((suffix_of_readDigits hdigits).trans (List.tail_suffix _)).trans (List.suffix_cons _ _)
  · obtain rfl := Except.ok.inj h
    exact List.suffix_refl _

theorem suffix_of_readExponent (h : readExponent offset cs = .ok read) : read.2 <:+ cs := by
  unfold readExponent at h
  split at h
  · obtain rfl := Except.ok.inj h
    exact List.suffix_refl _
  · split_ifs at h
    · obtain ⟨digits, hdigits, hread⟩ := bind_eq_ok_iff.mp h
      obtain rfl := Except.ok.inj hread
      have hrest := (suffix_of_readDigits hdigits).trans (List.tail_suffix _)
      exact (hrest.trans (List.drop_suffix _ _)).trans (List.suffix_cons _ _)
    · obtain rfl := Except.ok.inj h
      exact List.suffix_refl _

theorem suffix_of_readNumber (h : readNumber offset cs = .ok reading) :
    reading.rest <:+ cs.tail := by
  unfold readNumber at h
  split at h
  rename_i sign unsigned heq
  have hsign : unsigned.tail <:+ cs.tail := by
    split at heq
    · obtain ⟨-, rfl⟩ := Prod.mk.inj heq
      exact List.tail_suffix _
    · obtain ⟨-, rfl⟩ := Prod.mk.inj heq
      exact List.suffix_refl _
  obtain ⟨⟨whole, behindWhole⟩, hwhole, h⟩ := bind_eq_ok_iff.mp h
  obtain ⟨⟨fraction, behindFraction⟩, hfraction, h⟩ := bind_eq_ok_iff.mp h
  obtain ⟨⟨exponent, behind⟩, hexponent, h⟩ := bind_eq_ok_iff.mp h
  have hbehind : behind <:+ cs.tail :=
    (suffix_of_readExponent hexponent).trans <| (suffix_of_readFraction hfraction).trans <|
      (suffix_of_readWhole hwhole).trans hsign
  dsimp only at h
  split_ifs at h
  · cases h
  · cases h
  · obtain rfl := Except.ok.inj h
    exact hbehind
  · obtain rfl := Except.ok.inj h
    exact hbehind

theorem readDigits_ne_offText : readDigits offset cs ≠ .error .offText := by
  unfold readDigits
  split_ifs <;> simp

theorem readWhole_ne_offText : readWhole offset cs ≠ .error .offText := by
  unfold readWhole
  split
  · split_ifs <;> simp
  · exact readDigits_ne_offText

theorem readFraction_ne_offText : readFraction offset cs ≠ .error .offText := by
  unfold readFraction
  split
  · exact bind_ne_error readDigits_ne_offText fun _ h => by cases h
  · simp

theorem readExponent_ne_offText : readExponent offset cs ≠ .error .offText := by
  unfold readExponent
  split
  · simp
  · split_ifs
    · exact bind_ne_error readDigits_ne_offText fun _ h => by cases h
    · simp

theorem readNumber_ne_offText : readNumber offset cs ≠ .error .offText := by
  unfold readNumber
  split
  refine bind_ne_error readWhole_ne_offText fun _ => ?_
  refine bind_ne_error readFraction_ne_offText fun _ => ?_
  refine bind_ne_error readExponent_ne_offText fun _ h => ?_
  dsimp only at h
  split_ifs at h <;> cases h

/-! ### Strings -/

theorem length_of_readUnit (h : readUnit cs = .error .offText) : cs.length < 4 := by
  rcases cs with _ | ⟨a, _ | ⟨b, _ | ⟨c, _ | ⟨d, rest⟩⟩⟩⟩
  case cons.cons.cons.cons => cases h
  all_goals simp

theorem endsInEscape_of_readSecondHalf {high : Nat} (h : readSecondHalf high cs = .error .offText) :
    EndsInEscape cs := by
  unfold readSecondHalf at h
  split at h
  · rename_i digits
    rcases bind_eq_error_iff.mp h with h | ⟨low, -, h⟩
    · exact ⟨_, List.suffix_refl _, .inr ⟨digits, rfl, length_of_readUnit h⟩⟩
    · cases low <;> cases h
  · cases h

/-- The text of the reader starts behind the backslash and the letter. -/
theorem endsInEscape_of_readFixed (h : readFixed cs = .error .offText) :
    EndsInEscape ('\\' :: 'u' :: cs) := by
  rcases bind_eq_error_iff.mp h with h | ⟨code, -, h⟩
  · exact ⟨_, List.suffix_refl _, .inr ⟨cs, rfl, length_of_readUnit h⟩⟩
  · cases code with
    | none => cases h
    | some code =>
      dsimp only at h
      split_ifs at h
      · cases h
      · refine (endsInEscape_of_readSecondHalf h).mono ?_
        exact ((List.drop_suffix 4 cs).trans (List.suffix_cons _ _)).trans (List.suffix_cons _ _)
      · cases h

theorem endsInEscape_of_readEscape (h : readEscape offset ('\\' :: cs) = .error .offText) :
    EndsInEscape ('\\' :: cs) := by
  unfold readEscape at h
  rw [List.drop_one, List.tail_cons] at h
  dsimp only at h
  split at h
  · exact ⟨[], List.suffix_refl _, .inl rfl⟩
  · rename_i rest
    cases hbraced : readBraced 3 0 rest with
    | ok _ =>
      rw [hbraced] at h
      cases h
    | error _ =>
      rw [hbraced] at h
      cases h
  · rcases bind_eq_error_iff.mp h with h | ⟨result, -, h⟩
    · exact endsInEscape_of_readFixed h
    · cases result <;> cases h
  · split at h <;> cases h

theorem lt_of_readBraced {size point : Nat} {result : Char × Nat}
    (h : readBraced size point cs = .ok result) : size < result.2 := by
  induction cs generalizing size point with
  | nil => cases h
  | cons c rest ih =>
    unfold readBraced at h
    split_ifs at h
    · obtain rfl := Except.ok.inj h
      exact Nat.lt_succ_self size
    · split at h
      · cases h
      · exact (Nat.lt_succ_self size).trans (ih h)

theorem pos_of_readSecondHalf {high : Nat} {result : Char × Nat}
    (h : readSecondHalf high cs = .ok (some result)) : 0 < result.2 := by
  unfold readSecondHalf at h
  split at h
  · obtain ⟨low, -, h⟩ := bind_eq_ok_iff.mp h
    cases low with
    | none => cases h
    | some low =>
      replace h := Except.ok.inj h
      split_ifs at h
      obtain rfl := Option.some.inj h
      exact Nat.zero_lt_succ _
  · cases h

theorem pos_of_readFixed {result : Char × Nat} (h : readFixed cs = .ok (some result)) :
    0 < result.2 := by
  obtain ⟨code, -, h⟩ := bind_eq_ok_iff.mp h
  cases code with
  | none => cases h
  | some code =>
    dsimp only at h
    split_ifs at h
    · obtain rfl := Option.some.inj (Except.ok.inj h)
      exact Nat.zero_lt_succ _
    · exact pos_of_readSecondHalf h
    · cases h

theorem pos_of_readEscape {result : Char × Nat} (h : readEscape offset cs = .ok result) :
    0 < result.2 := by
  unfold readEscape at h
  dsimp only at h
  split at h
  · cases h
  · rename_i rest _
    cases hbraced : readBraced 3 0 rest with
    | ok denoted =>
      rw [hbraced] at h
      cases h
      exact (Nat.zero_le 3).trans_lt (lt_of_readBraced hbraced)
    | error _ =>
      rw [hbraced] at h
      cases h
  · obtain ⟨fixed, hfixed, h⟩ := bind_eq_ok_iff.mp h
    cases fixed with
    | none => cases h
    | some fixed =>
      cases h
      exact pos_of_readFixed hfixed
  · split at h
    · cases h
      exact Nat.zero_lt_succ _
    · cases h

/-- The fuel of a string is enough, since each step takes a character at least. -/
theorem endsInEscape_of_readString {fuel offset : Nat} {read cs : List Char}
    (hfuel : cs.length < fuel) (h : readString fuel offset read cs = .error .offText) :
    EndsInEscape cs := by
  induction fuel generalizing offset read cs with
  | zero => exact absurd hfuel (Nat.not_lt_zero _)
  | succ fuel ih =>
    cases cs with
    | nil => cases h
    | cons c rest =>
      have hrest : rest.length < fuel := Nat.lt_of_succ_lt_succ hfuel
      rw [readString] at h
      split_ifs at h with hquote hescape
      · obtain rfl := beq_iff_eq.mp hescape
        rcases bind_eq_error_iff.mp h with h | ⟨⟨denoted, size⟩, hread, h⟩
        · exact endsInEscape_of_readEscape h
        · have hsize : 0 < size := pos_of_readEscape hread
          refine (ih ?_ h).mono (List.drop_suffix _ _)
          rw [List.length_drop, List.length_cons]
          omega
      · cases h
      · exact (ih hrest h).mono (List.suffix_cons _ _)

theorem suffix_of_readString {fuel offset : Nat} {read cs : List Char}
    {result : String × Nat × List Char} (h : readString fuel offset read cs = .ok result) :
    result.2.2 <:+ cs := by
  induction fuel generalizing offset read cs with
  | zero => cases h
  | succ fuel ih =>
    cases cs with
    | nil => cases h
    | cons c rest =>
      rw [readString] at h
      split_ifs at h
      · obtain rfl := Except.ok.inj h
        exact List.suffix_cons _ _
      · obtain ⟨⟨denoted, size⟩, -, h⟩ := bind_eq_ok_iff.mp h
        exact (ih h).trans (List.drop_suffix _ _)
      · exact (ih h).trans (List.suffix_cons _ _)

theorem suffix_of_readBlock {line : List Char} {done : List (List Char)}
    {result : List (List Char) × Nat × List Char}
    (h : readBlock offset line done cs = .ok result) : result.2.2 <:+ cs := by
  fun_induction readBlock offset line done cs with
  | case1 => cases h
  | case2 =>
    obtain rfl := Except.ok.inj h
    exact List.suffix_append ['"', '"', '"'] _
  | case3 _ _ _ _ ih => exact (ih h).trans (List.suffix_append ['\\', '"', '"', '"'] _)
  | case4 _ _ _ _ ih => exact (ih h).trans (List.suffix_append ['\r', '\n'] _)
  | case5 _ _ _ c _ _ _ _ _ ih => exact (ih h).trans (List.suffix_cons c _)
  | case6 _ _ _ c _ _ _ _ _ ih => exact (ih h).trans (List.suffix_cons c _)

theorem readBlock_ne_offText {line : List Char} {done : List (List Char)} :
    readBlock offset line done cs ≠ .error .offText := by
  fun_induction readBlock offset line done cs with
  | case1 => simp
  | case2 => simp
  | case3 _ _ _ _ ih => exact ih
  | case4 _ _ _ _ ih => exact ih
  | case5 _ _ _ _ _ _ _ _ _ ih => exact ih
  | case6 _ _ _ _ _ _ _ _ _ ih => exact ih

/-! ### Tokens -/

theorem suffix_of_readToken (h : readToken offset cs = .ok reading) : reading.rest <:+ cs.tail := by
  unfold readToken at h
  split at h
  · obtain rfl := Except.ok.inj h
    exact List.suffix_refl []
  · obtain ⟨_, hblock, h⟩ := bind_eq_ok_iff.mp h
    obtain rfl := Except.ok.inj h
    exact (suffix_of_readBlock hblock).trans (List.suffix_append ['"', '"'] _)
  · obtain ⟨_, hstring, h⟩ := bind_eq_ok_iff.mp h
    obtain rfl := Except.ok.inj h
    exact suffix_of_readString hstring
  · obtain rfl := Except.ok.inj h
    exact List.suffix_append ['.', '.'] _
  · split at h
    · obtain rfl := Except.ok.inj h
      exact List.suffix_refl _
    · split_ifs at h
      · exact suffix_of_readNumber h
      · obtain rfl := Except.ok.inj h
        exact List.dropWhile_suffix _

theorem endsInEscape_of_readToken (h : readToken offset cs = .error .offText) : EndsInEscape cs := by
  unfold readToken at h
  split at h
  · cases h
  · rcases bind_eq_error_iff.mp h with h | ⟨_, -, h⟩
    · exact absurd h readBlock_ne_offText
    · cases h
  · rcases bind_eq_error_iff.mp h with h | ⟨_, -, h⟩
    · exact (endsInEscape_of_readString (Nat.lt_succ_self _) h).mono (List.suffix_cons _ _)
    · cases h
  · cases h
  · split at h
    · cases h
    · split_ifs at h
      · exact absurd h readNumber_ne_offText
      · cases h
      · cases h

/-! ### Whole texts -/

/-- A scan that finds no lexeme has a fault. -/
theorem fault_ne_none_of_lexemes_eq_nil {fuel : Nat} (h : (scanFrom fuel offset cs).lexemes = []) :
    (scanFrom fuel offset cs).fault ≠ none := by
  induction fuel generalizing offset cs with
  | zero => simp [scanFrom]
  | succ fuel ih =>
    unfold scanFrom at h ⊢
    split at h
    · cases h
    · split_ifs at h ⊢
      · exact ih h
      · exact ih h
      · split at h
        · simp
        · cases h

theorem endsInEscape_of_scanFrom {fuel : Nat} (hfuel : cs.length < fuel)
    (h : (scanFrom fuel offset cs).fault = some .offText) : EndsInEscape cs := by
  induction fuel generalizing offset cs with
  | zero => exact absurd hfuel (Nat.not_lt_zero _)
  | succ fuel ih =>
    unfold scanFrom at h
    split at h
    · cases h
    · rename_i c rest
      -- what is left to scan is behind the first character
      have hstep : ∀ {place : Nat} {left : List Char}, left <:+ rest →
          (scanFrom fuel place left).fault = some .offText → EndsInEscape (c :: rest) := by
        intro place left hleft hfault
        have hlength := hleft.length_le
        rw [List.length_cons] at hfuel
        exact (ih (by omega) hfault).mono (hleft.trans (List.suffix_cons _ _))
      split_ifs at h
      · exact hstep (List.suffix_refl _) h
      · exact hstep (List.drop_suffix _ _) h
      · split at h
        · rename_i fault hfault
          obtain rfl := Option.some.inj h
          exact endsInEscape_of_readToken hfault
        · rename_i reading hreading
          exact hstep (suffix_of_readToken hreading) h

/-- A reader runs off the text only where the text ends inside an escape. -/
theorem endsInEscape_of_readAll {α : Type} {p : Parse α} {P : α → Prop} (hp : Parse.Ensures p P)
    {s : String} (h : readAll p s = .error .offText) : EndsInEscape s.toList := by
  have hscan : (scan s).fault = some .offText → EndsInEscape s.toList :=
    endsInEscape_of_scanFrom (Nat.lt_succ_self _)
  apply hscan
  rcases bind_eq_error_iff.mp h with hstart | ⟨start, hstart, h⟩
  · unfold Scan.start at hstart
    split at hstart
    · rename_i hlexemes
      obtain ⟨fault, hfault⟩ :=
        Option.ne_none_iff_exists'.mp (fault_ne_none_of_lexemes_eq_nil hlexemes)
      rw [show (scan s).fault = some fault from hfault] at hstart ⊢
      exact congrArg some (Except.error.inj hstart)
    · cases hstart
  · have hvalid := valid_of_start (valid_of_scan s) hstart
    have hfault : start.fault = (scan s).fault := by
      unfold Scan.start at hstart
      split at hstart
      · cases hstart
      · exact congrArg Cursor.fault (Except.ok.inj hstart).symm
    rcases bind_eq_error_iff.mp h with h | ⟨_, -, h⟩
    · exact hfault.symm.trans ((ensures_toEnd hp).offText start hvalid h)
    · cases h

theorem endsInEscape_of_readDocument {s : String} (h : readDocument s = .error .offText) :
    EndsInEscape s.toList :=
  endsInEscape_of_readAll ensures_document h

end SchemaClient.Sdl
