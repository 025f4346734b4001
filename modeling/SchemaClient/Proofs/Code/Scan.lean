import Mathlib
import SchemaClient.Proofs.Code.Number
import SchemaClient.Proofs.Code.Run
import SchemaClient.Proofs.Name.Member

/-! Stretches of text within a line: words, numbers, literals, marks and brackets, and what the
lexer makes of them one after another. -/
namespace SchemaClient.Code

variable {s : State} {closers : List String} {indents : List Indent} {cs rest : List Char}
  {ls ms : List Lexeme}

theorem Reaches.refl (s : State) (cs : List Char) : Reaches s cs [] s cs :=
  ⟨0, by omega, fun _ _ _ => rfl⟩

/-! ### Words -/

/-- A character that opens a word, a number or a mark. -/
def opensLexeme (c : Char) : Bool :=
  !(c == ' ' || c == '\t' || c.toNat == 12 || c == '#' || c == '\n' || c == '\\' || isQuote c)

theorem stepInLine_eq {c : Char} (h : opensLexeme c) (names : CharacterNames)
    (readLine : List Char → Option (List Lexeme)) (s : State) (rest : List Char) :
    stepInLine names readLine s (c :: rest) =
      if c.isDigit || (c == '.' && rest.head?.any Char.isDigit) then
        (readNumber (c :: rest)).map fun r => ([r.1], s, r.2)
      else if mayStartName c then (readWord names readLine (c :: rest)).map fun r => (r.1, s, r.2)
      else (readMark (c :: rest)).bind fun r =>
        (bracket s r.1).map fun s => ([.mark r.1], s, r.2) := by
  simp only [opensLexeme, Bool.not_eq_true', Bool.or_eq_false_iff] at h
  simp only [stepInLine, h, Bool.or_false, Bool.false_eq_true, if_false]
  cases readMark (c :: rest) with
  | none => rfl
  | some r => cases hbracket : bracket s r.1 <;> simp [hbracket]

theorem opensLexeme_of_mayStartName {c : Char} (h : mayStartName c) :
    opensLexeme c ∧ c.isDigit = false ∧ c ≠ '.' := by
  by_cases hc : c.toNat < 128
  · revert h
    refine Name.of_ascii (P := fun c => mayStartName c → opensLexeme c ∧ c.isDigit = false ∧ c ≠ '.')
      hc ?_
    decide
  · have hne : ∀ d : Char, d.toNat < 128 → c ≠ d := by
      rintro d hd rfl
      exact hc hd
    have hdigit : c.isDigit = false := by
      by_contra hd
      have hle : c.val ≤ '9'.val := of_decide_eq_true (by simp_all [Char.isDigit])
      have hnat : c.toNat ≤ '9'.toNat := hle
      exact hc (lt_of_le_of_lt hnat (by decide))
    refine ⟨?_, hdigit, hne '.' (by decide)⟩
    simp [opensLexeme, isQuote, hne ' ' (by decide), hne '\t' (by decide), hne '#' (by decide),
      hne '\n' (by decide), hne '\\' (by decide), hne '"' (by decide)]
    omega

theorem mayStartName_of_isIdentifierStart {c : Char} (h : Text.isIdentifierStart c) :
    mayStartName c := by
  unfold Text.isIdentifierStart at h
  split_ifs at h with hc
  · have : c.isAlpha || c == '_' := h
    simp [mayStartName, this]
  · simp [mayStartName, Nat.not_lt.mp hc]

theorem mayContinueName_of_isIdentifierPart {c : Char} (h : Text.isIdentifierPart c) :
    mayContinueName c := by
  unfold Text.isIdentifierPart at h
  split_ifs at h with hc
  · have : c.isAlphanum || c == '_' := h
    simp [mayContinueName, this]
  · simp [mayContinueName, Nat.not_lt.mp hc]

theorem mayContinueName_of_mayStartName {c : Char} (h : mayStartName c) : mayContinueName c := by
  simp only [mayStartName, mayContinueName, Char.isAlphanum] at h ⊢
  grind

/-- Text that starts like a name. -/
def StartsName (cs : List Char) : Prop :=
  ∃ c more, cs = c :: more ∧ mayStartName c

theorem StartsName.append (h : StartsName cs) (ds : List Char) : StartsName (cs ++ ds) := by
  obtain ⟨c, more, rfl, hc⟩ := h
  exact ⟨c, more ++ ds, rfl, hc⟩

variable {w : List Char}

theorem startsName_of_isIdentifier (hw : Text.isIdentifier w) : StartsName w := by
  cases w with
  | nil => exact absurd hw (by decide)
  | cons c w => exact ⟨c, w, rfl, mayStartName_of_isIdentifierStart (Bool.and_eq_true_iff.mp hw).1⟩

theorem mayContinueName_of_mem_identifier (hw : Text.isIdentifier w) :
    ∀ c ∈ w, mayContinueName c := by
  cases w with
  | nil => simp
  | cons c cs =>
    obtain ⟨hc, hcs⟩ := Bool.and_eq_true_iff.mp hw
    refine List.forall_mem_cons.mpr ⟨?_, fun d hd => ?_⟩
    · exact mayContinueName_of_mayStartName (mayStartName_of_isIdentifierStart hc)
    · exact mayContinueName_of_isIdentifierPart (List.all_eq_true.mp hcs d hd)

/-- A character that ends a word and does not open a literal. -/
def endsWord (c : Char) : Bool :=
  !mayContinueName c && !isQuote c

theorem readWord_identifier {x : Char} (hw : Text.isIdentifier w) (hx : endsWord x)
    (rest : List Char) (names : CharacterNames) (readLine : List Char → Option (List Lexeme)) :
    readWord names readLine (w ++ x :: rest) = some ([.word (.ofList w)], x :: rest) := by
  simp only [endsWord, Bool.and_eq_true, Bool.not_eq_true'] at hx
  have hrun : (w ++ x :: rest).takeWhile mayContinueName = w := by
    rw [List.takeWhile_append_of_pos (mayContinueName_of_mem_identifier hw)]
    simp [hx.1]
  simp [readWord, hrun, hx.2, hw]

theorem reaches_word {x : Char} (hw : Text.isIdentifier w) (hx : endsWord x)
    (closers : List String) (indents : List Indent) (rest : List Char) :
    Reaches ⟨closers, indents, false⟩ (w ++ x :: rest) [.word (.ofList w)]
      ⟨closers, indents, false⟩ (x :: rest) := by
  have hread := readWord_identifier hw hx rest
  obtain ⟨c, w, rfl, hstart⟩ := startsName_of_isIdentifier hw
  obtain ⟨hopens, hdigit, hpoint⟩ := opensLexeme_of_mayStartName hstart
  refine reaches_inLine (by simp) (fun names readLine => ?_) (by simp [cost])
  rw [List.cons_append] at hread ⊢
  rw [stepInLine_eq hopens, hread names readLine]
  simp [hdigit, hpoint, hstart]

/-! ### Marks -/

/-- Marks that open no longer mark. -/
def loneMarks : List Char := ['(', ')', '[', ']', '\x7b', '\x7d', ',']

/-- The second characters of marks of two or three characters. -/
def markTails : List Char := ['*', '/', '>', '<', '.', '=']

/-- The shape of the marks of two or three characters. -/
def isLongMark : List Char → Bool
  | a :: b :: _ => !loneMarks.contains a && markTails.contains b
  | _ => false

theorem isLongMark_of_mem {m : String} (h : m ∈ longMarks) : isLongMark m.toList := by
  have hall : longMarks.all fun m => isLongMark m.toList := by decide
  exact List.all_eq_true.mp hall m h

theorem readMark_short {c : Char} (hc : c ∈ shortMarks)
    (h : c ∈ loneMarks ∨ ∀ d ∈ rest.head?, d ∉ markTails) :
    readMark (c :: rest) = some (.ofList [c], rest) := by
  have hlong : longMarks.find? (fun m => Text.startsWith m.toList (c :: rest)) = none := by
    rw [List.find?_eq_none]
    intro m hm hstarts
    have hm := isLongMark_of_mem hm
    unfold isLongMark at hm
    split at hm
    · rename_i a b more heq
      rw [heq] at hstarts
      simp only [Bool.and_eq_true, Bool.not_eq_true', List.contains_eq_mem, decide_eq_true_eq,
        decide_eq_false_iff_not] at hm
      cases rest with
      | nil => simp [Text.startsWith] at hstarts
      | cons d rest =>
        simp only [Text.startsWith, Bool.and_eq_true, beq_iff_eq] at hstarts
        obtain ⟨rfl, rfl, -⟩ := hstarts
        rcases h with h | h
        · exact hm.1 h
        · exact h b rfl hm.2
    · simp at hm
  simp [readMark, hlong, hc]

/-- A character that is a mark and opens neither a number nor a name, save for a point. -/
def isMarkChar (c : Char) : Bool :=
  shortMarks.contains c && opensLexeme c && !c.isDigit && !mayStartName c

theorem stepInLine_mark {c : Char} (hc : isMarkChar c)
    (hpoint : c = '.' → rest.head?.any Char.isDigit = false)
    (h : c ∈ loneMarks ∨ ∀ d ∈ rest.head?, d ∉ markTails)
    (names : CharacterNames) (readLine : List Char → Option (List Lexeme)) (s : State) :
    stepInLine names readLine s (c :: rest) =
      (bracket s (.ofList [c])).map fun s => ([.mark (.ofList [c])], s, rest) := by
  simp only [isMarkChar, Bool.and_eq_true, Bool.not_eq_true', List.contains_eq_mem,
    decide_eq_true_eq] at hc
  obtain ⟨⟨⟨hshort, hopens⟩, hdigit⟩, hname⟩ := hc
  have hnumber : (c.isDigit || (c == '.' && rest.head?.any Char.isDigit)) = false := by
    by_cases hc : c = '.'
    · simp [hdigit, hpoint hc]
    · simp [hdigit, hc]
  rw [stepInLine_eq hopens, hnumber, hname, readMark_short hshort h]
  rfl

/-- Marks that are neither brackets nor points. -/
def plainMarks : List Char := [',', ':', '=', '|', '@', '-']

theorem reaches_mark {c : Char} (hc : c ∈ plainMarks) (h : ∀ d ∈ rest.head?, d ∉ markTails) :
    Reaches ⟨closers, indents, false⟩ (c :: rest) [.mark (.ofList [c])]
      ⟨closers, indents, false⟩ rest := by
  have hall : plainMarks.all fun c => isMarkChar c && c != '.' &&
      (closerOf? (.ofList [c])).isNone && !isCloser (.ofList [c]) := by decide
  have hc := List.all_eq_true.mp hall c hc
  simp only [Bool.and_eq_true, Bool.not_eq_true', bne_iff_ne, Option.isNone_iff_eq_none] at hc
  obtain ⟨⟨⟨hmark, hpoint⟩, hcloser⟩, hclose⟩ := hc
  refine reaches_inLine (by simp) (fun names readLine => ?_) (by simp [cost])
  rw [stepInLine_mark hmark (fun h => absurd h hpoint) (.inr h)]
  simp only [bracket, hcloser, hclose, Bool.false_eq_true, if_false, Option.map_some]

theorem not_mem_markTails_of_mayStartName {c : Char} (hc : mayStartName c) : c ∉ markTails := by
  have hall : markTails.all fun c => !mayStartName c := by decide
  intro hmem
  have := List.all_eq_true.mp hall c hmem
  simp [hc] at this

/-- A point before a name. -/
theorem reaches_point (h : StartsName rest) :
    Reaches ⟨closers, indents, false⟩ ('.' :: rest) [.mark "."] ⟨closers, indents, false⟩ rest := by
  obtain ⟨d, rest, rfl, hd⟩ := h
  obtain ⟨-, hdigit, -⟩ := opensLexeme_of_mayStartName hd
  refine reaches_inLine (by simp) (fun names readLine => ?_) (by simp [cost])
  rw [stepInLine_mark (by decide) (fun _ => by simpa using hdigit)
    (.inr (by simpa using not_mem_markTails_of_mayStartName hd))]
  rfl

/-! ### Brackets -/

/-- Pairs of brackets. -/
inductive Bracket where
  | round | square | curly
deriving DecidableEq, Repr

namespace Bracket

@[simp] def opener : Bracket → Char
  | round => '('
  | square => '['
  | curly => '\x7b'

@[simp] def closer : Bracket → Char
  | round => ')'
  | square => ']'
  | curly => '\x7d'

@[simp] def openMark : Bracket → String
  | round => "("
  | square => "["
  | curly => "\x7b"

@[simp] def closeMark : Bracket → String
  | round => ")"
  | square => "]"
  | curly => "\x7d"

theorem closer_mem_delimiters (b : Bracket) : b.closer ∈ delimiters := by
  cases b <;> decide

end Bracket

variable (b : Bracket)

theorem reaches_opener (h : closers.length < maxBrackets) (rest : List Char) :
    Reaches ⟨closers, indents, false⟩ (b.opener :: rest) [.mark b.openMark]
      ⟨b.closeMark :: closers, indents, false⟩ rest := by
  refine reaches_inLine (by simp) (fun names readLine => ?_) (by simp [cost])
  rw [stepInLine_mark (by cases b <;> decide) (by cases b <;> simp [Bracket.opener])
    (.inl (by cases b <;> decide))]
  have hopen : String.ofList [b.opener] = b.openMark := by cases b <;> rfl
  have hcloser : closerOf? b.openMark = some b.closeMark := by cases b <;> decide
  rw [hopen, bracket, hcloser]
  simp only [h, if_true, Option.map_some]

theorem reaches_closer (rest : List Char) :
    Reaches ⟨b.closeMark :: closers, indents, false⟩ (b.closer :: rest)
      [.mark b.closeMark] ⟨closers, indents, false⟩ rest := by
  refine reaches_inLine (by simp) (fun names readLine => ?_) (by simp [cost])
  rw [stepInLine_mark (by cases b <;> decide) (by cases b <;> simp [Bracket.closer])
    (.inl (by cases b <;> decide))]
  cases b <;> rfl

/-! ### Stretches of text -/

/-- A character that stays as it is and that a module may hold. -/
def isClean (c : Char) : Bool :=
  c != '\r' && c != Char.ofNat 0

/-- Within the brackets that `closers` are to close, the text makes `ls` if a delimiter follows. -/
structure Scans (closers : List String) (cs : List Char) (ls : List Lexeme) : Prop where
  clean : ∀ c ∈ cs, isClean c
  head : ∀ c ∈ cs.head?, c ∉ markTails
  run : ∀ indents x rest, x ∈ delimiters → Reaches ⟨closers, indents, false⟩ (cs ++ x :: rest) ls
    ⟨closers, indents, false⟩ (x :: rest)

theorem not_mem_markTails_of_mem_delimiters {x : Char} (hx : x ∈ delimiters) : x ∉ markTails := by
  simpa using of_mem_delimiters (p := fun x => !markTails.contains x) hx (by decide)

theorem endsWord_of_mem_delimiters {x : Char} (hx : x ∈ delimiters) : endsWord x :=
  of_mem_delimiters hx (by decide)

theorem Scans.head_append {x : Char} (h : Scans closers cs ls) (hx : x ∈ delimiters)
    (rest : List Char) : ∀ c ∈ (cs ++ x :: rest).head?, c ∉ markTails := by
  have hhead := h.head
  cases cs with
  | nil => simpa using not_mem_markTails_of_mem_delimiters hx
  | cons c cs => simpa using hhead

theorem scans_nil : Scans closers [] [] :=
  ⟨by simp, by simp, fun _ _ _ _ => .refl _ _⟩

theorem Scans.append {x : Char} {ds : List Char} (h : Scans closers cs ls) (hx : x ∈ delimiters)
    (k : Scans closers (x :: ds) ms) : Scans closers (cs ++ x :: ds) (ls ++ ms) where
  clean := List.forall_mem_append.mpr ⟨h.clean, k.clean⟩
  head := h.head_append hx ds
  run := by
    intro indents y rest hy
    rw [List.append_assoc]
    exact (h.run indents x (ds ++ y :: rest) hx).trans (k.run indents y rest hy)

/-- Text in front of a stretch that is read in the same way whatever follows it. -/
theorem Scans.after (h : Scans closers cs ls) (c : Char) (front : List Char) (ms : List Lexeme)
    (hclean : (c :: front).all isClean) (hhead : markTails.contains c = false)
    (hrun : ∀ indents rest, Reaches ⟨closers, indents, false⟩ (c :: front ++ rest) ms
      ⟨closers, indents, false⟩ rest) : Scans closers (c :: front ++ cs) (ms ++ ls) where
  clean := List.forall_mem_append.mpr ⟨List.all_eq_true.mp hclean, h.clean⟩
  head := by simpa using hhead
  run := by
    intro indents x rest hx
    rw [List.append_assoc]
    exact (hrun indents _).trans (h.run indents x rest hx)

theorem Scans.gap (h : Scans closers cs ls) : Scans closers (' ' :: cs) ls :=
  h.after ' ' [] [] (by decide) (by decide) fun _ rest =>
    reaches_inLine (by simp) (fun _ _ => rfl) (by simp [cost])

theorem Scans.gaps (n : Nat) (h : Scans closers cs ls) :
    Scans closers (List.replicate n ' ' ++ cs) ls := by
  induction n with
  | zero => exact h
  | succ n ih => exact ih.gap

/-- A newline within brackets is white space. -/
theorem Scans.wrap {closer : String} (h : Scans (closer :: closers) cs ls) :
    Scans (closer :: closers) ('\n' :: cs) ls :=
  h.after '\n' [] [] (by decide) (by decide) fun _ rest =>
    reaches_inLine (by simp) (fun _ _ => rfl) (by simp [cost])

theorem Scans.equals (h : Scans closers cs ls) :
    Scans closers (' ' :: '=' :: ' ' :: cs) (.mark "=" :: ls) :=
  h.after ' ' ['=', ' '] [.mark "="] (by decide) (by decide) fun _ rest =>
    ⟨3, by simp [cost]; omega, fun _ _ _ => rfl⟩

theorem Scans.arrow (h : Scans closers cs ls) :
    Scans closers (' ' :: '-' :: '>' :: ' ' :: cs) (.mark "->" :: ls) :=
  h.after ' ' ['-', '>', ' '] [.mark "->"] (by decide) (by decide) fun _ rest =>
    ⟨3, by simp [cost]; omega, fun _ _ _ => rfl⟩

theorem isClean_of_mayContinueName {c : Char} (h : mayContinueName c) : isClean c := by
  by_cases hc : c.toNat < 128
  · revert h
    exact Name.of_ascii (P := fun c => mayContinueName c → isClean c) hc (by decide)
  · have hne : ∀ d : Char, d.toNat < 128 → c ≠ d := by
      rintro d hd rfl
      exact hc hd
    simp [isClean, hne '\r' (by decide), hne (Char.ofNat 0) (by decide)]

theorem StartsName.head (h : StartsName cs) : ∀ c ∈ cs.head?, c ∉ markTails := by
  obtain ⟨c, more, rfl, hc⟩ := h
  simpa using not_mem_markTails_of_mayStartName hc

theorem isClean_of_mem_identifier (hw : Text.isIdentifier w) : ∀ c ∈ w, isClean c :=
  fun c hc => isClean_of_mayContinueName (mayContinueName_of_mem_identifier hw c hc)

theorem scans_word {w : String} (hw : Text.isIdentifier w.toList) :
    Scans closers w.toList [.word w] where
  clean := isClean_of_mem_identifier hw
  head := (startsName_of_isIdentifier hw).head
  run := by
    intro indents x rest hx
    have h := reaches_word hw (endsWord_of_mem_delimiters hx) closers indents rest
    rwa [String.ofList_toList] at h

theorem Scans.dotted {w : String} (hw : Text.isIdentifier w.toList) (h : Scans closers cs ls)
    (hcs : StartsName cs) : Scans closers (w.toList ++ '.' :: cs) (.word w :: .mark "." :: ls) where
  clean := List.forall_mem_append.mpr
    ⟨isClean_of_mem_identifier hw, List.forall_mem_cons.mpr ⟨by decide, h.clean⟩⟩
  head := ((startsName_of_isIdentifier hw).append _).head
  run := by
    intro indents x rest hx
    have hword := reaches_word hw (by decide : endsWord '.') closers indents (cs ++ x :: rest)
    rw [String.ofList_toList] at hword
    rw [List.append_assoc]
    exact hword.trans ((reaches_point (hcs.append _)).trans (h.run indents x rest hx))

/-- Marks that stand right before or behind a word. -/
def looseMarks : List Char := [',', ':', '|', '@', '-']

theorem Scans.mark {c : Char} (hc : c ∈ looseMarks) (h : Scans closers cs ls) :
    Scans closers (c :: cs) (.mark (.ofList [c]) :: ls) := by
  have hall : looseMarks.all fun c => isClean c && !markTails.contains c && plainMarks.contains c :=
    by decide
  have hmark := List.all_eq_true.mp hall c hc
  simp only [Bool.and_eq_true, Bool.not_eq_true', List.contains_eq_mem, decide_eq_true_eq,
    decide_eq_false_iff_not] at hmark
  refine ⟨List.forall_mem_cons.mpr ⟨hmark.1.1, h.clean⟩, by simpa using hmark.1.2, ?_⟩
  intro indents x rest hx
  exact (reaches_mark hmark.2 (h.head_append hx rest)).trans (h.run indents x rest hx)

/-- A value that is given to a parameter by name. -/
theorem Scans.keyword {w : String} (hw : Text.isIdentifier w.toList) (h : Scans closers cs ls) :
    Scans closers (w.toList ++ '=' :: cs) (.word w :: .mark "=" :: ls) where
  clean := List.forall_mem_append.mpr
    ⟨isClean_of_mem_identifier hw, List.forall_mem_cons.mpr ⟨by decide, h.clean⟩⟩
  head := ((startsName_of_isIdentifier hw).append _).head
  run := by
    intro indents x rest hx
    have hword := reaches_word hw (by decide : endsWord '=') closers indents (cs ++ x :: rest)
    rw [String.ofList_toList] at hword
    rw [List.append_assoc]
    exact hword.trans ((reaches_mark (by decide) (h.head_append hx rest)).trans
      (h.run indents x rest hx))

theorem scans_text (t : String) : Scans closers (Text.stringLiteral t).toList [.text false] where
  clean := by
    intro c hc
    have hvisible := isVisible_of_mem_stringLiteral t c hc
    have hne : ∀ d, isVisible d = false → c ≠ d := by
      rintro d hd rfl
      simp [hd] at hvisible
    simp [isClean, hne '\r' (by decide), hne (Char.ofNat 0) (by decide)]
  head := by
    rw [Text.stringLiteral, String.toList_ofList, Text.quote]
    simp [markTails]
  run := by
    intro indents x rest hx
    refine reaches_text t fun c hc => ?_
    obtain rfl : x = c := by simpa using hc
    rintro rfl
    exact absurd hx (by decide)

theorem isClean_of_isDigit {c : Char} (h : c.isDigit) : isClean c := by
  simp only [isClean, Bool.and_eq_true, bne_iff_ne]
  constructor <;> (rintro rfl; exact absurd h (by decide))

open Sdl (IsWhole IsFraction IsExponent)

/-- A number without a sign. -/
theorem scans_number {digits f e : List Char} (hdigits : IsWhole digits) (hf : IsFraction f)
    (he : IsExponent e)
    (hlength : (f.isEmpty && e.isEmpty) = true → digits.length ≤ maxIntegerDigits) :
    Scans closers (digits ++ (f ++ e)) [.number false] where
  clean := by
    have hall := (isDigits_of_isWhole hdigits).2
    refine List.forall_mem_append.mpr ⟨fun c hc => isClean_of_isDigit (hall c hc),
      List.forall_mem_append.mpr ⟨?_, ?_⟩⟩
    · rcases hf with rfl | ⟨ds, rfl, -, hds⟩
      · simp
      · exact List.forall_mem_cons.mpr ⟨by decide, fun c hc => isClean_of_isDigit (hds c hc)⟩
    · rcases he with rfl | ⟨m, sign, ds, rfl, hm, hsign, -, hds⟩
      · simp
      · refine List.forall_mem_cons.mpr ⟨?_, List.forall_mem_append.mpr
          ⟨?_, fun c hc => isClean_of_isDigit (hds c hc)⟩⟩
        · rcases hm with rfl | rfl <;> decide
        · rcases hsign with rfl | rfl | rfl <;> simp [isClean]
  head := by
    obtain ⟨hne, hall⟩ := isDigits_of_isWhole hdigits
    obtain ⟨d, ds, rfl⟩ := List.exists_cons_of_ne_nil hne
    have hd := hall d (by simp)
    intro c hc
    obtain rfl : d = c := by simpa using hc
    intro hmem
    have hall : markTails.all fun c => !c.isDigit := by decide
    have := List.all_eq_true.mp hall d hmem
    simp [hd] at this
  run := by
    intro indents x rest hx
    have hread := readNumber_of_isWhole hdigits hf he hx hlength rest
    obtain ⟨hne, hall⟩ := isDigits_of_isWhole hdigits
    obtain ⟨d, ds, rfl⟩ := List.exists_cons_of_ne_nil hne
    have hd := hall d (by simp)
    have hopens : opensLexeme d := by
      have hascii : d.toNat < 128 := by
        have hle : d.val ≤ '9'.val := of_decide_eq_true (Bool.and_eq_true_iff.mp hd).2
        have hnat : d.toNat ≤ '9'.toNat := hle
        exact lt_of_le_of_lt hnat (by decide)
      exact Name.of_ascii (P := fun d => d.isDigit → opensLexeme d) hascii (by decide) hd
    refine reaches_inLine (by simp) (fun names readLine => ?_) (by simp [cost]; omega)
    simp only [List.append_assoc, List.cons_append] at hread ⊢
    rw [stepInLine_eq hopens, hd, Bool.true_or, if_pos rfl, hread]
    rfl

theorem Scans.brackets (h : Scans (b.closeMark :: closers) cs ls)
    (hlength : closers.length < maxBrackets) :
    Scans closers (b.opener :: (cs ++ [b.closer])) (.mark b.openMark :: (ls ++ [.mark b.closeMark]))
    where
  clean := by
    refine List.forall_mem_cons.mpr ⟨by cases b <;> decide,
      List.forall_mem_append.mpr ⟨h.clean, ?_⟩⟩
    cases b <;> simp [isClean, Bracket.closer]
  head := by cases b <;> simp [Bracket.opener, markTails]
  run := by
    intro indents x rest hx
    have hinner := h.run indents b.closer (x :: rest) b.closer_mem_delimiters
    rw [List.cons_append, List.append_assoc]
    exact (reaches_opener b hlength _).trans (hinner.trans (reaches_closer b _))

end SchemaClient.Code
