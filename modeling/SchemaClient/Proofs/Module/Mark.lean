import SchemaClient.Module.Layout
import SchemaClient.Proofs.Code.Value
import SchemaClient.Proofs.Text.Occurrence

/-! How often class lines and decorators are found in the text of a module: once for every class and
every accessor, and besides wherever a docstring, the name of the client or an option of a field
happens to hold them. -/
namespace SchemaClient

/-- What is counted in module text. -/
inductive Mark where
  /-- The start of a class. -/
  | classLine
  /-- What stands before an accessor. -/
  | decorator
deriving DecidableEq, Repr

namespace Mark

def pattern : Mark → String
  | classLine => "\nclass "
  | decorator => Module.selectorDecorator

def count (mark : Mark) (s : String) : ℕ :=
  Text.occurrences mark.pattern s

/-- How often a class and an accessor make the mark occur. -/
def perClass : Mark → ℕ
  | classLine => 1
  | decorator => 0

def perMethod : Mark → ℕ
  | classLine => 0
  | decorator => 1

/-! ### Counting pieces of text -/

def first : Mark → Char
  | classLine => '\n'
  | decorator => '@'

def rest : Mark → List Char
  | classLine => ['c', 'l', 'a', 's', 's', ' ']
  | decorator => ['r', 'u', 'n', 't', 'i', 'm', 'e', '.', 'g', 'r', 'a', 'p', 'h', 'q', 'l', '_',
      's', 'e', 'l', 'e', 'c', 't', 'o', 'r']

variable (mark : Mark)

theorem toList_pattern : mark.pattern.toList = mark.first :: mark.rest := by
  cases mark <;> exact String.toList_ofList

theorem first_not_mem_rest : mark.first ∉ mark.rest := by
  cases mark <;> decide

theorem count_eq (s : String) :
    mark.count s = Text.countFrom (mark.first :: mark.rest) 0 s.toList := by
  rw [count, Text.occurrences, toList_pattern]

theorem count_eq_zero_iff {s : String} :
    mark.count s = 0 ↔ ¬mark.pattern.toList <:+: s.toList := by
  rw [count_eq, Text.countFrom_eq_zero_iff mark.first_not_mem_rest, toList_pattern]

/-- Texts that no mark starts in. -/
structure IsUnmarked (s : String) : Prop where
  noLine : '\n' ∉ s.toList
  noSign : '@' ∉ s.toList

instance (s : String) : Decidable (IsUnmarked s) :=
  decidable_of_iff ('\n' ∉ s.toList ∧ '@' ∉ s.toList) ⟨fun h => ⟨h.1, h.2⟩, fun h => ⟨h.1, h.2⟩⟩

theorem isUnmarked_append {a b : String} :
    IsUnmarked (a ++ b) ↔ IsUnmarked a ∧ IsUnmarked b := by
  constructor
  · rintro ⟨hline, hsign⟩
    rw [String.toList_append, List.mem_append, not_or] at hline hsign
    exact ⟨⟨hline.1, hsign.1⟩, ⟨hline.2, hsign.2⟩⟩
  · rintro ⟨ha, hb⟩
    refine ⟨?_, ?_⟩ <;> rw [String.toList_append, List.mem_append, not_or]
    · exact ⟨ha.noLine, hb.noLine⟩
    · exact ⟨ha.noSign, hb.noSign⟩

/-- A literal is compared with the list of its characters, which is much faster than to look for
them in it. -/
theorem isUnmarked_literal {s : String} {cs : List Char} (hs : s = .ofList cs)
    (h : '\n' ∉ cs ∧ '@' ∉ cs) : IsUnmarked s := by
  rw [hs]
  exact ⟨by rw [String.toList_ofList]; exact h.1, by rw [String.toList_ofList]; exact h.2⟩

theorem append_eq_ofList {s t : String} {a b : List Char} (hs : s = .ofList a)
    (ht : t = .ofList b) : s ++ t = .ofList (a ++ b) := by
  rw [hs, ht, String.ofList_append]

theorem isUnmarked_join {separator : String} (hseparator : IsUnmarked separator)
    {texts : List String} (h : ∀ s ∈ texts, IsUnmarked s) :
    IsUnmarked (Text.join separator texts) :=
  ⟨Text.not_mem_join hseparator.noLine fun s hs => (h s hs).noLine,
    Text.not_mem_join hseparator.noSign fun s hs => (h s hs).noSign⟩

theorem IsUnmarked.first_not_mem {s : String} (h : IsUnmarked s) : mark.first ∉ s.toList := by
  cases mark with
  | classLine => exact h.noLine
  | decorator => exact h.noSign

theorem IsUnmarked.count_eq_zero {s : String} (h : IsUnmarked s) : mark.count s = 0 := by
  rw [count_eq_zero_iff, toList_pattern]
  exact fun hfound => h.first_not_mem mark (hfound.subset List.mem_cons_self)

theorem IsUnmarked.count_append {a : String} (h : IsUnmarked a) (b : String) :
    mark.count (a ++ b) = mark.count b := by
  rw [count_eq, count_eq, String.toList_append]
  exact Text.countFrom_append_of_not_mem mark.first_not_mem_rest (h.first_not_mem mark) _

/-- Characters that no mark goes on with. -/
def closers : List Char := ['\n', '"', '(', ',', ')']

theorem not_mem_rest_of_mem_closers {c : Char} (h : c ∈ closers) : c ∉ mark.rest := by
  revert c
  cases mark <;> simp [closers, rest]

theorem count_append_of_closer (a : String) {b : String} {c : Char}
    (hb : b.toList.head? = some c) (hc : c ∈ closers) :
    mark.count (a ++ b) = mark.count a + mark.count b := by
  simp only [count_eq, String.toList_append]
  refine Text.countFrom_append mark.first_not_mem_rest fun start more hstart hmore heq _ => ?_
  rintro ⟨behind, hbehind⟩
  obtain ⟨s, start, rfl⟩ := List.exists_cons_of_ne_nil hstart
  obtain ⟨d, more, rfl⟩ := List.exists_cons_of_ne_nil hmore
  obtain ⟨-, hrest⟩ := List.cons.inj heq
  obtain rfl : d = c := by simpa [← hbehind] using hb
  exact mark.not_mem_rest_of_mem_closers hc (hrest ▸ by simp)

theorem count_literal {s : String} {cs : List Char} (hs : s = .ofList cs) :
    mark.count s = Text.countFrom (mark.first :: mark.rest) 0 cs := by
  rw [count_eq, hs, String.toList_ofList]

/-! ### Counting lines -/

/-- How often the mark occurs in a text that starts a line. -/
def lineCount (s : String) : ℕ :=
  mark.count ("\n" ++ s)

theorem lineCount_append_newline (a b : String) :
    mark.lineCount (a ++ ("\n" ++ b)) = mark.lineCount a + mark.lineCount b := by
  rw [lineCount, ← String.append_assoc]
  refine mark.count_append_of_closer _ (c := '\n') ?_ (by simp [closers])
  simp [String.toList_append]

theorem lineCount_literal {s : String} {cs : List Char} (hs : s = .ofList cs) :
    mark.lineCount s = Text.countFrom (mark.first :: mark.rest) 0 ('\n' :: cs) := by
  have hline : "\n".toList = ['\n'] := rfl
  rw [lineCount, count_eq, hs, String.toList_append, hline, String.toList_ofList,
    List.singleton_append]

/-- A line that starts with a literal is counted from the end of the literal on. -/
theorem lineCount_literal_append {s : String} {cs : List Char} (hs : s = .ofList cs)
    (hclosed : Text.IsClosed (mark.first :: mark.rest) ('\n' :: cs)) (b : String) :
    mark.lineCount (s ++ b) = mark.lineCount s + mark.count b := by
  have hline : "\n".toList = ['\n'] := rfl
  rw [mark.lineCount_literal hs, lineCount, count_eq, count_eq, hs, String.toList_append,
    String.toList_append, hline, String.toList_ofList, List.singleton_append, ← List.cons_append]
  exact Text.countFrom_append_of_isClosed mark.first_not_mem_rest hclosed b.toList

theorem lineCount_indent_append (s : String) :
    mark.lineCount (Module.indent ++ s) = mark.count s := by
  rw [mark.lineCount_literal_append (s := Module.indent) rfl (by cases mark <;> decide),
    mark.lineCount_literal (s := Module.indent) rfl]
  cases mark <;> exact Nat.zero_add _

theorem lineCount_empty : mark.lineCount "" = 0 := by
  cases mark <;> rfl

/-- Parts can be counted one by one if what separates them ends lines. -/
theorem lineCount_join {separator : String}
    (h : ∀ a b, mark.lineCount (a ++ separator ++ b) = mark.lineCount a + mark.lineCount b)
    (parts : List String) :
    mark.lineCount (Text.join separator parts) = (parts.map mark.lineCount).sum := by
  induction parts with
  | nil => rw [Text.join, lineCount_empty, List.map_nil, List.sum_nil]
  | cons part more ih =>
    cases more with
    | nil => simp [Text.join]
    | cons next more =>
      have hjoin : Text.join separator (part :: next :: more) =
        part ++ separator ++ Text.join separator (next :: more) := rfl
      rw [hjoin, h, ih]
      simp only [List.map_cons, List.sum_cons]

theorem lineCount_join_newline (parts : List String) :
    mark.lineCount (Text.join "\n" parts) = (parts.map mark.lineCount).sum := by
  refine mark.lineCount_join (fun a b => ?_) parts
  rw [String.append_assoc, lineCount_append_newline]

theorem lineCount_join_blankLine (parts : List String) :
    mark.lineCount (Text.join "\n\n" parts) = (parts.map mark.lineCount).sum := by
  have htwo : ∀ b, "\n\n" ++ b = "\n" ++ ("" ++ ("\n" ++ b)) := by
    intro b
    rw [← String.append_assoc, ← String.append_assoc]
    rfl
  refine mark.lineCount_join (fun a b => ?_) parts
  rw [String.append_assoc, htwo, lineCount_append_newline, lineCount_append_newline,
    lineCount_empty, Nat.zero_add]

/-- Whole lines, which hold the mark `n` times. -/
def Lines (s : String) (n : ℕ) : Prop :=
  ∀ behind, mark.lineCount (s ++ behind) = n + mark.lineCount behind

variable {mark}

theorem lines_concat (s : String) : mark.Lines (s ++ "\n") (mark.lineCount s) := by
  intro behind
  rw [String.append_assoc, lineCount_append_newline]

theorem Lines.append {s t : String} {n k : ℕ} (hs : mark.Lines s n) (ht : mark.Lines t k) :
    mark.Lines (s ++ t) (n + k) := by
  intro behind
  rw [String.append_assoc, hs, ht, Nat.add_assoc]

theorem Lines.congr {s : String} {n k : ℕ} (h : mark.Lines s n) (hn : n = k) : mark.Lines s k :=
  hn ▸ h

/-- The first line of a text may stand anywhere unless it could go on a class line. -/
theorem lineCount_eq_count {s : String} {c : Char} (h : s.toList.head? = some c) (hc : c ≠ 'c') :
    mark.lineCount s = mark.count s := by
  obtain ⟨more, hs⟩ := List.head?_eq_some_iff.mp h
  have hline : "\n".toList = ['\n'] := rfl
  have hstart : ¬mark.first :: mark.rest <+: '\n' :: c :: more := by
    cases mark <;> simp [first, rest, List.cons_prefix_cons, Ne.symm hc]
  rw [lineCount, count_eq, count_eq, String.toList_append, hline, List.singleton_append, hs,
    Text.countFrom_cons mark.first_not_mem_rest, if_neg hstart, Nat.zero_add]

theorem lines_empty : mark.Lines "" 0 := by
  intro behind
  rw [String.empty_append, Nat.zero_add]

theorem Lines.lineCount_eq {s : String} {n : ℕ} (h : mark.Lines s n) : mark.lineCount s = n := by
  have hend := h ""
  rwa [String.append_empty, lineCount_empty, Nat.add_zero] at hend

theorem lines_literal {s : String} {cs : List Char} (hs : s = .ofList cs)
    (hlast : cs.getLast? = some '\n') : mark.Lines s (mark.lineCount s) := by
  obtain ⟨line, rfl⟩ := List.getLast?_eq_some_iff.mp hlast
  rw [String.ofList_append] at hs
  have hlines : mark.Lines s (mark.lineCount (.ofList line)) := hs ▸ lines_concat _
  rwa [hlines.lineCount_eq]

/-- A text of its own between two literals, as docstrings are. -/
theorem lines_between {a e : String} {as es : List Char} (ha : a = .ofList as) (he : e = .ofList es)
    (hclosed : Text.IsClosed (mark.first :: mark.rest) ('\n' :: as))
    (hstart : Text.countFrom (mark.first :: mark.rest) 0 ('\n' :: as) = 0)
    (hhead : es.head? = some '"') (hlast : es.getLast? = some '\n')
    (hend : Text.countFrom (mark.first :: mark.rest) 0 es = 0) (s : String) :
    mark.Lines (a ++ s ++ e) (mark.count s) := by
  obtain ⟨line, rfl⟩ := List.getLast?_eq_some_iff.mp hlast
  obtain ⟨more, rfl⟩ : ∃ more, line = '"' :: more := by
    cases line with
    | nil => simp at hhead
    | cons c more => exact ⟨more, by simpa using hhead⟩
  have hquote : (String.ofList ('"' :: more)).toList.head? = some '"' := by
    rw [String.toList_ofList, List.head?_cons]
  have hline : mark.count (.ofList ('"' :: more)) = 0 := by
    rw [← mark.count_literal rfl, String.ofList_append,
      mark.count_append_of_closer _ (c := '\n') (by rw [String.toList_ofList]; rfl)
        (by simp [closers])] at hend
    exact Nat.eq_zero_of_add_eq_zero_right hend
  rw [he, String.ofList_append, ← String.append_assoc]
  refine (lines_concat _).congr ?_
  rw [String.append_assoc, mark.lineCount_literal_append ha hclosed, mark.lineCount_literal ha,
    hstart, mark.count_append_of_closer _ hquote (by simp [closers]), hline, Nat.zero_add,
    Nat.add_zero]

theorem lines_join {α : Type} {f : α → String} {n : α → ℕ} {as : List α}
    (h : ∀ a ∈ as, mark.Lines (f a) (n a)) :
    mark.Lines (Text.join "" (as.map f)) (as.map n).sum := by
  induction as with
  | nil => exact lines_empty
  | cons a more ih =>
    obtain ⟨ha, hmore⟩ := List.forall_mem_cons.mp h
    cases more with
    | nil => simpa [Text.join] using ha
    | cons b more =>
      have hjoin : Text.join "" ((a :: b :: more).map f) =
          f a ++ Text.join "" ((b :: more).map f) := by
        show f a ++ "" ++ _ = _
        rw [String.append_empty]
      rw [hjoin]
      exact ha.append (ih hmore)

/-! ### String literals -/

section Literal

open Text (quotedChar)
open Code (isPlainChar)

theorem quotedChar_of_isPlainChar {c : Char} (h : isPlainChar c) : quotedChar c = [c] := by
  simp only [isPlainChar, Bool.and_eq_true, decide_eq_true_eq, bne_iff_ne] at h
  obtain ⟨⟨⟨hlow, hhigh⟩, hquote⟩, hslash⟩ := h
  have hcontrol : ∀ d : Char, d.toNat < 32 → (c == d) = false := by
    intro d hd
    rw [beq_eq_false_iff_ne]
    rintro rfl
    omega
  have hnumber : ∀ n < 32, (c.toNat == n) = false := by
    intro n hn
    rw [beq_eq_false_iff_ne]
    omega
  simp only [quotedChar, beq_eq_false_iff_ne.mpr hquote, beq_eq_false_iff_ne.mpr hslash,
    hcontrol '\n' (by decide), hcontrol '\r' (by decide), hcontrol '\t' (by decide),
    hnumber 8 (by decide), hnumber 12 (by decide), hlow, hhigh, decide_true, Bool.and_self,
    Bool.false_eq_true, if_false, if_true]

/-- Any other character is written as an escape, which starts with a backslash and has no sign of
the decorator in it. -/
theorem quotedChar_of_not_isPlainChar {c : Char} (h : isPlainChar c = false) :
    (quotedChar c).head? = some '\\' ∧ '@' ∉ quotedChar c := by
  have hdigit : ∀ n : ℕ, '@' ∉ Text.unitEscape n := by
    intro n hmem
    have hhex : '@' ∈ Text.hex 4 n := by simpa [Text.unitEscape] using hmem
    obtain ⟨d, hd, heq⟩ := Code.mem_hex hhex
    revert d
    decide
  simp only [quotedChar]
  split_ifs with h1 h2 h3 h4 h5 h6 h7 h8 h9
  · simp
  · simp
  · simp
  · simp
  · simp
  · simp
  · simp
  · simp_all [isPlainChar]
  · exact ⟨rfl, hdigit _⟩
  · exact ⟨rfl, by simp [hdigit]⟩

theorem prefix_flatMap_quotedChar {pattern : List Char} (h : ∀ p ∈ pattern, isPlainChar p)
    (cs : List Char) :
    pattern <+: cs.flatMap quotedChar ++ ['"'] ↔ pattern <+: cs := by
  induction pattern generalizing cs with
  | nil => simp
  | cons p ps ih =>
    obtain ⟨hp, hps⟩ := List.forall_mem_cons.mp h
    cases cs with
    | nil =>
      have hquote : p ≠ '"' := by
        rintro rfl
        exact absurd hp (by decide)
      simp [List.cons_prefix_cons, hquote]
    | cons c cs =>
      by_cases hc : isPlainChar c
      · rw [List.flatMap_cons, quotedChar_of_isPlainChar hc]
        simp [List.cons_prefix_cons, ih hps]
      · rw [Bool.not_eq_true] at hc
        obtain ⟨escape, hescape⟩ := List.head?_eq_some_iff.mp (quotedChar_of_not_isPlainChar hc).1
        have hslash : p ≠ '\\' := by
          rintro rfl
          exact absurd hp (by decide)
        have hne : p ≠ c := by
          rintro rfl
          simp [hc] at hp
        rw [List.flatMap_cons, hescape]
        simp [List.cons_prefix_cons, hslash, hne]

/-- The decorator is spelled as it is in a string literal. -/
theorem count_stringLiteral (s : String) :
    decorator.count (Text.stringLiteral s) = decorator.count s := by
  have hplain : ∀ p ∈ decorator.first :: decorator.rest, isPlainChar p :=
    List.all_eq_true.mp (by decide)
  have honce := decorator.first_not_mem_rest
  have hcontent : ∀ cs : List Char,
      Text.countFrom (decorator.first :: decorator.rest) 0 (cs.flatMap quotedChar ++ ['"']) =
        Text.countFrom (decorator.first :: decorator.rest) 0 cs := by
    intro cs
    induction cs with
    | nil => rfl
    | cons c cs ih =>
      have hprefix := prefix_flatMap_quotedChar hplain (c :: cs)
      rw [Text.countFrom_cons honce c cs, ← ih]
      by_cases hc : isPlainChar c
      · rw [List.flatMap_cons, quotedChar_of_isPlainChar hc] at hprefix ⊢
        rw [List.singleton_append, List.cons_append] at hprefix ⊢
        rw [Text.countFrom_cons honce, if_congr hprefix rfl rfl]
      · rw [Bool.not_eq_true] at hc
        have hsign : decorator.first ∉ quotedChar c := (quotedChar_of_not_isPlainChar hc).2
        have hstart : ¬decorator.first :: decorator.rest <+: c :: cs := by
          intro hstart
          obtain ⟨rfl, -⟩ := List.cons_prefix_cons.mp hstart
          exact absurd hc (by decide)
        rw [if_neg hstart, Nat.zero_add, List.flatMap_cons, List.append_assoc]
        exact Text.countFrom_append_of_not_mem honce hsign _
  rw [count_eq, count_eq, Code.toList_stringLiteral, Text.countFrom_cons honce, if_neg, hcontent,
    Nat.zero_add]
  simp [first, List.cons_prefix_cons]

end Literal

end Mark

end SchemaClient
