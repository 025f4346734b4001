import Mathlib
import SchemaClient.Code.Lexeme
import SchemaClient.Proofs.Text.Docstring
import SchemaClient.Text.Literal

/-! How string literals and docstrings are read. -/
namespace SchemaClient.Code

open Text (quotedChar quote unitEscape hex hexDigit)

/-! ### Hexadecimal digits -/

theorem hexValue?_hexDigit {n : Nat} (h : n < 16) : Text.hexValue? (hexDigit n) = some n := by
  revert n
  decide

theorem mem_hex {width n : Nat} {c : Char} (h : c ∈ hex width n) : ∃ d < 16, c = hexDigit d := by
  induction width generalizing n with
  | zero => simp [hex] at h
  | succ width ih =>
    rw [hex, List.mem_append, List.mem_singleton] at h
    rcases h with h | rfl
    · exact ih h
    · exact ⟨n % 16, Nat.mod_lt _ (by omega), rfl⟩

theorem length_hex (width n : Nat) : (hex width n).length = width := by
  induction width generalizing n with
  | zero => rfl
  | succ width ih => simp [hex, ih]

theorem hexNumber?_append_singleton (cs : List Char) (c : Char) :
    Text.hexNumber? (cs ++ [c]) =
      (Text.hexNumber? cs).bind fun n => (Text.hexValue? c).map (16 * n + ·) := by
  simp only [Text.hexNumber?, List.foldl_append, List.foldl_cons, List.foldl_nil]
  cases Text.hexValue? c <;> rfl

theorem hexNumber?_hex (width n : Nat) :
    Text.hexNumber? (hex width n) = some (n % 16 ^ width) := by
  induction width generalizing n with
  | zero => simp [hex, Text.hexNumber?, Nat.mod_one]
  | succ width ih =>
    have hdigit : n % 16 < 16 := Nat.mod_lt n (by omega)
    have hmod : n % 16 ^ (width + 1) = n % 16 + 16 * (n / 16 % 16 ^ width) := by
      rw [Nat.pow_succ', Nat.mod_mul]
    rw [hex, hexNumber?_append_singleton, ih, hexValue?_hexDigit hdigit, hmod, Nat.add_comm]
    rfl

theorem hexRun_hex (width n : Nat) (rest : List Char) :
    hexRun width (hex width n ++ rest) = some (n % 16 ^ width) := by
  have htake : (hex width n ++ rest).take width = hex width n :=
    List.take_left' (length_hex width n)
  simp only [hexRun, htake, length_hex, lt_irrefl, if_false, hexNumber?_hex]

/-! ### String literals -/

/-- A character that stands for itself in a string literal. -/
def isPlainChar (c : Char) : Bool :=
  decide (32 ≤ c.toNat) && decide (c.toNat < 127) && c != '"' && c != '\\'

theorem isPlainChar_hexDigit {n : Nat} (h : n < 16) : isPlainChar (hexDigit n) := by
  revert n
  decide

/-- The content of a string literal: characters that stand for themselves, pairs behind a backslash
and escapes with four digits. -/
inductive Escaped : List Char → Prop where
  | nil : Escaped []
  | plain {c : Char} {cs : List Char} : isPlainChar c → Escaped cs → Escaped (c :: cs)
  | pair {c : Char} {cs : List Char} :
    c ∈ ['"', '\\', 'n', 'r', 't', 'b', 'f'] → Escaped cs → Escaped ('\\' :: c :: cs)
  | unit {n : Nat} {cs : List Char} : Escaped cs → Escaped (unitEscape n ++ cs)

theorem escaped_quotedChar (c : Char) {cs : List Char} (h : Escaped cs) :
    Escaped (quotedChar c ++ cs) := by
  simp only [quotedChar]
  split_ifs
  · exact .pair (by simp) h
  · exact .pair (by simp) h
  · exact .pair (by simp) h
  · exact .pair (by simp) h
  · exact .pair (by simp) h
  · exact .pair (by simp) h
  · exact .pair (by simp) h
  · exact .plain (by simp_all [isPlainChar]) h
  · exact .unit h
  · rw [List.append_assoc]
    exact .unit (.unit h)

theorem escaped_flatMap (cs : List Char) : Escaped (cs.flatMap quotedChar) := by
  induction cs with
  | nil => exact .nil
  | cons c cs ih =>
    rw [List.flatMap_cons]
    exact escaped_quotedChar c ih

/-- Every character but a backslash is read on its own. -/
theorem readQuoted_cons {mark c : Char} (hc : c ≠ '\\') (triple : Bool)
    (content rest : List Char) : readQuoted mark triple content (c :: rest) =
      if c == mark then
        if triple then
          match rest with
          | d :: e :: more =>
            if d == mark && e == mark then some (content.reverse, more)
            else readQuoted mark triple (c :: content) rest
          | _ => none
        else some (content.reverse, rest)
      else if c == '\n' && !triple then none
      else readQuoted mark triple (c :: content) rest := by
  rw [readQuoted.eq_def]
  split
  · simp_all
  · simp_all
  · rename_i heq
    obtain ⟨rfl, rfl⟩ := List.cons.inj heq
    rfl

/-- A character that can be seen, or a blank. -/
def isVisible (c : Char) : Bool :=
  decide (32 ≤ c.toNat) && decide (c.toNat < 127)

theorem isVisible_of_isPlainChar {c : Char} (h : isPlainChar c) : isVisible c := by
  simp_all [isPlainChar, isVisible]

theorem isVisible_of_escaped {cs : List Char} (h : Escaped cs) : ∀ c ∈ cs, isVisible c := by
  induction h with
  | nil => simp
  | plain hc _ ih => exact List.forall_mem_cons.mpr ⟨isVisible_of_isPlainChar hc, ih⟩
  | @pair c cs hc _ ih =>
    have hall : ['"', '\\', 'n', 'r', 't', 'b', 'f'].all isVisible := by decide
    refine List.forall_mem_cons.mpr ⟨by decide, List.forall_mem_cons.mpr ⟨?_, ih⟩⟩
    exact List.all_eq_true.mp hall c hc
  | @unit n cs _ ih =>
    have hunit : ∀ c ∈ unitEscape n, isVisible c := by
      refine List.forall_mem_cons.mpr ⟨by decide, List.forall_mem_cons.mpr ⟨by decide, ?_⟩⟩
      intro c hc
      obtain ⟨d, hd, rfl⟩ := mem_hex hc
      exact isVisible_of_isPlainChar (isPlainChar_hexDigit hd)
    exact List.forall_mem_append.mpr ⟨hunit, ih⟩

theorem isVisible_of_mem_stringLiteral (s : String) :
    ∀ c ∈ (Text.stringLiteral s).toList, isVisible c := by
  rw [Text.stringLiteral, String.toList_ofList, quote]
  refine List.forall_mem_append.mpr ⟨List.forall_mem_cons.mpr ⟨by decide, ?_⟩, ?_⟩
  · exact isVisible_of_escaped (escaped_flatMap _)
  · simp [isVisible]

theorem readQuoted_plain {c : Char} (hc : isPlainChar c) (content cs : List Char) :
    readQuoted '"' false content (c :: cs) = readQuoted '"' false (c :: content) cs := by
  have hquote : c ≠ '"' := by simp_all [isPlainChar]
  have hslash : c ≠ '\\' := by simp_all [isPlainChar]
  have hline : c ≠ '\n' := by
    rintro rfl
    exact absurd hc (by decide)
  simp [readQuoted_cons hslash, hquote, hline]

theorem readQuoted_plains {ds : List Char} (hds : ∀ d ∈ ds, isPlainChar d)
    (content cs : List Char) :
    readQuoted '"' false content (ds ++ cs) = readQuoted '"' false (ds.reverse ++ content) cs := by
  induction ds generalizing content with
  | nil => rfl
  | cons d ds ih =>
    rw [List.cons_append, readQuoted_plain (hds d (by simp)), ih fun d hd => hds d (by simp [hd])]
    simp

theorem isPlainChar_of_mem_hex {n : Nat} : ∀ d ∈ hex 4 n, isPlainChar d := by
  intro d hd
  obtain ⟨k, hk, rfl⟩ := mem_hex hd
  exact isPlainChar_hexDigit hk

theorem readQuoted_of_escaped {cs : List Char} (h : Escaped cs) (content rest : List Char) :
    readQuoted '"' false content (cs ++ '"' :: rest) = some (content.reverse ++ cs, rest) := by
  induction h generalizing content with
  | nil => simp [readQuoted_cons (by decide : '"' ≠ '\\')]
  | plain hc _ ih => rw [List.cons_append, readQuoted_plain hc, ih]; simp
  | pair _ _ ih => simp [readQuoted, ih]
  | @unit n cs _ ih =>
    rw [unitEscape, List.append_assoc, List.cons_append, List.cons_append, readQuoted,
      readQuoted_plains isPlainChar_of_mem_hex, ih]
    simp

variable {names : CharacterNames}

theorem escapesHold_plain {c : Char} (hc : isPlainChar c) (cs : List Char) :
    escapesHold names false (c :: cs) = escapesHold names false cs := by
  have hslash : c ≠ '\\' := by simp_all [isPlainChar]
  cases cs <;> simp [escapesHold, hslash]

theorem escapesHold_plains {ds : List Char} (hds : ∀ d ∈ ds, isPlainChar d) (cs : List Char) :
    escapesHold names false (ds ++ cs) = escapesHold names false cs := by
  induction ds with
  | nil => rfl
  | cons d ds ih =>
    rw [List.cons_append, escapesHold_plain (hds d (by simp)), ih fun d hd => hds d (by simp [hd])]

theorem escapesHold_of_escaped {cs : List Char} (h : Escaped cs) : escapesHold names false cs := by
  induction h with
  | nil => rfl
  | plain hc _ ih => rwa [escapesHold_plain hc]
  | @pair c cs hc _ ih =>
    have hu : c ≠ 'x' ∧ c ≠ 'u' ∧ c ≠ 'U' ∧ c ≠ 'N' := by
      refine ⟨?_, ?_, ?_, ?_⟩ <;> (rintro rfl; simp at hc)
    simp [escapesHold, hu, ih]
  | @unit n cs _ ih =>
    rw [unitEscape, List.cons_append, List.cons_append, escapesHold,
      escapesHold_plains isPlainChar_of_mem_hex, ih]
    simp [hexRun_hex]

theorem readText_of_readContent (names : CharacterNames)
    (readLine : List Char → Option (List Lexeme)) {cs content rest : List Char}
    (hescapes : escapesHold names false content)
    (h : readContent cs = some (content, rest)) :
    readText names readLine [] cs = some ([.text false], rest) := by
  simp [readText, h, hescapes, guard]

theorem head?_of_escaped {cs : List Char} (h : Escaped cs) : cs.head? ≠ some '"' := by
  cases h with
  | nil => simp
  | plain hc _ => simp_all [isPlainChar]
  | pair _ _ => simp
  | unit _ => simp [unitEscape]

/-- One quote opens a literal where another character follows it. -/
theorem readContent_of_ne {b : Char} (hb : b ≠ '"') (cs : List Char) :
    readContent ('"' :: b :: cs) = readQuoted '"' false [] (b :: cs) := by
  cases cs with
  | nil => rfl
  | cons c cs => simp [readContent, hb.symm]

/-- Two quotes are a literal unless there is a third. -/
theorem readContent_empty {rest : List Char} (hrest : ∀ c ∈ rest.head?, c ≠ '"') :
    readContent ('"' :: '"' :: rest) = some ([], rest) := by
  have hslash : '"' ≠ '\\' := by decide
  cases rest with
  | nil => simp [readContent, readQuoted_cons hslash]
  | cons c rest =>
    have hc : '"' ≠ c := (hrest c rfl).symm
    simp [readContent, hc, readQuoted_cons hslash]

theorem readContent_quote (cs : List Char) {rest : List Char}
    (hrest : ∀ c ∈ rest.head?, c ≠ '"') :
    readContent (quote cs ++ rest) = some (cs.flatMap quotedChar, rest) := by
  have hescaped := escaped_flatMap cs
  have hread := readQuoted_of_escaped hescaped [] rest
  have hhead := head?_of_escaped hescaped
  rw [quote, List.append_assoc, List.cons_append, List.singleton_append]
  generalize cs.flatMap quotedChar = body at *
  cases body with
  | nil => exact readContent_empty hrest
  | cons b body =>
    have hb : b ≠ '"' := by simpa using hhead
    rw [List.cons_append, readContent_of_ne hb]
    exact hread

theorem readText_quote (names : CharacterNames) (readLine : List Char → Option (List Lexeme))
    (cs : List Char) {rest : List Char} (hrest : ∀ c ∈ rest.head?, c ≠ '"') :
    readText names readLine [] (quote cs ++ rest) = some ([.text false], rest) :=
  readText_of_readContent names readLine (escapesHold_of_escaped (escaped_flatMap cs))
    (readContent_quote cs hrest)

/-! ### Docstrings -/

open Text (escapeDocstring endQuotes closedPart)

theorem escapesHold_escapeDocstring (t : List Char) : escapesHold names false (escapeDocstring t) := by
  induction t using Text.escape_cases with
  | nil => rfl
  | slash t ih =>
    rw [Text.escapeDocstring_slash]
    simpa [escapesHold] using ih
  | triple t ih =>
    rw [Text.escapeDocstring_triple]
    simpa [escapesHold] using ih
  | other c t hc hquote ih =>
    rw [Text.escapeDocstring_cons hc hquote]
    cases hescaped : escapeDocstring t <;> simp_all [escapesHold]

/-- A docstring ends at the first run of three quotes; as many quotes as its text leaves unescaped
stand behind it. -/
theorem readQuoted_escapeDocstring (t content rest : List Char) :
    readQuoted '"' true content (escapeDocstring t ++ '"' :: '"' :: '"' :: rest) =
      some (content.reverse ++ escapeDocstring (closedPart t),
        List.replicate (endQuotes t % 3) '"' ++ rest) := by
  have hslash : '"' ≠ '\\' := by decide
  induction t using Text.escape_cases generalizing content with
  | nil => simp [escapeDocstring, readQuoted_cons hslash, endQuotes, closedPart]
  | slash t ih =>
    have hend : endQuotes ('\\' :: t) = endQuotes t := Text.endQuotes_of_ne (by decide) t
    rw [Text.escapeDocstring_slash, List.cons_append, List.cons_append, readQuoted, ih, hend,
      Text.closedPart_cons (by rw [hend]), Text.escapeDocstring_slash]
    simp
  | triple t ih =>
    rw [Text.escapeDocstring_triple, Text.endQuotes_triple, Text.closedPart_triple,
      Text.escapeDocstring_triple]
    simp only [List.cons_append, readQuoted, ih]
    simp
  | other c t hc hquote ih =>
    rw [Text.escapeDocstring_cons hc hquote, List.cons_append, readQuoted_cons hc]
    by_cases hc' : c = '"'
    · subst hc'
      by_cases hnil : t = []
      · subst hnil
        simp [escapeDocstring, endQuotes, closedPart]
      by_cases hone : t = ['"']
      · subst hone
        simp [escapeDocstring, endQuotes, closedPart]
      -- The quote is followed by a character that stops a run of three before the end.
      have hpair := Text.startsPair_escapeDocstring (hquote rfl) hnil hone
        ('"' :: '"' :: '"' :: rest)
      have hend : endQuotes ('"' :: t) = endQuotes t := Text.endQuotes_quote (hquote rfl) hnil hone
      rw [hend, Text.closedPart_cons (by rw [hend]),
        Text.escapeDocstring_cons hslash fun _ => Text.startsPair_closedPart (hquote rfl)]
      generalize htail : escapeDocstring t ++ '"' :: '"' :: '"' :: rest = tail at *
      have hlength : 3 ≤ tail.length := by
        rw [← htail, List.length_append]
        exact le_add_left (by simp)
      rcases tail with _ | ⟨d, _ | ⟨e, tail⟩⟩
      · simp at hlength
      · simp at hlength
      · have hde : (d == '"' && e == '"') = false := by simpa [Text.startsPair] using hpair
        simp [hde, ih]
    · have hend : endQuotes (c :: t) = endQuotes t := Text.endQuotes_of_ne hc' t
      rw [hend, Text.closedPart_cons (by rw [hend]),
        Text.escapeDocstring_cons hc fun h => absurd h hc']
      simp [hc', ih]

theorem readContent_docstring (t rest : List Char) :
    readContent ('"' :: '"' :: '"' :: (escapeDocstring t ++ '"' :: '"' :: '"' :: rest)) =
      some (escapeDocstring (closedPart t), List.replicate (endQuotes t % 3) '"' ++ rest) :=
  readQuoted_escapeDocstring t [] rest

theorem readText_docstring (names : CharacterNames) (readLine : List Char → Option (List Lexeme))
    (t rest : List Char) : readText names readLine []
        ('"' :: '"' :: '"' :: (escapeDocstring t ++ '"' :: '"' :: '"' :: rest)) =
      some ([.text false], List.replicate (endQuotes t % 3) '"' ++ rest) :=
  readText_of_readContent names readLine (escapesHold_escapeDocstring _) (readContent_docstring t rest)

/-- A single quote before the end of a line opens a literal that is not closed. -/
theorem readText_open (names : CharacterNames) (readLine : List Char → Option (List Lexeme))
    {rest : List Char} (hrest : ∀ c ∈ rest.head?, c = '\n') :
    readText names readLine [] ('"' :: rest) = none := by
  have hread : readContent ('"' :: rest) = none := by
    cases rest with
    | nil => rfl
    | cons c rest =>
      obtain rfl : c = '\n' := hrest c rfl
      rw [readContent_of_ne (by decide), readQuoted_cons (by decide)]
      rfl
  simp [readText, hread]

end SchemaClient.Code
