import Mathlib
import SchemaClient.Module.Declaration
import SchemaClient.Proofs.Code.Run

/-! Values of string literals: what the literals and docstrings of a module denote. A value is a
list of code points, since an escape can stand for half of a surrogate pair. -/
namespace SchemaClient.Code

open Text (quotedChar unitEscape hex escapeDocstring endQuotes closedPart)

/-! ### Escapes -/

/-- What stands behind a backslash: the code points that it denotes, and how many characters it
takes. -/
structure Escape where
  value : List Nat
  length : Nat
deriving DecidableEq, Repr

/-- Escapes of one character. -/
def shortEscapes : List (Char × Nat) :=
  [('\\', 0x5C), ('"', 0x22), (Char.ofNat 0x27, 0x27), ('a', 7), ('b', 8), ('t', 9), ('n', 10),
    ('v', 11), ('f', 12), ('r', 13)]

def isOctalDigit (c : Char) : Bool :=
  c.isDigit && c.toNat < 56

/-- Three octal digits at most. -/
def octalEscape (cs : List Char) : Escape :=
  let digits := (cs.take 3).takeWhile isOctalDigit
  ⟨[digits.foldl (fun n c => 8 * n + (c.toNat - 48)) 0], digits.length⟩

/-- A name in braces, behind its letter. -/
def namedEscape? (names : List Char → Option Nat) : List Char → Option Escape
  | '{' :: rest =>
    let name := rest.takeWhile (· != '}')
    if name.length < rest.length then (names name).map fun n => ⟨[n], name.length + 3⟩ else none
  | _ => none

/-- The escape at the front of a text, which stands behind a backslash. `names` knows the characters
by their names. A backslash that escapes nothing stands for itself. -/
def escape? (names : List Char → Option Nat) : List Char → Option Escape
  | [] => none
  | c :: rest =>
    match shortEscapes.lookup c with
    | some n => some ⟨[n], 1⟩
    | none =>
      if c == '\n' then some ⟨[], 1⟩
      else if isOctalDigit c then some (octalEscape (c :: rest))
      else if c == 'x' then (hexRun 2 rest).map fun n => ⟨[n], 3⟩
      else if c == 'u' then (hexRun 4 rest).map fun n => ⟨[n], 5⟩
      else if c == 'U' then
        ((hexRun 8 rest).filter fun n => n ≤ 0x10FFFF).map fun n => ⟨[n], 9⟩
      else if c == 'N' then namedEscape? names rest
      else some ⟨['\\'.toNat, c.toNat], 1⟩

/-- The value of the content of a literal. The first `taken` characters belong to an escape before
them. -/
def contentValue? (names : List Char → Option Nat) : Nat → List Char → Option (List Nat)
  | _, [] => some []
  | taken + 1, _ :: rest => contentValue? names taken rest
  | 0, c :: rest =>
    if c == '\\' then
      (escape? names rest).bind fun e => (contentValue? names e.length rest).map (e.value ++ ·)
    else (contentValue? names 0 rest).map (c.toNat :: ·)

/-- The value of the string literal at the front of a text, and the text behind it. -/
def literal? (names : List Char → Option Nat) (cs : List Char) : Option (List Nat × List Char) :=
  (readContent cs).bind fun r => (contentValue? names 0 r.1).map fun value => (value, r.2)

/-- The text is one string literal of the given value and nothing else. -/
structure Denotes (names : List Char → Option Nat) (cs : List Char) (value : List Nat) : Prop where
  noNul : Char.ofNat 0 ∉ cs
  alone : lexemes? names cs = some [.text false, .newline]
  value : literal? names (Text.unifyNewlines cs) = some (value, [])

variable (names : List Char → Option Nat)

theorem contentValue?_append (ds cs : List Char) :
    contentValue? names ds.length (ds ++ cs) = contentValue? names 0 cs := by
  induction ds with
  | nil => rfl
  | cons d ds ih =>
    rw [List.length_cons, List.cons_append, contentValue?]
    exact ih

variable {names}

/-- An escape adds its value. -/
theorem contentValue?_escape (ds : List Char) {cs : List Char} {value : List Nat}
    (h : escape? names (ds ++ cs) = some ⟨value, ds.length⟩) :
    contentValue? names 0 ('\\' :: (ds ++ cs)) = (contentValue? names 0 cs).map (value ++ ·) := by
  have hrest := contentValue?_append names ds cs
  rw [contentValue?, h, if_pos (by decide), Option.bind_some, hrest]

theorem contentValue?_short {c : Char} {n : Nat} (h : shortEscapes.lookup c = some n)
    (cs : List Char) :
    contentValue? names 0 ('\\' :: c :: cs) = (contentValue? names 0 cs).map (n :: ·) := by
  have hescape : escape? names ([c] ++ cs) = some ⟨[n], [c].length⟩ := by
    rw [List.singleton_append, escape?, h, List.length_singleton]
  exact contentValue?_escape [c] hescape

theorem contentValue?_unitEscape {n : Nat} (h : n < 0x10000) (cs : List Char) :
    contentValue? names 0 (unitEscape n ++ cs) = (contentValue? names 0 cs).map (n :: ·) := by
  have hshort : shortEscapes.lookup 'u' = none := by decide
  have hoctal : isOctalDigit 'u' = false := by decide
  have hrun : hexRun 4 (hex 4 n ++ cs) = some n := by
    rw [hexRun_hex, Nat.mod_eq_of_lt (by simpa using h)]
  have hescape : escape? names ('u' :: hex 4 n ++ cs) = some ⟨[n], ('u' :: hex 4 n).length⟩ := by
    rw [List.length_cons, length_hex, List.cons_append]
    simp [escape?, hshort, hoctal, hrun]
  exact contentValue?_escape ('u' :: hex 4 n) hescape

theorem contentValue?_cons {c : Char} (hc : c ≠ '\\') (cs : List Char) :
    contentValue? names 0 (c :: cs) = (contentValue? names 0 cs).map (c.toNat :: ·) := by
  rw [contentValue?, if_neg (by simpa using hc)]

/-! ### String literals -/

/-- A character in units of 16 bits; one that needs more is a surrogate pair. -/
def units (c : Char) : List Nat :=
  if c.toNat < 0x10000 then [c.toNat]
  else [0xD800 + (c.toNat - 0x10000) / 0x400, 0xDC00 + (c.toNat - 0x10000) % 0x400]

theorem units_of_lt {c : Char} (h : c.toNat < 0x10000) : units c = [c.toNat] :=
  if_pos h

/-- A written character denotes its units. -/
theorem contentValue?_quotedChar (c : Char) (cs : List Char) :
    contentValue? names 0 (quotedChar c ++ cs) = (contentValue? names 0 cs).map (units c ++ ·) := by
  have hmax : c.toNat < 0x110000 := by
    rcases c.valid with h | h
    · exact h.trans (by decide)
    · exact h.2
  unfold quotedChar
  dsimp only
  split_ifs with hquote hslash hline hreturn htab hback hfeed hplain hunit
  · obtain rfl := eq_of_beq hquote
    exact contentValue?_short (by decide) cs
  · obtain rfl := eq_of_beq hslash
    exact contentValue?_short (by decide) cs
  · obtain rfl := eq_of_beq hline
    exact contentValue?_short (by decide) cs
  · obtain rfl := eq_of_beq hreturn
    exact contentValue?_short (by decide) cs
  · obtain rfl := eq_of_beq htab
    exact contentValue?_short (by decide) cs
  · have hc : c.toNat = 8 := eq_of_beq hback
    rw [units_of_lt (by omega), hc]
    exact contentValue?_short (by decide) cs
  · have hc : c.toNat = 12 := eq_of_beq hfeed
    rw [units_of_lt (by omega), hc]
    exact contentValue?_short (by decide) cs
  · have hlt : c.toNat < 127 := by
      simp only [Bool.and_eq_true, decide_eq_true_eq] at hplain
      exact hplain.2
    rw [units_of_lt (by omega)]
    exact contentValue?_cons (by simpa using hslash) cs
  · rw [units_of_lt hunit]
    exact contentValue?_unitEscape hunit cs
  · have hhigh : 0xD800 + (c.toNat - 0x10000) / 0x400 < 0x10000 := by omega
    have hlow : 0xDC00 + (c.toNat - 0x10000) % 0x400 < 0x10000 := by omega
    rw [List.append_assoc, contentValue?_unitEscape hhigh, contentValue?_unitEscape hlow, units,
      if_neg hunit, Option.map_map]
    rfl

theorem contentValue?_flatMap_quotedChar (cs : List Char) :
    contentValue? names 0 (cs.flatMap quotedChar) = some (cs.flatMap units) := by
  induction cs with
  | nil => rfl
  | cons c cs ih =>
    rw [List.flatMap_cons, contentValue?_quotedChar, ih, Option.map_some, List.flatMap_cons]

/-- The units of a text are its characters unless one of them needs two. -/
theorem flatMap_units_eq_iff {cs : List Char} :
    cs.flatMap units = cs.map Char.toNat ↔ ∀ c ∈ cs, c.toNat < 0x10000 := by
  induction cs with
  | nil => simp
  | cons c cs ih =>
    rw [List.flatMap_cons, List.map_cons, List.forall_mem_cons, ← ih]
    by_cases hc : c.toNat < 0x10000
    · simp [units_of_lt hc, hc]
    · -- A high surrogate is less than any character beyond 16 bits.
      have hne : 0xD800 + (c.toNat - 0x10000) / 0x400 ≠ c.toNat := by omega
      simp [units, hc, hne]

/-- A string literal ends where it was written to end, whatever but a quote follows. -/
theorem literal?_stringLiteral (s : String) {rest : List Char}
    (hrest : ∀ c ∈ rest.head?, c ≠ '"') :
    literal? names ((Text.stringLiteral s).toList ++ rest) =
      some (s.toList.flatMap units, rest) := by
  rw [literal?, Text.stringLiteral, String.toList_ofList, readContent_quote _ hrest,
    Option.bind_some, contentValue?_flatMap_quotedChar, Option.map_some]

theorem not_mem_stringLiteral {c : Char} (hc : isVisible c = false) (s : String) :
    c ∉ (Text.stringLiteral s).toList := by
  intro hmem
  have hvisible := isVisible_of_mem_stringLiteral s c hmem
  simp [hc] at hvisible

theorem unifyNewlines_stringLiteral (s : String) :
    Text.unifyNewlines (Text.stringLiteral s).toList = (Text.stringLiteral s).toList :=
  Text.unifyNewlines_of_not_mem (not_mem_stringLiteral (by decide) s)

theorem toList_stringLiteral (s : String) :
    (Text.stringLiteral s).toList = '"' :: (s.toList.flatMap quotedChar ++ ['"']) :=
  String.toList_ofList

theorem lexemes?_stringLiteral (s : String) :
    lexemes? names (Text.stringLiteral s).toList = some [.text false, .newline] := by
  have hlast : (Text.stringLiteral s).toList.getLast? ≠ some '\n' := by
    rw [toList_stringLiteral, ← List.cons_append, List.getLast?_concat]
    decide
  have htext : Reaches ⟨[], [], false⟩ (Text.stringLiteral s).toList [.text false]
      ⟨[], [], false⟩ [] := by
    have hreach : Reaches ⟨[], [], false⟩ ((Text.stringLiteral s).toList ++ []) [.text false]
        ⟨[], [], false⟩ [] := reaches_text s (by simp)
    rwa [List.append_nil] at hreach
  have hstart : Reaches .start (Text.stringLiteral s).toList [] ⟨[], [], false⟩
      (Text.stringLiteral s).toList := by
    rw [toList_stringLiteral]
    exact reaches_start _
  have hgoes : Goes .start (Text.stringLiteral s).toList
      ((some [.text false]).map fun ls => (ls, ⟨[], [], false⟩, [])) := hstart.goes htext
  rw [lexemes?_of_getLast? names hlast, unifyNewlines_stringLiteral]
  exact lexemesFrom_of_goes names hgoes

theorem denotes_units (s : String) :
    Denotes names (Text.stringLiteral s).toList (s.toList.flatMap units) where
  noNul := not_mem_stringLiteral (by decide) s
  alone := lexemes?_stringLiteral s
  value := by
    have hread : literal? names ((Text.stringLiteral s).toList ++ []) =
        some (s.toList.flatMap units, []) := literal?_stringLiteral s (by simp)
    rw [unifyNewlines_stringLiteral]
    rwa [List.append_nil] at hread

theorem Denotes.unique {cs : List Char} {v w : List Nat} (hv : Denotes names cs v)
    (hw : Denotes names cs w) : v = w := by
  have heq := hv.value.symm.trans hw.value
  simpa using heq

/-- The literal of a text is one line of visible characters, a single literal that ends at its last
character, also where other text than a quote follows. It denotes the text in units of 16 bits,
which is the text itself if and only if no character needs two. -/
theorem denotes_stringLiteral (names : List Char → Option Nat) (s : String) :
    (∀ c ∈ (Text.stringLiteral s).toList, isVisible c) ∧
      Denotes names (Text.stringLiteral s).toList (s.toList.flatMap units) ∧
      (∀ rest : List Char, rest.head? ≠ some '"' →
        literal? names ((Text.stringLiteral s).toList ++ rest) =
          some (s.toList.flatMap units, rest)) ∧
      (Denotes names (Text.stringLiteral s).toList (s.toList.map Char.toNat) ↔
        ∀ c ∈ s.toList, c.toNat < 0x10000) := by
  have hunits : Denotes names (Text.stringLiteral s).toList (s.toList.flatMap units) :=
    denotes_units s
  refine ⟨isVisible_of_mem_stringLiteral s, hunits, ?_, ?_⟩
  · intro rest hrest
    refine literal?_stringLiteral s fun c hc heq => hrest ?_
    rw [← heq]
    exact hc
  · rw [← flatMap_units_eq_iff]
    constructor
    · exact fun h => hunits.unique h
    · exact fun h => h ▸ hunits

/-- A character beyond 16 bits is written as two, which denote no character. -/
theorem not_denotes_surrogates :
    (Text.stringLiteral "😀").toList = "\"\\ud83d\\ude00\"".toList ∧
      ¬ Denotes (fun _ => none) (Text.stringLiteral "😀").toList ("😀".toList.map Char.toNat) := by
  have hvalue : literal? (fun _ => none) (Text.unifyNewlines (Text.stringLiteral "😀").toList) ≠
      some ("😀".toList.map Char.toNat, []) := by
    decide +kernel
  exact ⟨by decide +kernel, fun h => hvalue h.value⟩

/-! ### Docstrings -/

theorem contentValue?_escapeDocstring (t : List Char) :
    contentValue? names 0 (escapeDocstring t) = some (t.map Char.toNat) := by
  have hslash : ∀ cs, contentValue? names 0 ('\\' :: '\\' :: cs) =
      (contentValue? names 0 cs).map ('\\'.toNat :: ·) := contentValue?_short (by decide)
  have hquote : ∀ cs, contentValue? names 0 ('\\' :: '"' :: cs) =
      (contentValue? names 0 cs).map ('"'.toNat :: ·) := contentValue?_short (by decide)
  induction t using Text.escape_cases with
  | nil => rfl
  | slash t ih => rw [Text.escapeDocstring_slash, hslash, ih, Option.map_some, List.map_cons]
  | triple t ih =>
    rw [Text.escapeDocstring_triple, hquote, hquote, hquote, ih]
    rfl
  | other c t hc hpair ih =>
    rw [Text.escapeDocstring_cons hc hpair, contentValue?_cons hc, ih, Option.map_some,
      List.map_cons]

theorem toList_quotedDocstring (s : String) : (Module.quotedDocstring s).toList =
    '"' :: '"' :: '"' :: (escapeDocstring (Text.trim s.toList) ++ ['"', '"', '"']) := by
  rw [Module.quotedDocstring, String.toList_append, String.toList_append, Text.toList_docstring]
  rfl

theorem unifyNewlines_quotedDocstring (s : String) :
    Text.unifyNewlines (Module.quotedDocstring s).toList = '"' :: '"' :: '"' ::
      (escapeDocstring (Text.unifyNewlines (Text.trim s.toList)) ++ ['"', '"', '"']) := by
  have hquote : '"' ≠ '\r' := by decide
  -- A carriage return is blank, so that none stands before the closing quotes.
  have hlast : (escapeDocstring (Text.trim s.toList)).getLast? ≠ some '\r' := by
    rw [← Text.trim_escapeDocstring]
    intro hmem
    exact absurd (Text.isBlank_getLast?_trim _ _ hmem) (by decide)
  rw [toList_quotedDocstring, Text.unifyNewlines_of_ne hquote, Text.unifyNewlines_of_ne hquote,
    Text.unifyNewlines_of_ne hquote, Text.unifyNewlines_append hlast,
    Text.unifyNewlines_escapeDocstring]
  rfl

theorem nul_mem_quotedDocstring (s : String) :
    Char.ofNat 0 ∈ (Module.quotedDocstring s).toList ↔ Char.ofNat 0 ∈ s.toList := by
  have hquote : Char.ofNat 0 ≠ '"' := by decide
  rw [toList_quotedDocstring]
  simp [hquote, Text.mem_escapeDocstring (by decide : Char.ofNat 0 ≠ '\\'),
    Text.mem_trim (by decide : Text.isBlank (Char.ofNat 0) = false)]

/-- A docstring is read up to the quotes that its text leaves unescaped at its end. -/
theorem literal?_quotedDocstring (s : String) :
    literal? names (Text.unifyNewlines (Module.quotedDocstring s).toList) =
      some ((closedPart (Text.unifyNewlines (Text.trim s.toList))).map Char.toNat,
        List.replicate (endQuotes (Text.trim s.toList) % 3) '"') := by
  rw [unifyNewlines_quotedDocstring, literal?, readContent_docstring, Option.bind_some,
    contentValue?_escapeDocstring, Text.endQuotes_unifyNewlines, List.append_nil]
  rfl

theorem lexemes?_quotedDocstring (s : String) :
    lexemes? names (Module.quotedDocstring s).toList =
      (docstringLexemes (Text.trim s.toList)).map (· ++ [.newline]) := by
  have hlast : (Module.quotedDocstring s).toList.getLast? ≠ some '\n' := by
    rw [toList_quotedDocstring, ← List.cons_append, ← List.cons_append, ← List.cons_append,
      List.getLast?_append]
    simp
  have hlexemes : docstringLexemes (Text.unifyNewlines (Text.trim s.toList)) =
      docstringLexemes (Text.trim s.toList) := by
    rw [docstringLexemes, docstringLexemes, Text.endQuotes_unifyNewlines]
  rw [lexemes?_of_getLast? names hlast, unifyNewlines_quotedDocstring, ← hlexemes]
  refine lexemesFrom_of_goes names ((reaches_start _).goes ?_)
  exact goes_docstring _ (by simp)

theorem docstringLexemes_eq_single_iff {t : List Char} :
    docstringLexemes t = some [.text false] ↔ endQuotes t % 3 = 0 := by
  unfold docstringLexemes
  split <;> simp_all

/-- A docstring in its quotes is one literal that denotes its text, white space at the ends aside,
if and only if the text has no NUL character and the number of quotes at its end is a multiple of
three. Of other texts up to two quotes at the end stand behind the literal: one quote opens a
literal that is never closed, and two are an empty literal of their own. -/
theorem denotes_quotedDocstring_iff (names : List Char → Option Nat) (s : String) :
    (Denotes names (Module.quotedDocstring s).toList
        ((Text.unifyNewlines (Text.trim s.toList)).map Char.toNat) ↔
      Char.ofNat 0 ∉ s.toList ∧ endQuotes (Text.trim s.toList) % 3 = 0) ∧
    literal? names (Text.unifyNewlines (Module.quotedDocstring s).toList) =
      some ((closedPart (Text.unifyNewlines (Text.trim s.toList))).map Char.toNat,
        List.replicate (endQuotes (Text.trim s.toList) % 3) '"') ∧
    lexemes? names (Module.quotedDocstring s).toList =
      (docstringLexemes (Text.trim s.toList)).map (· ++ [.newline]) := by
  have hliteral : literal? names _ = _ := literal?_quotedDocstring s
  refine ⟨⟨fun h => ⟨?_, ?_⟩, fun ⟨hnul, hquotes⟩ => ⟨?_, ?_, ?_⟩⟩, hliteral,
    lexemes?_quotedDocstring s⟩
  · rw [← nul_mem_quotedDocstring]
    exact h.noNul
  · have hrest := hliteral.symm.trans h.value
    simp only [Option.some.injEq, Prod.mk.injEq, List.replicate_eq_nil_iff] at hrest
    exact hrest.2
  · rwa [nul_mem_quotedDocstring]
  · rw [lexemes?_quotedDocstring, docstringLexemes_eq_single_iff.mpr hquotes]
    rfl
  · have hclosed : closedPart (Text.unifyNewlines (Text.trim s.toList)) =
        Text.unifyNewlines (Text.trim s.toList) :=
      Text.closedPart_of_mod_eq_zero (by rwa [Text.endQuotes_unifyNewlines])
    rw [hliteral, hclosed, hquotes, List.replicate_zero]

/-- A quote at the end of a text is taken for the first of the closing quotes. -/
theorem not_denotes_finalQuote :
    lexemes? (fun _ => none) (Module.quotedDocstring "say \"hi\"").toList = none ∧
      ¬ Denotes (fun _ => none) (Module.quotedDocstring "say \"hi\"").toList
        ("say \"hi\"".toList.map Char.toNat) := by
  have hlexemes : lexemes? (fun _ => none) (Module.quotedDocstring "say \"hi\"").toList = none := by
    decide +kernel
  refine ⟨hlexemes, fun h => ?_⟩
  have halone := h.alone
  rw [hlexemes] at halone
  cases halone

end SchemaClient.Code
