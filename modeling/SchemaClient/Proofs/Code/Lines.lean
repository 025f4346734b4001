import Mathlib
import SchemaClient.Proofs.Code.Scan
import SchemaClient.Proofs.Code.Value
import SchemaClient.Proofs.Grammar.Statement

/-! Lines of text: indentation, statements on lines of their own and blocks below them, up to whole
modules. -/
namespace SchemaClient.Code

open Text (unifyNewlines escapeDocstring endQuotes)

/-! ### Indentation -/

/-- The indentations of nested blocks, innermost first. -/
def levels : Nat → List Indent
  | 0 => []
  | n + 1 => ⟨4 * (n + 1), 4 * (n + 1)⟩ :: levels n

/-- The lexemes that a line at one level makes behind a line at another. -/
def enter (n m : Nat) : List Lexeme :=
  if m < n then [.indent] else List.replicate (m - n) .dedent

theorem length_levels (n : Nat) : (levels n).length = n := by
  induction n with
  | zero => rfl
  | succ n ih => rw [levels, List.length_cons, ih]

theorem leaveIndents_levels {n m : Nat} (h : n ≤ m) :
    leaveIndents ⟨4 * n, 4 * n⟩ (levels m) = some (m - n, levels n) := by
  induction m with
  | zero =>
    obtain rfl : n = 0 := by omega
    rfl
  | succ m ih =>
    rcases Nat.eq_or_lt_of_le h with rfl | hlt
    · simp [levels, leaveIndents]
    · have hle : n ≤ m := by omega
      have hwide : 4 * n < 4 * (m + 1) := by omega
      simp only [levels, leaveIndents, hwide, if_true, ih hle, Option.map_some]
      rw [Nat.succ_sub hle]

theorem changeIndent_levels {n m : Nat} (h : n ≤ m + 1) (hn : n < maxIndents) :
    changeIndent ⟨4 * n, 4 * n⟩ (levels m) = some (enter n m, levels n) := by
  have htop : (levels m).head?.getD ⟨0, 0⟩ = ⟨4 * m, 4 * m⟩ := by cases m <;> rfl
  rw [changeIndent, htop, length_levels]
  by_cases hlt : m < n
  · obtain rfl : n = m + 1 := by omega
    have hwide : 4 * m < 4 * (m + 1) := by omega
    simp [enter, hwide, hn, levels]
  · have hwide : ¬4 * m < 4 * n := by omega
    simp [enter, hlt, hwide, leaveIndents_levels (Nat.not_lt.mp hlt)]

/-- A character that ends the indentation of a line and does not open a comment. -/
def opensLine (c : Char) : Bool :=
  !(c == ' ' || c == '\t' || c.toNat == 12 || c == '\\' || c == '\n' || c == '\r' || c == '#')

variable {c : Char} {cs ds rest : List Char} {ls ms : List Lexeme} {m n k : Nat}

theorem readIndent_gaps (hc : opensLine c) (k a : Nat) (rest : List Char) :
    readIndent 0 ⟨a, a⟩ (List.replicate k ' ' ++ c :: rest) = some (⟨a + k, a + k⟩, c :: rest) := by
  induction k generalizing a with
  | zero =>
    simp only [opensLine, Bool.not_eq_true', Bool.or_eq_false_iff, beq_eq_false_iff_ne] at hc
    simp [readIndent, readIndent.settle, hc]
  | succ k ih =>
    rw [List.replicate_succ, List.cons_append, readIndent]
    · simp [ih]
      omega
    · simp

theorem reaches_indent (hc : opensLine c) (h : n ≤ m + 1) (hn : n < maxIndents) (rest : List Char) :
    Reaches ⟨[], levels m, true⟩ (List.replicate (4 * n) ' ' ++ c :: rest) (enter n m)
      ⟨[], levels n, false⟩ (c :: rest) := by
  have hindent := readIndent_gaps hc (4 * n) 0 rest
  rw [Nat.zero_add] at hindent
  have hchange := changeIndent_levels h hn
  have hstep : startLine ⟨[], levels m, true⟩ (List.replicate (4 * n) ' ' ++ c :: rest) =
      some (enter n m, ⟨[], levels n, false⟩, c :: rest) := by
    simp only [opensLine, Bool.not_eq_true', Bool.or_eq_false_iff, beq_eq_false_iff_ne] at hc
    simp [startLine, hindent, hc, hchange]
  exact reaches_step (by simp) (fun _ _ => hstep) (by simp [cost])

/-! ### Lines -/

/-- Whole lines of text that may follow a line at level `m` and leave the lexer at level `n`. -/
structure Lines (m : Nat) (cs : List Char) (ls : List Lexeme) (n : Nat) : Prop where
  last : cs.getLast? ≠ some '\r'
  nul : Char.ofNat 0 ∉ cs
  run : ∀ rest, Reaches ⟨[], levels m, true⟩ (unifyNewlines cs ++ rest) ls
    ⟨[], levels n, true⟩ rest

theorem Lines.append (h : Lines m cs ls n) (k : Lines n ds ms o) :
    Lines m (cs ++ ds) (ls ++ ms) o where
  last := by
    rw [List.getLast?_append]
    have hlast := h.last
    have klast := k.last
    cases hds : ds.getLast? <;> simp_all
  nul := by simp [h.nul, k.nul]
  run := by
    intro rest
    rw [Text.unifyNewlines_append h.last, List.append_assoc]
    exact (h.run _).trans (k.run rest)

theorem lines_blank (m : Nat) : Lines m ['\n'] [] m :=
  ⟨by decide, by decide, fun rest => reaches_step (by simp [unifyNewlines]) (fun _ _ => rfl)
    (by simp [cost, unifyNewlines])⟩

/-- The start of a line, up to its text. -/
theorem reaches_line (hc : opensLine c) (hlast : (c :: cs).getLast? ≠ some '\r') (h : n ≤ m + 1)
    (hn : n < maxIndents) (rest : List Char) : Reaches ⟨[], levels m, true⟩
      (unifyNewlines (List.replicate (4 * n) ' ' ++ (c :: cs ++ ['\n'])) ++ rest) (enter n m)
      ⟨[], levels n, false⟩ (unifyNewlines (c :: cs) ++ '\n' :: rest) := by
  have hreturn : c ≠ '\r' := by
    rintro rfl
    exact absurd hc (by decide)
  have hgaps : '\r' ∉ List.replicate (4 * n) ' ' := by simp [List.mem_replicate]
  have hgapsLast : (List.replicate (4 * n) ' ').getLast? ≠ some '\r' := fun heq =>
    hgaps (List.mem_of_getLast? heq)
  rw [Text.unifyNewlines_append hgapsLast, Text.unifyNewlines_append hlast,
    Text.unifyNewlines_of_not_mem hgaps, List.append_assoc, List.append_assoc,
    Text.unifyNewlines_of_ne hreturn]
  exact reaches_indent hc h hn _

theorem getLast?_line (n : Nat) (cs : List Char) :
    (List.replicate (4 * n) ' ' ++ (cs ++ ['\n'])).getLast? = some '\n' := by
  rw [← List.append_assoc, List.getLast?_append]
  rfl

/-- One line, if `run` says what its text makes. -/
theorem lines_line (hc : opensLine c) (hlast : (c :: cs).getLast? ≠ some '\r')
    (hnul : Char.ofNat 0 ∉ c :: cs) (h : n ≤ m + 1) (hn : n < maxIndents)
    (run : ∀ rest, Reaches ⟨[], levels n, false⟩ (unifyNewlines (c :: cs) ++ '\n' :: rest) ls
      ⟨[], levels n, false⟩ ('\n' :: rest)) :
    Lines m (List.replicate (4 * n) ' ' ++ (c :: cs ++ ['\n'])) (enter n m ++ (ls ++ [.newline])) n
    where
  last := by
    rw [getLast?_line]
    decide
  nul := by
    have hgap : Char.ofNat 0 ≠ ' ' := by decide
    have hnewline : Char.ofNat 0 ≠ '\n' := by decide
    simp_all [List.mem_replicate]
  run := by
    intro rest
    have hend : Reaches ⟨[], levels n, false⟩ ('\n' :: rest) [.newline] ⟨[], levels n, true⟩ rest :=
      reaches_inLine (by simp) (fun _ _ => rfl) (by simp [cost]; omega)
    exact (reaches_line hc hlast h hn rest).trans ((run rest).trans hend)

/-! ### Statements on lines -/

/-- Lines at level `n` make lexemes of a kind, once the blocks that are still open at their end are
closed. -/
def WritesLines (P : List Lexeme → Prop) (n : Nat) (cs : List Char) : Prop :=
  ∃ ls k, P (ls ++ List.replicate k .dedent) ∧
    ∀ m, n ≤ m + 1 → Lines m cs (enter n m ++ ls) (n + k)

variable {P Q R : List Lexeme → Prop}

theorem WritesLines.mono (h : WritesLines P n cs) (hPQ : ∀ ls, P ls → Q ls) :
    WritesLines Q n cs := by
  obtain ⟨ls, k, hls, hlines⟩ := h
  exact ⟨ls, k, hPQ _ hls, hlines⟩

theorem WritesLines.append (h : WritesLines P n cs) (k : WritesLines Q n ds)
    (hPQ : ∀ ls ms, P ls → Q ms → R (ls ++ ms)) : WritesLines R n (cs ++ ds) := by
  obtain ⟨ls, i, hls, hlines⟩ := h
  obtain ⟨ms, j, hms, klines⟩ := k
  refine ⟨ls ++ List.replicate i .dedent ++ ms, j, ?_, fun m hm => ?_⟩
  · rw [List.append_assoc]
    exact hPQ _ _ hls hms
  · have henter : enter n (n + i) = List.replicate i .dedent := by simp [enter]
    have hboth := (hlines m hm).append (klines (n + i) (by omega))
    rw [henter] at hboth
    simpa using hboth

theorem enter_self (n : Nat) : enter n n = [] := by
  simp [enter]

theorem WritesLines.blank (h : WritesLines P n cs) : WritesLines P n ('\n' :: cs) := by
  obtain ⟨ls, k, hls, hlines⟩ := h
  exact ⟨ls, k, hls, fun m hm => (lines_blank m).append (hlines m hm)⟩

theorem WritesLines.blankAfter (h : WritesLines P n cs) : WritesLines P n (cs ++ ['\n']) := by
  obtain ⟨ls, k, hls, hlines⟩ := h
  refine ⟨ls, k, hls, fun m hm => ?_⟩
  simpa using (hlines m hm).append (lines_blank (n + k))

/-- Text that ends the indentation of its line. -/
def OpensLine (cs : List Char) : Prop :=
  ∃ c more, cs = c :: more ∧ opensLine c

theorem OpensLine.append (h : OpensLine cs) (ds : List Char) : OpensLine (cs ++ ds) := by
  obtain ⟨c, more, rfl, hc⟩ := h
  exact ⟨c, more ++ ds, rfl, hc⟩

theorem StartsName.opensLine (h : StartsName cs) : OpensLine cs := by
  obtain ⟨c, more, rfl, hc⟩ := h
  refine ⟨c, more, rfl, ?_⟩
  have hopens := (opensLexeme_of_mayStartName hc).1
  have hclean := isClean_of_mayContinueName (mayContinueName_of_mayStartName hc)
  simp_all [opensLexeme, opensLine, isClean]

theorem lines_of_scans (h : Scans [] cs ls) (hcs : OpensLine cs) (hnm : n ≤ m + 1)
    (hn : n < maxIndents) :
    Lines m (List.replicate (4 * n) ' ' ++ (cs ++ ['\n'])) (enter n m ++ (ls ++ [.newline])) n := by
  obtain ⟨c, more, rfl, hc⟩ := hcs
  have hreturn : '\r' ∉ c :: more := fun hmem => absurd (h.clean _ hmem) (by decide)
  refine lines_line hc (fun heq => hreturn (List.mem_of_getLast? heq))
    (fun hmem => absurd (h.clean _ hmem) (by decide)) hnm hn fun rest => ?_
  rw [Text.unifyNewlines_of_not_mem hreturn]
  exact h.run (levels n) '\n' rest (by decide)

/-- A statement on a line of its own. -/
theorem Scans.writesLines (h : Scans [] cs ls) (hcs : OpensLine cs) (hP : P (ls ++ [.newline]))
    (hn : n < maxIndents) : WritesLines P n (List.replicate (4 * n) ' ' ++ (cs ++ ['\n'])) :=
  ⟨ls ++ [.newline], 0, by simpa using hP, fun _ hm => lines_of_scans h hcs hm hn⟩

/-- A line with a block below it. -/
theorem WritesLines.under (k : WritesLines IsStatements (n + 1) ds) (h : Scans [] cs ls)
    (hcs : OpensLine cs) (hP : ∀ ms, IsBlock ms → P (ls ++ .newline :: .indent :: ms))
    (hn : n < maxIndents) :
    WritesLines P n (List.replicate (4 * n) ' ' ++ (cs ++ '\n' :: ds)) := by
  obtain ⟨ms, i, hms, klines⟩ := k
  have henter : enter (n + 1) n = [.indent] := by simp [enter]
  have hblock : IsBlock (ms ++ List.replicate (i + 1) .dedent) := by
    rw [List.replicate_succ', ← List.append_assoc]
    exact hms.isBlock
  refine ⟨ls ++ .newline :: .indent :: ms, i + 1, by simpa using hP _ hblock, fun m hm => ?_⟩
  have hboth := (lines_of_scans h hcs hm hn).append (klines n (by omega))
  rw [henter] at hboth
  simpa [Nat.add_assoc, Nat.add_comm 1 i] using hboth

/-- A line with further lines at its level below it. -/
theorem WritesLines.below (k : WritesLines Q n ds) (h : Scans [] cs ls) (hcs : OpensLine cs)
    (hP : ∀ ms, Q ms → P (ls ++ .newline :: ms)) (hn : n < maxIndents) :
    WritesLines P n (List.replicate (4 * n) ' ' ++ (cs ++ '\n' :: ds)) := by
  obtain ⟨ms, i, hms, klines⟩ := k
  refine ⟨ls ++ .newline :: ms, i, by simpa using hP _ hms, fun m hm => ?_⟩
  have hboth := (lines_of_scans h hcs hm hn).append (klines n (by omega))
  rw [enter_self] at hboth
  simpa using hboth

/-! ### Docstrings -/

/-- A docstring between its quotes. -/
def quoted (t : List Char) : List Char :=
  '"' :: '"' :: '"' :: (escapeDocstring t ++ ['"', '"', '"'])

theorem getLast?_quoted (t : List Char) : (quoted t).getLast? = some '"' := by
  have hend : quoted t = ('"' :: '"' :: '"' :: escapeDocstring t ++ ['"', '"']) ++ ['"'] := by
    simp [quoted]
  rw [hend, List.getLast?_append]
  rfl

/-- Newlines in a docstring are unified as they are anywhere else. -/
theorem goes_quoted {t : List Char} (hlast : (escapeDocstring t).getLast? ≠ some '\r') (n : Nat)
    (rest : List Char) : Goes ⟨[], levels n, false⟩ (unifyNewlines (quoted t) ++ '\n' :: rest)
      ((docstringLexemes (unifyNewlines t)).map fun ls =>
        (ls, ⟨[], levels n, false⟩, '\n' :: rest)) := by
  have hquote : '"' ≠ '\r' := by decide
  have hnewline : ∀ c ∈ ('\n' :: rest).head?, c = '\n' := by simp
  have hgoes : Goes ⟨[], levels n, false⟩ _ _ := goes_docstring (unifyNewlines t) hnewline
  rw [quoted, Text.unifyNewlines_of_ne hquote, Text.unifyNewlines_of_ne hquote,
    Text.unifyNewlines_of_ne hquote, Text.unifyNewlines_append hlast,
    Text.unifyNewlines_escapeDocstring]
  simpa [unifyNewlines] using hgoes

/-- A docstring is a statement, unless its text leaves one quote unescaped. -/
theorem writesLines_docstring {t : List Char} (hquotes : endQuotes t % 3 ≠ 1)
    (hnul : Char.ofNat 0 ∉ t) (hlast : (escapeDocstring t).getLast? ≠ some '\r')
    (hn : n < maxIndents) :
    WritesLines IsStatement n (List.replicate (4 * n) ' ' ++ (quoted t ++ ['\n'])) := by
  obtain ⟨i, hi⟩ : ∃ i, docstringLexemes (unifyNewlines t) =
      some (List.replicate (i + 1) (.text false)) := by
    rw [docstringLexemes, Text.endQuotes_unifyNewlines]
    obtain hzero | htwo : endQuotes t % 3 = 0 ∨ endQuotes t % 3 = 2 := by omega
    · exact ⟨0, by rw [hzero]; rfl⟩
    · exact ⟨1, by rw [htwo]; rfl⟩
  refine ⟨List.replicate (i + 1) (.text false) ++ [.newline], 0, ?_, fun m hm => ?_⟩
  · simpa [List.replicate_succ] using (isPrimary_texts i).isStatement (by simp)
  · refine lines_line (by decide) ?_ ?_ hm hn fun rest => ?_
    · have hquoted := getLast?_quoted t
      rw [quoted] at hquoted
      rw [hquoted]
      decide
    · have hquote : Char.ofNat 0 ≠ '"' := by decide
      simp [hquote, Text.mem_escapeDocstring (by decide : Char.ofNat 0 ≠ '\\'), hnul]
    · have hgoes := goes_quoted hlast n rest
      rwa [hi] at hgoes

/-! ### Modules -/

/-- Lines that make a module are one, whatever newlines they have. -/
theorem wellFormed_of_writesLines (names : CharacterNames) {t : String}
    (h : WritesLines IsModule 0 t.toList) : Char.ofNat 0 ∉ t.toList ∧ wellFormed names t := by
  obtain ⟨ls, k, hls, hlines⟩ := h
  have hlines := hlines 0 (by omega)
  refine ⟨hlines.nul, wellFormed_of_isModule ?_ hls⟩
  have hrun : ∃ behind, Reaches .start (unifyNewlines t.toList ++ behind) ls ⟨[], levels k, true⟩ [] ∧
      lexemes? names t.toList =
        lexemesFrom names (2 * (unifyNewlines t.toList ++ behind).length + 2) .start []
          (unifyNewlines t.toList ++ behind) := by
    rw [lexemes?]
    split_ifs
    · have hblank := ((hlines.append (lines_blank _)).run [])
      rw [Text.unifyNewlines_append hlines.last] at hblank
      refine ⟨['\n'], ?_, rfl⟩
      simpa [enter, State.start, levels, unifyNewlines] using hblank
    · refine ⟨[], ?_, rfl⟩
      simpa [enter, State.start, levels] using hlines.run []
  obtain ⟨behind, ⟨i, hi, hreach⟩, heq⟩ := hrun
  have hfuel : 2 * (unifyNewlines t.toList ++ behind).length + 2 =
      (2 * (unifyNewlines t.toList ++ behind).length + 1 - i) + 1 + i := by
    simp only [cost, State.start, Bool.toNat_true] at hi
    omega
  rw [heq, hfuel, hreach, lexemesFrom]
  simp [finish, length_levels]

end SchemaClient.Code
