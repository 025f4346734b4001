import Mathlib
import SchemaClient.Proofs.Code.Quoted

/-! Runs of the lexer: what a stretch of text makes, and where the lexer gets stuck. -/
namespace SchemaClient.Code

/-- Each step of the lexer lowers this. -/
def cost (s : State) (cs : List Char) : Nat :=
  2 * cs.length + s.lineStart.toNat

/-- From `s` before `cs` the lexer makes `ls` and comes to `s'` before `rest`, whatever the names of
characters are. -/
def Reaches (s : State) (cs : List Char) (ls : List Lexeme) (s' : State) (rest : List Char) :
    Prop :=
  ∃ n, n + cost s' rest ≤ cost s cs ∧ ∀ names fuel made,
    lexemesFrom names (fuel + n) s made cs = lexemesFrom names fuel s' (ls.reverse ++ made) rest

/-- From `s` before `cs` the lexer fails, whatever it has made before. -/
def Stuck (s : State) (cs : List Char) : Prop :=
  ∀ names fuel made, cost s cs < fuel → lexemesFrom names fuel s made cs = none

/-- A stretch of text makes lexemes, or the lexer gets stuck in it. -/
def Goes (s : State) (cs : List Char) : Option (List Lexeme × State × List Char) → Prop
  | some (ls, s', rest) => Reaches s cs ls s' rest
  | none => Stuck s cs

variable {s s' s'' : State} {cs rest rest' : List Char} {ls ms : List Lexeme}

theorem Reaches.trans (h : Reaches s cs ls s' rest) (k : Reaches s' rest ms s'' rest') :
    Reaches s cs (ls ++ ms) s'' rest' := by
  obtain ⟨n, hn, h⟩ := h
  obtain ⟨m, hm, k⟩ := k
  refine ⟨m + n, by omega, fun names fuel made => ?_⟩
  rw [← Nat.add_assoc, h, k]
  simp

theorem Reaches.stuck (h : Reaches s cs ls s' rest) (k : Stuck s' rest) : Stuck s cs := by
  obtain ⟨n, hn, h⟩ := h
  intro names fuel made hfuel
  obtain ⟨fuel, rfl⟩ : ∃ f, fuel = f + n := ⟨fuel - n, by omega⟩
  rw [h]
  exact k names fuel _ (by omega)

/-- What a text makes does not depend on steps before it that make nothing. -/
theorem Reaches.goes {made : Option (List Lexeme × State × List Char)}
    (h : Reaches s cs [] s' rest) (k : Goes s' rest made) : Goes s cs made := by
  cases made with
  | none => exact h.stuck k
  | some r => exact h.trans k

/-- One step of the lexer. -/
def step (names : CharacterNames) (readLine : List Char → Option (List Lexeme)) (s : State)
    (cs : List Char) : Option (List Lexeme × State × List Char) :=
  if s.lineStart then startLine s cs else stepInLine names readLine s cs

theorem lexemesFrom_succ (names : CharacterNames) (hcs : cs ≠ []) (fuel : Nat) (s : State)
    (made : List Lexeme) :
    lexemesFrom names (fuel + 1) s made cs =
      match step names (lexemesFrom names fuel .start []) s cs with
      | none => none
      | some (new, s, rest) => lexemesFrom names fuel s (new.reverse ++ made) rest := by
  have hempty : cs.isEmpty = false := by simpa using hcs
  rw [lexemesFrom, hempty]
  rfl

theorem reaches_step (hcs : cs ≠ [])
    (h : ∀ names readLine, step names readLine s cs = some (ls, s', rest))
    (hcost : cost s' rest < cost s cs) : Reaches s cs ls s' rest :=
  ⟨1, by omega, fun names fuel made => by rw [lexemesFrom_succ names hcs, h]⟩

theorem stuck_step (hcs : cs ≠ []) (h : ∀ names readLine, step names readLine s cs = none) :
    Stuck s cs := by
  intro names fuel made hfuel
  obtain ⟨fuel, rfl⟩ : ∃ f, fuel = f + 1 := ⟨fuel - 1, by omega⟩
  rw [lexemesFrom_succ names hcs, h]

variable {closers : List String} {indents : List Indent}

theorem reaches_inLine (hcs : cs ≠ [])
    (h : ∀ names readLine,
      stepInLine names readLine ⟨closers, indents, false⟩ cs = some (ls, s', rest))
    (hcost : cost s' rest < 2 * cs.length) : Reaches ⟨closers, indents, false⟩ cs ls s' rest :=
  reaches_step hcs (fun names readLine => h names readLine) (by simpa [cost] using hcost)

theorem stuck_inLine (hcs : cs ≠ [])
    (h : ∀ names readLine, stepInLine names readLine ⟨closers, indents, false⟩ cs = none) :
    Stuck ⟨closers, indents, false⟩ cs :=
  stuck_step hcs fun names readLine => h names readLine

/-! ### Whole texts -/

/-- A whole text on one line ends with a newline of its own. -/
theorem lexemesFrom_of_goes (names : CharacterNames) {made : Option (List Lexeme)}
    (h : Goes .start cs (made.map fun ls => (ls, ⟨[], [], false⟩, []))) :
    lexemesFrom names (2 * cs.length + 2) .start [] cs = made.map (· ++ [.newline]) := by
  cases made with
  | none => exact h names _ [] (by simp [cost, State.start])
  | some ls =>
    obtain ⟨n, hn, hrun⟩ := h
    have hfuel : 2 * cs.length + 2 = (2 * cs.length + 1 - n) + 1 + n := by
      simp only [cost, State.start, Bool.toNat_true] at hn
      omega
    rw [hfuel, hrun, lexemesFrom]
    simp [finish]

/-- A line that starts with a quote is not indented. -/
theorem reaches_start (rest : List Char) :
    Reaches .start ('"' :: rest) [] ⟨[], [], false⟩ ('"' :: rest) := by
  have hindent : readIndent 0 ⟨0, 0⟩ ('"' :: rest) = some (⟨0, 0⟩, '"' :: rest) := by
    simp [readIndent, readIndent.settle]
  have hstep : startLine .start ('"' :: rest) = some ([], ⟨[], [], false⟩, '"' :: rest) := by
    simp [startLine, hindent, State.start, changeIndent, leaveIndents]
  exact reaches_step (by simp) (fun _ _ => hstep) (by simp [cost, State.start])

theorem lexemes?_of_getLast? (names : CharacterNames) (h : cs.getLast? ≠ some '\n') :
    lexemes? names cs =
      lexemesFrom names (2 * (Text.unifyNewlines cs).length + 2) .start []
        (Text.unifyNewlines cs) := by
  have hsuffix : ['\r', '\n'].isSuffixOf cs = false := by
    rw [Bool.eq_false_iff, Ne, List.isSuffixOf_iff_suffix]
    rintro ⟨front, rfl⟩
    simp at h
  simp [lexemes?, hsuffix]

/-! ### Texts -/

theorem stepInLine_quote (names : CharacterNames) (readLine : List Char → Option (List Lexeme))
    (s : State) (cs : List Char) : stepInLine names readLine s ('"' :: cs) =
      (readText names readLine [] ('"' :: cs)).map fun r => (r.1, s, r.2) :=
  rfl

theorem reaches_text (t : String) (hrest : ∀ c ∈ rest.head?, c ≠ '"') :
    Reaches ⟨closers, indents, false⟩ ((Text.stringLiteral t).toList ++ rest) [.text false]
      ⟨closers, indents, false⟩ rest := by
  rw [Text.stringLiteral, String.toList_ofList]
  refine reaches_inLine (by simp [Text.quote]) (fun names readLine => ?_) ?_
  · have hread := readText_quote names readLine t.toList hrest
    rw [Text.quote, List.append_assoc, List.cons_append] at hread ⊢
    rw [stepInLine_quote, hread, Option.map_some]
  · simp only [cost, Text.quote, List.length_append, List.length_cons, Bool.toNat_false]
    omega

/-- Quotes that the text of a docstring leaves unescaped: two of them are an empty literal, and one
is never closed. -/
def docstringLexemes (t : List Char) : Option (List Lexeme) :=
  match Text.endQuotes t % 3 with
  | 0 => some [.text false]
  | 1 => none
  | _ => some [.text false, .text false]

theorem goes_docstring (t : List Char) (hrest : ∀ c ∈ rest.head?, c = '\n') :
    Goes ⟨closers, indents, false⟩
      ('"' :: '"' :: '"' :: (Text.escapeDocstring t ++ '"' :: '"' :: '"' :: rest))
      ((docstringLexemes t).map fun ls => (ls, ⟨closers, indents, false⟩, rest)) := by
  have hlength : Text.endQuotes t % 3 < 3 := Nat.mod_lt _ (by omega)
  have hreach : Reaches ⟨closers, indents, false⟩
      ('"' :: '"' :: '"' :: (Text.escapeDocstring t ++ '"' :: '"' :: '"' :: rest))
      [.text false] ⟨closers, indents, false⟩
      (List.replicate (Text.endQuotes t % 3) '"' ++ rest) := by
    refine reaches_inLine (by simp) (fun names readLine => ?_) (by simp [cost]; omega)
    rw [stepInLine_quote, readText_docstring, Option.map_some]
  have hquote : ∀ c ∈ rest.head?, c ≠ '"' := by
    rintro c hc rfl
    exact absurd (hrest _ hc) (by decide)
  unfold docstringLexemes
  generalize Text.endQuotes t % 3 = n at *
  match n, hlength with
  | 0, _ => exact hreach
  | 1, _ =>
    refine hreach.stuck (stuck_inLine (by simp) fun names readLine => ?_)
    rw [List.replicate_one, List.singleton_append, stepInLine_quote, readText_open names readLine hrest,
      Option.map_none]
  | 2, _ => exact hreach.trans (reaches_text "" hquote)

end SchemaClient.Code
