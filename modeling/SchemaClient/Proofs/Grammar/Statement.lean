import SchemaClient.Proofs.Grammar.Expression

/-! Statements that the grammar reads. -/
namespace SchemaClient.Code

open Reader

variable {l : Lexeme} {ls ms rest : List Lexeme} {s : Shape} {w : String}

/-! ### Simple statements -/

theorem run_expressionList (h : Reads .expression (ls ++ rest) s rest)
    (hstarts : Starts opensExpression ls) (hcomma : rest.head? ≠ some (.mark ","))
    (depth : Nat) (hdepth : 16 * (ls ++ rest).length + 8 < depth) :
    (expressionList (rulesWithin depth)).run (ls ++ rest) = some (s, rest) := by
  have hrun := h.run depth hdepth
  have hstar := hstarts.head?_ne (l := .mark "*") (by decide) rest
  simp [expressionList, elements, starredOr, optionalMark, run_optional_of_ne hstar, hrun,
    run_optional_of_ne hcomma]

theorem run_assigned (h : Reads .expression (ls ++ rest) s rest)
    (hstarts : Starts opensExpression ls) (hcomma : rest.head? ≠ some (.mark ","))
    (depth : Nat) (hdepth : 16 * (ls ++ rest).length + 8 < depth) :
    (assigned (rulesWithin depth)).run (ls ++ rest) = some (s, rest) := by
  have hyield := hstarts.head?_ne (l := .word "yield") (by decide) rest
  have hrun := run_expressionList h hstarts hcomma depth hdepth
  generalize ls ++ rest = all at *
  simp [assigned, isWord, hyield, hrun]

/-- A statement that starts like an expression is an assignment at most. -/
theorem run_simple (rules : Rules) (hl : opensExpression l) (ls : List Lexeme) :
    (simple rules).run (l :: ls) = (assignment rules).run (l :: ls) := by
  simp only [simple, StateT.run_bind, run_next?, Option.bind_eq_bind, Option.bind_some,
    List.head?_cons]
  have hne : ∀ w, opensExpression (.word w) = false → some l ≠ some (.word w) := by
    rintro w hw heq
    obtain rfl := Option.some.inj heq
    simp [hl] at hw
  split
  · exact absurd ‹_› (hne "pass" (by decide))
  · exact absurd ‹_› (hne "break" (by decide))
  · exact absurd ‹_› (hne "continue" (by decide))
  · exact absurd ‹_› (hne "return" (by decide))
  · exact absurd ‹_› (hne "raise" (by decide))
  · exact absurd ‹_› (hne "global" (by decide))
  · exact absurd ‹_› (hne "nonlocal" (by decide))
  · exact absurd ‹_› (hne "del" (by decide))
  · exact absurd ‹_› (hne "assert" (by decide))
  · exact absurd ‹_› (hne "import" (by decide))
  · exact absurd ‹_› (hne "from" (by decide))
  · rfl

/-- A lexeme that a compound statement starts with. -/
def opensCompound (l : Lexeme) : Bool :=
  [.mark "@", .word "if", .word "while", .word "for", .word "try", .word "with", .word "def",
    .word "class", .word "async", .word "match"].contains l

/-- A branch on a lexeme that does not come next is not taken. -/
theorem run_ite_optional {α : Type} {l' : Lexeme} (h : l ≠ l') (x y : Reader α) :
    (do if ← optional l' then x else y : Reader α).run (l :: ls) = y.run (l :: ls) := by
  have hhead : (l :: ls).head? ≠ some l' := fun heq => h (Option.some.inj heq)
  rw [StateT.run_bind, run_optional_of_ne hhead]
  rfl

theorem run_ite_optional_self {α : Type} (l : Lexeme) (x y : Reader α) (rest : List Lexeme) :
    (do if ← optional l then x else y : Reader α).run (l :: rest) = x.run rest := by
  rw [StateT.run_bind, run_optional]
  rfl

theorem reads_statement_of_simples (hl : opensCompound l = false)
    (h : Reads .simples (l :: ls) .other rest) : Reads .statement (l :: ls) .other rest := by
  have hne : ∀ l', opensCompound l' = true → l ≠ l' := by
    rintro l' hl' rfl
    simp [hl] at hl'
  refine reads_of h.length_le fun depth hdepth => ?_
  have hrun := h.run depth (by simp [Rule.height] at hdepth ⊢; omega)
  have hmatch : (isWord "match").run (l :: ls) = some (false, l :: ls) := by
    rw [isWord, run_isNext, decide_eq_false]
    exact fun heq => hne (.word "match") (by decide) (Option.some.inj heq)
  rw [readRule, statement, optionalMark, optionalWord, optionalWord, optionalWord, optionalWord,
    optionalWord, optionalWord, optionalWord, optionalWord]
  rw [run_ite_optional (hne (.mark "@") (by decide)),
    run_ite_optional (hne (.word "if") (by decide)),
    run_ite_optional (hne (.word "while") (by decide)),
    run_ite_optional (hne (.word "for") (by decide)),
    run_ite_optional (hne (.word "try") (by decide)),
    run_ite_optional (hne (.word "with") (by decide)),
    run_ite_optional (hne (.word "def") (by decide)),
    run_ite_optional (hne (.word "class") (by decide)),
    run_ite_optional (hne (.word "async") (by decide)), StateT.run_bind, hmatch]
  exact hrun

/-- The lexemes are a statement. -/
structure IsStatement (ls : List Lexeme) : Prop where
  starts : ∃ l more, ls = l :: more ∧ l ≠ .dedent
  reads : ∀ rest, Reads .statement (ls ++ rest) .other rest

theorem isStatement_of_simple (ls : List Lexeme) (hl : opensCompound l = false)
    (hdedent : l ≠ .dedent)
    (h : ∀ rest depth, 16 * (l :: (ls ++ .newline :: rest)).length + 10 ≤ depth → ∃ s : Shape,
      (simple (rulesWithin depth)).run (l :: (ls ++ .newline :: rest)) =
        some (s, .newline :: rest)) :
    IsStatement (l :: (ls ++ [.newline])) := by
  refine ⟨⟨l, ls ++ [.newline], rfl, hdedent⟩, fun rest => ?_⟩
  rw [List.cons_append, List.append_assoc, List.singleton_append]
  refine reads_statement_of_simples hl (reads_of (by simp; omega) fun depth hdepth => ?_)
  obtain ⟨s, hrun⟩ := h rest depth (by simpa [Rule.height] using hdepth)
  have hne : (Lexeme.newline :: rest).head? ≠ some (.mark ";") := by simp
  simp [readRule, simples, hrun, optionalMark, run_optional_of_ne hne]

theorem ends_newline (rest : List Lexeme) : Ends endsExpression (.newline :: rest) :=
  ends_cons (by decide) rest

theorem not_opensCompound (hl : opensAtom l) (hmatch : l ≠ .word "match") :
    opensCompound l = false := by
  refine Bool.eq_false_iff.mpr fun hc => ?_
  simp only [opensCompound, List.contains_eq_mem, List.mem_cons, List.not_mem_nil, or_false,
    decide_eq_true_eq] at hc
  rcases hc with rfl | rfl | rfl | rfl | rfl | rfl | rfl | rfl | rfl | rfl
  · exact absurd hl (by decide)
  · exact absurd hl (by decide)
  · exact absurd hl (by decide)
  · exact absurd hl (by decide)
  · exact absurd hl (by decide)
  · exact absurd hl (by decide)
  · exact absurd hl (by decide)
  · exact absurd hl (by decide)
  · exact absurd hl (by decide)
  · exact hmatch rfl

theorem reads_moreAssigned_nil (s : Shape) (rest : List Lexeme) :
    Reads (.moreAssigned s) (.newline :: rest) s (.newline :: rest) := by
  refine reads_of (Nat.le_refl _) fun depth hdepth => ?_
  have hne : (Lexeme.newline :: rest).head? ≠ some (.mark "=") := by simp
  simp [readRule, moreAssigned, optionalMark, run_optional_of_ne hne]

/-- An expression as a statement. -/
theorem IsPrimary.isStatement (h : IsPrimary (l :: ls) s) (hmatch : l ≠ .word "match") :
    IsStatement (l :: (ls ++ [.newline])) := by
  have hstarts := h.starts.mono opensExpression_of_opensAtom
  have hl : opensAtom l := by
    obtain ⟨first, more, heq, hfirst, -⟩ := h.starts
    obtain ⟨rfl, rfl⟩ := List.cons.inj heq
    exact hfirst
  refine isStatement_of_simple _ (not_opensCompound hl hmatch)
    (by rintro rfl; simp [opensAtom] at hl)
    fun rest depth hdepth => ⟨s, ?_⟩
  have hread := h.reads_expression _ (ends_newline rest)
  have hassigned := run_assigned hread hstarts (by simp) depth (by simp at hdepth ⊢; omega)
  have krun := (reads_moreAssigned_nil s rest).run depth (by simp [Rule.height] at hdepth ⊢; omega)
  have hcolon : (Lexeme.newline :: rest).head? ≠ some (.mark ":") := by simp
  have hupdate :
      (optionalMarkOf updateMarks).run (.newline :: rest) = some (false, .newline :: rest) :=
    rfl
  rw [List.cons_append] at hassigned
  rw [run_simple _ (opensExpression_of_opensAtom l hl)]
  simp [assignment, hassigned, optionalMark, run_optional_of_ne hcolon, hupdate, krun]

/-- A name that a value is assigned to. -/
theorem IsExpression.assign (hw : isIdentifier w) (hmatch : w ≠ "match") (h : IsExpression ls) :
    IsStatement (.word w :: (.mark "=" :: ls ++ [.newline])) := by
  have hname := isPrimary_name hw
  have hstarts := hname.starts.mono opensExpression_of_opensAtom
  have hl : opensAtom (.word w) := by simp [opensAtom, hw]
  obtain ⟨t, -, hvalue⟩ := h.reads
  refine isStatement_of_simple _ (not_opensCompound hl (by simpa using hmatch)) (by simp)
    fun rest depth hdepth => ⟨t, ?_⟩
  have hread := hname.reads_expression (.mark "=" :: (ls ++ .newline :: rest))
    (ends_cons (by decide) _)
  have hvalue := hvalue _ (ends_newline rest)
  have hfirst := run_assigned hread hstarts (by simp) depth (by simp at hdepth ⊢; omega)
  have hmore : Reads (.moreAssigned .name) (.mark "=" :: (ls ++ .newline :: rest)) t
      (.newline :: rest) := by
    refine reads_of (by simp; omega) fun depth hdepth => ?_
    have hassigned := run_assigned hvalue h.starts (by simp) depth
      (by simp [Rule.height] at hdepth ⊢; omega)
    have krun := (reads_moreAssigned_nil t rest).run depth
      (by simp [Rule.height] at hdepth ⊢; omega)
    simp [readRule, moreAssigned, optionalMark, Shape.isAssignable, hassigned, krun]
  have krun := hmore.run depth (by simp [Rule.height] at hdepth ⊢; omega)
  have hcolon : (Lexeme.mark "=" :: (ls ++ .newline :: rest)).head? ≠ some (.mark ":") := by simp
  have hupdate : (optionalMarkOf updateMarks).run (.mark "=" :: (ls ++ .newline :: rest)) =
      some (false, .mark "=" :: (ls ++ .newline :: rest)) :=
    run_optionalMarkOf_of_ne (by simp [isOneOf, updateMarks])
  rw [List.singleton_append] at hfirst
  rw [run_simple _ (opensExpression_of_opensAtom _ hl)]
  simp [assignment, hfirst, optionalMark, run_optional_of_ne hcolon, hupdate, krun]

/-- A name with a hint and a value. -/
theorem IsExpression.annotate {hint : List Lexeme} (hw : isIdentifier w) (hmatch : w ≠ "match")
    (hhint : IsExpression hint) (h : IsExpression ls) :
    IsStatement (.word w :: (.mark ":" :: (hint ++ .mark "=" :: ls) ++ [.newline])) := by
  have hname := isPrimary_name hw
  have hstarts := hname.starts.mono opensExpression_of_opensAtom
  have hl : opensAtom (.word w) := by simp [opensAtom, hw]
  obtain ⟨t, -, hvalue⟩ := h.reads
  obtain ⟨u, -, hhintRead⟩ := hhint.reads
  refine isStatement_of_simple _ (not_opensCompound hl (by simpa using hmatch)) (by simp)
    fun rest depth hdepth => ⟨.other, ?_⟩
  have hread := hname.reads_expression
    (.mark ":" :: (hint ++ .mark "=" :: (ls ++ .newline :: rest))) (ends_cons (by decide) _)
  have hhintRead := hhintRead (.mark "=" :: (ls ++ .newline :: rest))
    (ends_cons (by decide) _)
  have hvalue := hvalue _ (ends_newline rest)
  have hfirst := run_assigned hread hstarts (by simp) depth (by simp at hdepth ⊢; omega)
  have hrun := hhintRead.run depth (by simp [Rule.height] at hdepth ⊢; omega)
  have hassigned := run_assigned hvalue h.starts (by simp) depth
    (by simp at hdepth ⊢; omega)
  have hgrouped : (groupedPlace (rulesWithin depth)).run (.word w :: .mark ":" ::
      (hint ++ .mark "=" :: (ls ++ .newline :: rest))) = none := rfl
  rw [List.singleton_append] at hfirst
  rw [run_simple _ (opensExpression_of_opensAtom _ hl)]
  simp [assignment, hfirst, optionalMark, Shape.isSingle, hgrouped, hrun, hassigned]

theorem isStatement_pass : IsStatement [.word "pass", .newline] :=
  isStatement_of_simple (l := .word "pass") [] (by decide) (by simp) fun rest depth _ =>
    ⟨.other, rfl⟩

theorem startsExpression_of_opensExpression (h : opensExpression l) : startsExpression l := by
  cases l with
  | word w =>
    simp only [opensExpression, opensAtom, Bool.or_eq_true, decide_eq_true_eq, Lexeme.word.injEq,
      reduceCtorEq, or_false, List.contains_eq_mem, List.mem_cons, List.not_mem_nil] at h
    simp only [startsExpression, Bool.or_eq_true, List.contains_eq_mem, List.mem_cons,
      List.not_mem_nil, decide_eq_true_eq]
    grind
  | mark m =>
    simp only [opensExpression, opensAtom, Bool.or_eq_true, decide_eq_true_eq, Lexeme.mark.injEq,
      reduceCtorEq, or_false, List.contains_eq_mem, List.mem_cons, List.not_mem_nil] at h
    simp only [startsExpression, List.contains_eq_mem, List.mem_cons, List.not_mem_nil,
      decide_eq_true_eq]
    grind
  | number | text => rfl
  | _ => simp [opensExpression, opensAtom] at h

theorem Starts.run_nextStartsExpression (h : Starts opensExpression ls) (rest : List Lexeme) :
    nextStartsExpression.run (ls ++ rest) = some (true, ls ++ rest) := by
  obtain ⟨l, more, rfl, hl, -⟩ := h
  have hl := startsExpression_of_opensExpression hl
  simp [nextStartsExpression, hl]

theorem IsExpression.returned (h : IsExpression ls) :
    IsStatement (.word "return" :: (ls ++ [.newline])) := by
  obtain ⟨t, -, hvalue⟩ := h.reads
  refine isStatement_of_simple _ (by decide) (by simp) fun rest depth hdepth => ⟨t, ?_⟩
  have hvalue := hvalue _ (ends_newline rest)
  have hrun := run_expressionList hvalue h.starts (by simp) depth
    (by simp at hdepth ⊢; omega)
  have hstarts := h.starts.run_nextStartsExpression (.newline :: rest)
  simp [simple, word, hstarts, hrun]

/-! ### Imports -/

theorem reads_dotted (hw : isIdentifier w) (rest : List Lexeme)
    (hpoint : rest.head? ≠ some (.mark ".")) :
    Reads .dotted (.word w :: rest) .other rest := by
  refine reads_of (by simp) fun depth hdepth => ?_
  simp [readRule, dotted, run_identifier hw, optionalMark, run_optional_of_ne hpoint]

theorem isStatement_import (hw : isIdentifier w) :
    IsStatement [.word "import", .word w, .newline] := by
  refine isStatement_of_simple (l := .word "import") [.word w] (by decide) (by simp)
    fun rest depth hdepth => ⟨.other, ?_⟩
  have hmodules : Reads .modules (.word w :: .newline :: rest) .other (.newline :: rest) := by
    refine reads_of (by simp) fun depth hdepth => ?_
    have hrun := (reads_dotted hw (.newline :: rest) (by simp)).run depth
      (by simp [Rule.height] at hdepth ⊢; omega)
    have has : (Lexeme.newline :: rest).head? ≠ some (.word "as") := by simp
    have hcomma : (Lexeme.newline :: rest).head? ≠ some (.mark ",") := by simp
    simp [readRule, modules, hrun, rename, optionalWord, optionalMark, run_optional_of_ne has,
      run_optional_of_ne hcomma]
  have hrun := hmodules.run depth (by simp [Rule.height] at hdepth ⊢; omega)
  simp [simple, word, hrun]

theorem isStatement_importFrom {name : String} (hw : isIdentifier w) (hname : isIdentifier name) :
    IsStatement [.word "from", .word w, .word "import", .word name, .newline] := by
  refine isStatement_of_simple (l := .word "from") [.word w, .word "import", .word name]
    (by decide) (by simp) fun rest depth hdepth => ⟨.other, ?_⟩
  have hrun := (reads_dotted hw (.word "import" :: .word name :: .newline :: rest)
    (by simp)).run depth (by simp [Rule.height] at hdepth ⊢; omega)
  have himports : Reads (.imports false) (.word name :: .newline :: rest) .other
      (.newline :: rest) := by
    refine reads_of (by simp) fun depth hdepth => ?_
    have has : (Lexeme.newline :: rest).head? ≠ some (.word "as") := by simp
    have hcomma : (Lexeme.newline :: rest).head? ≠ some (.mark ",") := by simp
    simp [readRule, imports, run_identifier hname, rename, optionalWord, optionalMark,
      run_optional_of_ne has, run_optional_of_ne hcomma]
  have krun := himports.run depth (by simp [Rule.height] at hdepth ⊢; omega)
  have hstar : (Lexeme.word name :: .newline :: rest).head? ≠ some (.mark "*") := by simp
  have hopen : (Lexeme.word name :: .newline :: rest).head? ≠ some (.mark "(") := by simp
  simp [simple, importFrom, word, isWord, isDots, hrun, optionalMark, run_optional_of_ne hstar,
    run_optional_of_ne hopen, krun]

/-! ### Blocks -/

/-- The lexemes are statements through the end of their indentation. -/
def IsBlock (ls : List Lexeme) : Prop :=
  ∀ rest, Reads .moreStatements (ls ++ rest) .other rest

/-- The lexemes are one statement or several. -/
inductive IsStatements : List Lexeme → Prop where
  | one {ls : List Lexeme} : IsStatement ls → IsStatements ls
  | cons {ls ms : List Lexeme} : IsStatement ls → IsStatements ms → IsStatements (ls ++ ms)

theorem IsStatements.append (h : IsStatements ls) (k : IsStatements ms) :
    IsStatements (ls ++ ms) := by
  induction h with
  | one h => exact .cons h k
  | cons h _ ih =>
    rw [List.append_assoc]
    exact .cons h ih

theorem IsStatements.head?_ne (h : IsStatements ls) (rest : List Lexeme) :
    (ls ++ rest).head? ≠ some .dedent := by
  cases h with
  | one h =>
    obtain ⟨l, more, rfl, hl⟩ := h.starts
    simpa using hl
  | cons h _ =>
    obtain ⟨l, more, rfl, hl⟩ := h.starts
    simpa using hl

theorem IsStatements.isBlock (h : IsStatements ls) : IsBlock (ls ++ [.dedent]) := by
  induction h with
  | @one ls h =>
    intro rest
    have hread := h.reads (.dedent :: rest)
    refine reads_of (by simp; omega) fun depth hdepth => ?_
    have hrun := hread.run depth (by simp [Rule.height] at hdepth ⊢; omega)
    simp [readRule, moreStatements, hrun]
  | @cons ls ms h k ih =>
    intro rest
    have hread := h.reads (ms ++ .dedent :: rest)
    have hmore := ih rest
    have hle := hmore.length_le
    have hpos : 0 < ls.length := by
      obtain ⟨l, more, rfl, -⟩ := h.starts
      simp
    rw [List.append_assoc, List.singleton_append] at hmore
    refine reads_of (by simp; omega) fun depth hdepth => ?_
    have hrun := hread.run depth (by simp [Rule.height] at hdepth ⊢; omega)
    have krun := hmore.run depth (by simp [Rule.height] at hdepth ⊢; omega)
    simp [readRule, moreStatements, hrun, run_optional_of_ne (k.head?_ne (.dedent :: rest)), krun]

/-- A block behind a colon. -/
theorem IsBlock.run_body (h : IsBlock ls) (rest : List Lexeme) (depth : Nat)
    (hdepth : 16 * (ls ++ rest).length + 48 ≤ depth) :
    (body (rulesWithin depth)).run (.mark ":" :: .newline :: .indent :: (ls ++ rest)) =
      some (.other, rest) := by
  have hblock : Reads .block (.newline :: .indent :: (ls ++ rest)) .other rest := by
    have hle := (h rest).length_le
    refine reads_of (by simp; omega) fun depth hdepth => ?_
    have hrun := (h rest).run depth (by simp [Rule.height] at hdepth ⊢; omega)
    simp [readRule, block, hrun]
  have hrun := hblock.run depth (by simp [Rule.height] at hdepth ⊢; omega)
  simp [body, mark, hrun]

/-! ### Compound statements -/

section Dispatch

variable (rules : Rules) (ls : List Lexeme)

theorem run_statement_for :
    (statement rules).run (.word "for" :: ls) = (forStatement rules).run ls := by
  rw [statement]
  simp only [optionalMark, optionalWord]
  repeat rw [run_ite_optional (by decide)]
  rw [run_ite_optional_self]

theorem run_statement_def :
    (statement rules).run (.word "def" :: ls) = (functionStatement rules).run ls := by
  rw [statement]
  simp only [optionalMark, optionalWord]
  repeat rw [run_ite_optional (by decide)]
  rw [run_ite_optional_self]

theorem run_statement_class :
    (statement rules).run (.word "class" :: ls) = (classStatement rules).run ls := by
  rw [statement]
  simp only [optionalMark, optionalWord]
  repeat rw [run_ite_optional (by decide)]
  rw [run_ite_optional_self]

end Dispatch

/-- A class with its base classes. -/
theorem IsArguments.isStatement_class (hw : isIdentifier w) (h : IsArguments 0 ls)
    (k : IsBlock ms) :
    IsStatement (.word "class" :: .word w :: .mark "(" ::
      (ls ++ .mark ":" :: .newline :: .indent :: ms)) := by
  refine ⟨⟨_, _, rfl, by simp⟩, fun rest => reads_of (by simp; omega) fun depth hdepth => ?_⟩
  have hrun := (h false (.mark ":" :: .newline :: .indent :: (ms ++ rest))).run depth
    (by simp [Rule.height] at hdepth ⊢; omega)
  have krun := k.run_body rest depth (by simp [Rule.height] at hdepth ⊢; omega)
  have hall : Lexeme.word "class" :: .word w :: .mark "(" ::
      (ls ++ .mark ":" :: .newline :: .indent :: ms) ++ rest = .word "class" :: .word w ::
        .mark "(" :: (ls ++ .mark ":" :: .newline :: .indent :: (ms ++ rest)) := by simp
  rw [hall, readRule, run_statement_class]
  simp [classStatement, run_identifier hw, optionalMark, hrun, krun]

/-- The lexemes are parameters through the closing parenthesis; the flag says that parameters with
a default stand before them. -/
def IsParameters (defaults : Bool) (ls : List Lexeme) : Prop :=
  ∀ count rest,
    Reads (.parameters ")" { hasHints := true, count, defaults }) (ls ++ rest) .other rest

/-- What stands behind a parameter. -/
inductive IsMoreParameters (defaults : Bool) : List Lexeme → Prop where
  | close : IsMoreParameters defaults [.mark ")"]
  | comma {ls : List Lexeme} :
    IsParameters defaults ls → IsMoreParameters defaults (.mark "," :: ls)

theorem isParameters_nil (defaults : Bool) : IsParameters defaults [.mark ")"] := by
  refine fun count rest => reads_of (by simp) fun depth hdepth => ?_
  simp [readRule, parameters, optionalMark]

theorem IsMoreParameters.ends {defaults : Bool} (h : IsMoreParameters defaults ls)
    (rest : List Lexeme) : Ends endsExpression (ls ++ rest) ∧
      (ls ++ rest).head? ≠ some (.mark ":") ∧ (ls ++ rest).head? ≠ some (.mark "=") := by
  cases h with
  | close => exact ⟨ends_cons (by decide) _, by simp, by simp⟩
  | comma => exact ⟨ends_cons (by decide) _, by simp, by simp⟩

theorem IsMoreParameters.run {defaults : Bool} (h : IsMoreParameters defaults ls) (count : Nat)
    (rest : List Lexeme) (depth : Nat) (hdepth : 16 * (ls ++ rest).length ≤ depth) :
    (do if ← optionalMark "," then
          rulesWithin depth (.parameters ")" { hasHints := true, count := count + 1, defaults })
        else
          mark ")"
          return .other : Reader Shape).run (ls ++ rest) = some (.other, rest) := by
  cases h with
  | close =>
    have hne : (Lexeme.mark ")" :: rest).head? ≠ some (.mark ",") := by simp
    simp [optionalMark, run_optional_of_ne hne, mark]
  | @comma ls hls =>
    have hrun := (hls (count + 1) rest).run depth (by simp [Rule.height] at hdepth ⊢; omega)
    simp [optionalMark, hrun]

/-- A parameter without a hint. -/
theorem IsMoreParameters.plain (hw : isIdentifier w) (k : IsMoreParameters false ms) :
    IsParameters false (.word w :: ms) := by
  intro count rest
  obtain ⟨-, hcolon, hequals⟩ := k.ends rest
  refine reads_of (by simp; omega) fun depth hdepth => ?_
  have krun := k.run count rest depth (by simp [Rule.height] at hdepth ⊢; omega)
  have hne : ∀ m, (Lexeme.word w :: (ms ++ rest)).head? ≠ some (.mark m) := by simp
  rw [readRule, List.cons_append]
  simp only [parameters, StateT.run_bind, optionalMark, run_optional_of_ne (hne _),
    Option.bind_eq_bind, Option.bind_some, Bool.false_eq_true, if_false, run_identifier hw, hint,
    if_true, run_optional_of_ne hcolon, run_optional_of_ne hequals, StateT.run_pure, Option.pure_def,
    run_require, Bool.not_false, Bool.true_or]
  exact krun

/-- A parameter with a hint. -/
theorem IsExpression.parameter (hw : isIdentifier w) (h : IsExpression ls)
    (k : IsMoreParameters false ms) : IsParameters false (.word w :: .mark ":" :: (ls ++ ms)) := by
  intro count rest
  obtain ⟨hends, -, hequals⟩ := k.ends rest
  obtain ⟨t, -, hread⟩ := h.reads
  refine reads_of (by simp; omega) fun depth hdepth => ?_
  have hrun := (hread _ hends).run depth (by simp [Rule.height] at hdepth ⊢; omega)
  have krun := k.run count rest depth (by simp [Rule.height] at hdepth ⊢; omega)
  have hne : ∀ m, (Lexeme.word w :: .mark ":" :: (ls ++ (ms ++ rest))).head? ≠ some (.mark m) := by
    simp
  rw [readRule, List.cons_append, List.cons_append, List.append_assoc]
  simp only [parameters, StateT.run_bind, optionalMark, run_optional_of_ne (hne _),
    Option.bind_eq_bind, Option.bind_some, Bool.false_eq_true, if_false, run_identifier hw, hint,
    if_true, run_optional, hrun, run_optional_of_ne hequals, StateT.run_pure, Option.pure_def,
    run_require, Bool.not_false, Bool.true_or]
  exact krun

/-- A parameter with a hint and a default. -/
theorem IsExpression.defaulted {value : List Lexeme} {defaults : Bool} (hw : isIdentifier w)
    (h : IsExpression ls) (hvalue : IsExpression value) (k : IsMoreParameters true ms) :
    IsParameters defaults (.word w :: .mark ":" :: (ls ++ .mark "=" :: (value ++ ms))) := by
  intro count rest
  obtain ⟨hends, -, -⟩ := k.ends rest
  obtain ⟨t, -, hread⟩ := h.reads
  obtain ⟨u, -, hvalueRead⟩ := hvalue.reads
  refine reads_of (by simp; omega) fun depth hdepth => ?_
  have hrun := (hread (.mark "=" :: (value ++ (ms ++ rest))) (ends_cons (by decide) _)).run
    depth (by simp [Rule.height] at hdepth ⊢; omega)
  have hrun' := (hvalueRead _ hends).run depth (by simp [Rule.height] at hdepth ⊢; omega)
  have krun := k.run count rest depth (by simp [Rule.height] at hdepth ⊢; omega)
  have hne : ∀ m, (Lexeme.word w :: .mark ":" ::
      (ls ++ .mark "=" :: (value ++ (ms ++ rest)))).head? ≠ some (.mark m) := by simp
  rw [readRule, List.cons_append, List.cons_append, List.append_assoc, List.cons_append,
    List.append_assoc]
  simp only [parameters, StateT.run_bind, optionalMark, run_optional_of_ne (hne _),
    Option.bind_eq_bind, Option.bind_some, Bool.false_eq_true, if_false, run_identifier hw, hint,
    if_true, run_optional, hrun, hrun', StateT.run_pure, Option.pure_def]
  exact krun

/-- A function with a hint for its result. -/
theorem IsParameters.isStatement_returning {hint : List Lexeme} (hw : isIdentifier w)
    (h : IsParameters false ls) (hhint : IsExpression hint) (k : IsBlock ms) :
    IsStatement (.word "def" :: .word w :: .mark "(" ::
      (ls ++ .mark "->" :: (hint ++ .mark ":" :: .newline :: .indent :: ms))) := by
  obtain ⟨t, -, hread⟩ := hhint.reads
  refine ⟨⟨_, _, rfl, by simp⟩, fun rest => reads_of (by simp; omega) fun depth hdepth => ?_⟩
  have hrun := (h 0 (.mark "->" :: (hint ++ .mark ":" :: .newline :: .indent :: (ms ++ rest)))).run
    depth (by simp [Rule.height] at hdepth ⊢; omega)
  have hrun' := (hread (.mark ":" :: .newline :: .indent :: (ms ++ rest))
    (ends_cons (by decide) _)).run depth (by simp [Rule.height] at hdepth ⊢; omega)
  have krun := k.run_body rest depth (by simp [Rule.height] at hdepth ⊢; omega)
  rw [readRule, List.cons_append, run_statement_def]
  simp [functionStatement, run_identifier hw, mark, optionalMark, hrun, hrun', krun]

/-- A function without a hint for its result. -/
theorem IsParameters.isStatement_def (hw : isIdentifier w) (h : IsParameters false ls)
    (k : IsBlock ms) : IsStatement (.word "def" :: .word w :: .mark "(" ::
      (ls ++ .mark ":" :: .newline :: .indent :: ms)) := by
  refine ⟨⟨_, _, rfl, by simp⟩, fun rest => reads_of (by simp; omega) fun depth hdepth => ?_⟩
  have hrun := (h 0 (.mark ":" :: .newline :: .indent :: (ms ++ rest))).run
    depth (by simp [Rule.height] at hdepth ⊢; omega)
  have krun := k.run_body rest depth (by simp [Rule.height] at hdepth ⊢; omega)
  have hne : (Lexeme.mark ":" :: .newline :: .indent :: (ms ++ rest)).head? ≠
      some (.mark "->") := by simp
  rw [readRule, List.cons_append, run_statement_def]
  simp [functionStatement, run_identifier hw, mark, optionalMark, hrun, run_optional_of_ne hne,
    krun]

/-- A function behind a decorator. -/
theorem IsExpression.decorate (h : IsExpression ls) (k : IsStatement (.word "def" :: ms)) :
    IsStatement (.mark "@" :: (ls ++ .newline :: .word "def" :: ms)) := by
  obtain ⟨t, -, hread⟩ := h.reads_named
  refine ⟨⟨_, _, rfl, by simp⟩, fun rest => reads_of (by simp; omega) fun depth hdepth => ?_⟩
  have hrun := (hread _ (ends_newline (.word "def" :: (ms ++ rest)))).run depth
    (by simp [Rule.height] at hdepth ⊢; omega)
  have krun := (k.reads rest).run depth (by simp [Rule.height] at hdepth ⊢; omega)
  rw [List.cons_append] at krun
  rw [readRule, statement, optionalMark, List.cons_append, run_ite_optional_self]
  simp [decorated, hrun, krun]

/-- A loop over a value; nothing else stands behind it. -/
theorem IsExpression.reads_for (hw : isIdentifier w) (h : IsExpression ls) (k : IsBlock ms) :
    Reads .statement (.word "for" :: .word w :: .word "in" ::
      (ls ++ .mark ":" :: .newline :: .indent :: ms)) .other [] := by
  obtain ⟨t, -, hread⟩ := h.reads
  refine reads_of (by simp) fun depth hdepth => ?_
  have htarget := run_targetList hw (ls ++ .mark ":" :: .newline :: .indent :: ms)
    depth (by simp [Rule.height] at hdepth ⊢; omega)
  have hlist := run_expressionList (hread (.mark ":" :: .newline :: .indent :: ms)
    (ends_cons (by decide) _)) h.starts (by simp) depth
    (by simp [Rule.height] at hdepth ⊢; omega)
  have krun := k.run_body [] depth (by simp [Rule.height] at hdepth ⊢; omega)
  rw [List.append_nil] at krun
  generalize ls ++ .mark ":" :: .newline :: .indent :: ms = source at *
  have helse : ([] : List Lexeme).head? ≠ some (.word "else") := by simp
  rw [readRule, run_statement_for]
  simp [forStatement, htarget, word, hlist, krun, optionalElse, optionalWord,
    run_optional_of_ne helse]

/-! ### Modules -/

/-- The lexemes are a module, read at a depth. -/
def IsModule (ls : List Lexeme) : Prop :=
  ∀ depth fuel, 16 * ls.length + 64 ≤ depth → ls.length ≤ fuel →
    readStatements (rulesWithin depth) fuel ls = true

theorem isModule_nil : IsModule [] := by
  intro depth fuel _ _
  cases fuel <;> rfl

theorem isModule_of_reads (h : Reads .statement ls s rest) (hlt : rest.length < ls.length)
    (k : IsModule rest) : IsModule ls := by
  intro depth fuel hdepth hfuel
  obtain ⟨l, more, rfl⟩ : ∃ l more, ls = l :: more := by
    cases ls with
    | nil => simp at hlt
    | cons l more => exact ⟨l, more, rfl⟩
  obtain ⟨fuel, rfl⟩ : ∃ f, fuel = f + 1 := ⟨fuel - 1, by simp at hfuel; omega⟩
  have hrun := h.run depth (by simp [Rule.height] at hdepth ⊢; omega)
  simp only [readStatements, hrun]
  exact k depth fuel (by simp at hdepth hlt; omega) (by simp at hfuel hlt; omega)

theorem IsStatement.isModule (h : IsStatement ls) (k : IsModule ms) : IsModule (ls ++ ms) := by
  refine isModule_of_reads (h.reads ms) ?_ k
  obtain ⟨l, more, rfl, -⟩ := h.starts
  simp only [List.length_append, List.length_cons]
  omega

theorem IsStatements.isModule (h : IsStatements ls) (k : IsModule ms) : IsModule (ls ++ ms) := by
  induction h with
  | one h => exact h.isModule k
  | cons h _ ih =>
    rw [List.append_assoc]
    exact h.isModule ih

theorem wellFormed_of_isModule {names : CharacterNames} {text : String}
    (hlexemes : lexemes? names text.toList = some ls) (h : IsModule ls) : wellFormed names text := by
  simp [wellFormed, hlexemes, h _ _ (Nat.le_refl _) (Nat.le_refl _), depthFor]

end SchemaClient.Code
