import SchemaClient.Code.WellFormed

/-! What the grammar reads, at every depth that suffices. -/
namespace SchemaClient.Code

open Reader

variable {l : Lexeme} {ls ms rest rest' : List Lexeme} {s t : Shape} {level : Level} {rule : Rule}

/-! ### Single lexemes -/

namespace Reader

@[simp] theorem run_require (b : Bool) (ls : List Lexeme) :
    (require b).run ls = if b then some ((), ls) else none := by
  cases b <;> rfl

@[simp] theorem run_next? (ls : List Lexeme) : next?.run ls = some (ls.head?, ls) := rfl

@[simp] theorem run_isNext (l : Lexeme) (ls : List Lexeme) :
    (isNext l).run ls = some (decide (ls.head? = some l), ls) := rfl

@[simp] theorem run_take (l : Lexeme) (rest : List Lexeme) :
    (take l).run (l :: rest) = some ((), rest) := by
  simp [take]

@[simp] theorem run_optional (l : Lexeme) (rest : List Lexeme) :
    (optional l).run (l :: rest) = some (true, rest) := by
  simp [optional]

theorem run_optional_of_ne (h : ls.head? ≠ some l) : (optional l).run ls = some (false, ls) := by
  simp [optional, h]

/-- Whether a lexeme is one of some marks. -/
def isOneOf (ms : List String) : Lexeme → Bool
  | .mark m => ms.contains m
  | _ => false

theorem run_optionalMarkOf {ms : List String} (h : isOneOf ms l) (rest : List Lexeme) :
    (optionalMarkOf ms).run (l :: rest) = some (true, rest) := by
  cases l with
  | mark m =>
    have hm : m ∈ ms := by simpa [isOneOf] using h
    simp [optionalMarkOf, isMarkOf, hm]
  | _ => simp [isOneOf] at h

theorem run_optionalMarkOf_of_ne {ms : List String} (h : ∀ l ∈ ls.head?, isOneOf ms l = false) :
    (optionalMarkOf ms).run ls = some (false, ls) := by
  cases ls with
  | nil => rfl
  | cons l ls =>
    have hl := h l rfl
    cases l with
    | mark m =>
      have hm : m ∉ ms := by simpa [isOneOf] using hl
      simp [optionalMarkOf, isMarkOf, hm]
    | _ => rfl

@[simp] theorem run_identifier {w : String} (h : isIdentifier w) (rest : List Lexeme) :
    identifier.run (.word w :: rest) = some ((), rest) := by
  simp [identifier, h, word]

end Reader

/-! ### Depth -/

/-- How many rules can be read one inside the other before a lexeme is taken. -/
def Rule.height : Rule → Nat
  | .modules | .factor => 1
  | .operand .arithmetic => 2
  | .chain .arithmetic => 3
  | .operand .comparison => 4
  | .chain .comparison => 5
  | .operand .logic => 6
  | .chain .logic => 7
  | .expression => 8
  | .named | .moreEntries => 9
  | .moreElements .. | .arguments .. | .subscripts | .simples => 10
  | .statement | .block => 11
  | .moreStatements => 12
  | _ => 0

/-- The rule takes the lexemes before `rest`, unless the depth runs out. -/
structure Reads (rule : Rule) (ls : List Lexeme) (s : Shape) (rest : List Lexeme) : Prop where
  length_le : rest.length ≤ ls.length
  run : ∀ depth, 16 * ls.length + rule.height < depth →
    (rulesWithin depth rule).run ls = some (s, rest)

theorem reads_of (hle : rest.length ≤ ls.length)
    (h : ∀ depth, 16 * ls.length + rule.height ≤ depth →
      (readRule (rulesWithin depth) rule).run ls = some (s, rest)) : Reads rule ls s rest := by
  refine ⟨hle, fun depth hdepth => ?_⟩
  obtain ⟨depth, rfl⟩ : ∃ d, depth = d + 1 := ⟨depth - 1, by omega⟩
  exact h depth (by omega)

/-! ### Operators -/

/-- A lexeme that an operator of the level can start with. -/
def isOperator : Level → Lexeme → Bool
  | .arithmetic, l =>
    isOneOf ["|", "^", "&", "<<", ">>", "+", "-", "*", "/", "//", "%", "@", "**"] l
  | .comparison, l => isOneOf ["==", "!=", "<", ">", "<=", ">="] l ||
    [Lexeme.word "in", .word "is", .word "not"].contains l
  | .logic, l => [Lexeme.word "and", .word "or"].contains l

theorem run_operator_of_not (h : ∀ l ∈ rest.head?, isOperator level l = false) :
    (operator level).run rest = some (false, rest) := by
  have hne : ∀ l, isOperator level l = true → rest.head? ≠ some l := by
    intro l hl heq
    simp [h l heq] at hl
  cases level with
  | arithmetic => exact run_optionalMarkOf_of_ne h
  | logic =>
    simp [operator, optionalWord, run_optional_of_ne (hne (.word "and") (by decide)),
      run_optional_of_ne (hne (.word "or") (by decide))]
  | comparison =>
    have hmark : (optionalMarkOf ["==", "!=", "<", ">", "<=", ">="]).run rest =
        some (false, rest) := by
      refine run_optionalMarkOf_of_ne fun l hl => ?_
      have := h l hl
      simp only [isOperator, Bool.or_eq_false_iff] at this
      exact this.1
    have hnot := hne (.word "not") (by decide)
    simp only [operator, StateT.run_bind, hmark, optionalWord, Option.bind_eq_bind, Option.bind_some,
      run_optional_of_ne (hne (.word "in") (by decide)),
      run_optional_of_ne (hne (.word "is") (by decide)), Bool.false_eq_true, if_false,
      StateT.run_get, Option.pure_def]
    split
    · simp at hnot
    · rfl

theorem reads_moreOperands_nil (h : ∀ l ∈ rest.head?, isOperator level l = false) (s : Shape) :
    Reads (.moreOperands level s) rest s rest := by
  refine reads_of (Nat.le_refl _) fun depth hdepth => ?_
  simp [readRule, moreOperands, run_operator_of_not h]

/-! ### How expressions start and end -/

/-- A lexeme that an atom starts with. -/
def opensAtom : Lexeme → Bool
  | .word w => isIdentifier w || ["None", "True", "False"].contains w
  | .number _ | .text _ => true
  | .mark m => ["(", "[", "\x7b"].contains m
  | .hole | .newline | .indent | .dedent => false

/-- A lexeme that an expression starts with, other than those of operators. -/
def opensExpression (l : Lexeme) : Bool :=
  opensAtom l || l = .word "lambda" || l = .mark "-"

/-- A lexeme that joins a string literal before it. -/
def joinsLiteral : Lexeme → Bool
  | .text _ | .hole => true
  | _ => false

/-- A lexeme that continues the atom before it. -/
def continuesAtom (l : Lexeme) : Bool :=
  joinsLiteral l || isOneOf [".", "[", "("] l

/-- A lexeme that may stand behind operands of arithmetic. -/
def endsSum (l : Lexeme) : Bool :=
  !continuesAtom l && !isOperator .arithmetic l

/-- A lexeme that may stand behind operands of any operator. -/
def endsOperands (l : Lexeme) : Bool :=
  endsSum l && !isOperator .comparison l && !isOperator .logic l

/-- A lexeme that may stand behind an expression. -/
def endsExpression (l : Lexeme) : Bool :=
  endsOperands l && l != .word "if" && l != .mark ":=" 

/-- The lexemes start in a given way, and neither name a value nor an argument. -/
def Starts (opens : Lexeme → Bool) (ls : List Lexeme) : Prop :=
  ∃ l more, ls = l :: more ∧ opens l ∧ more.head? ≠ some (.mark ":=") ∧
    more.head? ≠ some (.mark "=")

theorem Starts.append {opens : Lexeme → Bool} (h : Starts opens ls) (hl : l ≠ .mark ":=")
    (hl' : l ≠ .mark "=") (ms : List Lexeme) : Starts opens (ls ++ l :: ms) := by
  obtain ⟨first, more, rfl, hfirst, hnamed, hassigned⟩ := h
  refine ⟨first, more ++ l :: ms, rfl, hfirst, ?_⟩
  cases more with
  | nil => simpa using ⟨hl, hl'⟩
  | cons second more => exact ⟨hnamed, hassigned⟩

theorem Starts.mono {p q : Lexeme → Bool} (h : Starts p ls) (hpq : ∀ l, p l → q l) :
    Starts q ls := by
  obtain ⟨first, more, rfl, hfirst, hmore⟩ := h
  exact ⟨first, more, rfl, hpq _ hfirst, hmore⟩

theorem Starts.head?_ne {opens : Lexeme → Bool} (h : Starts opens ls) (hl : opens l = false)
    (rest : List Lexeme) : (ls ++ rest).head? ≠ some l := by
  obtain ⟨first, more, rfl, hfirst, -⟩ := h
  rintro heq
  obtain rfl : first = l := by simpa using heq
  simp [hl] at hfirst

theorem opensExpression_of_opensAtom (l : Lexeme) (h : opensAtom l) : opensExpression l := by
  simp [opensExpression, h]

/-- What may stand behind an expression. -/
def Ends (ends : Lexeme → Bool) (rest : List Lexeme) : Prop :=
  ∀ l ∈ rest.head?, ends l

theorem Ends.mono {p q : Lexeme → Bool} (h : Ends p rest) (hpq : ∀ l, p l → q l) :
    Ends q rest :=
  fun l hl => hpq l (h l hl)

theorem Ends.head?_ne {ends : Lexeme → Bool} (h : Ends ends rest) (hl : ends l = false) :
    rest.head? ≠ some l := by
  intro heq
  simpa [hl] using h l heq

theorem ends_cons {ends : Lexeme → Bool} (h : ends l) (rest : List Lexeme) :
    Ends ends (l :: rest) := by
  rintro l' hl'
  obtain rfl : l = l' := by simpa using hl'
  exact h

/-! ### Atoms and what follows them -/

theorem reads_trailers_nil (h : ∀ l ∈ rest.head?, continuesAtom l = false) (s : Shape) :
    Reads (.trailers s) rest s rest := by
  have hne : ∀ l, continuesAtom l = true → rest.head? ≠ some l := by
    intro l hl heq
    simp [h l heq] at hl
  refine reads_of (Nat.le_refl _) fun depth hdepth => ?_
  simp [readRule, trailers, optionalMark, run_optional_of_ne (hne (.mark ".") (by decide)),
    run_optional_of_ne (hne (.mark "[") (by decide)),
    run_optional_of_ne (hne (.mark "(") (by decide))]

theorem reads_trailers_attribute {w : String} (hw : isIdentifier w)
    (h : Reads (.trailers .place) rest t rest') (s : Shape) :
    Reads (.trailers s) (.mark "." :: .word w :: rest) t rest' := by
  have hle := h.length_le
  refine reads_of (by simp; omega) fun depth hdepth => ?_
  have hrun := h.run depth (by simp [Rule.height] at hdepth ⊢; omega)
  simp [readRule, trailers, optionalMark, run_identifier hw, hrun]

theorem reads_trailers_subscript (h : Reads .subscripts ls .other rest)
    (k : Reads (.trailers .place) rest t rest') (s : Shape) :
    Reads (.trailers s) (.mark "[" :: ls) t rest' := by
  have hle := h.length_le
  have kle := k.length_le
  refine reads_of (by simp; omega) fun depth hdepth => ?_
  have hrun := h.run depth (by simp [Rule.height] at hdepth ⊢; omega)
  have krun := k.run depth (by simp [Rule.height] at hdepth ⊢; omega)
  have hne : (Lexeme.mark "[" :: ls).head? ≠ some (.mark ".") := by simp
  simp [readRule, trailers, optionalMark, run_optional_of_ne hne, hrun, krun]

theorem reads_trailers_call (h : Reads (.arguments true 0) ls .other rest)
    (k : Reads (.trailers .other) rest t rest') (s : Shape) :
    Reads (.trailers s) (.mark "(" :: ls) t rest' := by
  have hle := h.length_le
  have kle := k.length_le
  refine reads_of (by simp; omega) fun depth hdepth => ?_
  have hrun := h.run depth (by simp [Rule.height] at hdepth ⊢; omega)
  have krun := k.run depth (by simp [Rule.height] at hdepth ⊢; omega)
  have hpoint : (Lexeme.mark "(" :: ls).head? ≠ some (.mark ".") := by simp
  have hsquare : (Lexeme.mark "(" :: ls).head? ≠ some (.mark "[") := by simp
  simp [readRule, trailers, optionalMark, run_optional_of_ne hpoint, run_optional_of_ne hsquare,
    hrun, krun]

/-- An atom is taken before its trailers are. -/
theorem reads_factor (hl : opensAtom l) (hle : rest.length ≤ ls.length)
    (hatom : ∀ depth, 16 * (l :: ls).length < depth →
      (atom (rulesWithin depth)).run (l :: ls) = some (s, rest))
    (k : Reads (.trailers s) rest t rest') : Reads .factor (l :: ls) t rest' := by
  have kle := k.length_le
  refine reads_of (by simp; omega) fun depth hdepth => ?_
  have hrun := hatom depth (by simp [Rule.height] at hdepth ⊢; omega)
  have krun := k.run depth (by simp [Rule.height] at hdepth ⊢; omega)
  have hsign : (optionalMarkOf ["+", "-", "~"]).run (l :: ls) = some (false, l :: ls) := by
    refine run_optionalMarkOf_of_ne fun l' hl' => ?_
    obtain rfl : l = l' := by simpa using hl'
    cases l with
    | mark m =>
      simp only [opensAtom, List.contains_eq_mem, List.mem_cons, List.not_mem_nil, or_false,
        decide_eq_true_eq] at hl
      rcases hl with rfl | rfl | rfl <;> decide
    | _ => rfl
  have hawait : (l :: ls).head? ≠ some (.word "await") := by
    rintro heq
    obtain rfl : l = .word "await" := by simpa using heq
    exact absurd hl (by decide)
  simp [readRule, factor, hsign, optionalWord, run_optional_of_ne hawait, hrun, krun]

/-- The lexemes are an atom, perhaps with trailers, and more trailers may follow. -/
structure IsPrimary (ls : List Lexeme) (s : Shape) : Prop where
  starts : Starts opensAtom ls
  not_isStarred : s.isStarred = false
  reads : ∀ {rest t rest'}, Ends (!joinsLiteral ·) rest →
    Reads (.trailers s) rest t rest' → Reads .factor (ls ++ rest) t rest'

theorem starts_singleton {opens : Lexeme → Bool} (h : opens l) : Starts opens [l] :=
  ⟨l, [], rfl, h, by simp, by simp⟩

/-- An atom that does not look at what stands behind it. -/
theorem isPrimary_of_atom (hstarts : Starts opensAtom (l :: ls)) (hs : s.isStarred = false)
    (hatom : ∀ {rest depth}, 16 * (l :: (ls ++ rest)).length < depth →
      (atom (rulesWithin depth)).run (l :: (ls ++ rest)) = some (s, rest)) :
    IsPrimary (l :: ls) s := by
  have hopens : opensAtom l := by
    obtain ⟨first, more, heq, hfirst, -⟩ := hstarts
    obtain ⟨rfl, rfl⟩ := List.cons.inj heq
    exact hfirst
  refine ⟨hstarts, hs, fun {rest t rest'} _ hrest => ?_⟩
  exact reads_factor hopens (by simp) (fun depth hdepth => hatom hdepth) hrest

theorem isPrimary_name {w : String} (h : isIdentifier w) : IsPrimary [.word w] .name := by
  have hopens : opensAtom (.word w) := by simp [opensAtom, h]
  refine isPrimary_of_atom (starts_singleton hopens) rfl fun {rest depth} _ => ?_
  simp [atom, word, h]

theorem isPrimary_constant {w : String} (h : w ∈ ["None", "True", "False"]) :
    IsPrimary [.word w] .other := by
  have hopens : opensAtom (.word w) := by simp_all [opensAtom]
  have hword : isIdentifier w = false := by
    simp only [List.mem_cons, List.not_mem_nil, or_false] at h
    rcases h with rfl | rfl | rfl <;> decide
  refine isPrimary_of_atom (starts_singleton hopens) rfl fun {rest depth} _ => ?_
  simp_all [atom, word]

theorem isPrimary_number (b : Bool) : IsPrimary [.number b] .other := by
  refine isPrimary_of_atom (starts_singleton rfl) rfl fun {rest depth} _ => ?_
  simp [atom]

theorem reads_literals_nil (h : Ends (!joinsLiteral ·) rest) (b : Bool) :
    Reads (.literals b) rest .other rest := by
  have hne : ∀ l, joinsLiteral l = true → rest.head? ≠ some l := fun l hl =>
    h.head?_ne (by simp [hl])
  refine reads_of (Nat.le_refl _) fun depth hdepth => ?_
  simp [readRule, literals, run_optional_of_ne (hne (.text b) rfl),
    run_optional_of_ne (hne .hole rfl), hne (.text !b) rfl]

theorem reads_literals_cons {b : Bool} (h : Reads (.literals b) rest s rest') :
    Reads (.literals b) (.text b :: rest) s rest' := by
  have hle := h.length_le
  refine reads_of (by simp; omega) fun depth hdepth => ?_
  have hrun := h.run depth (by simp [Rule.height] at hdepth ⊢; omega)
  simp [readRule, literals, hrun]

/-- Adjacent literals are one atom. -/
theorem isPrimary_texts (n : Nat) : IsPrimary (List.replicate (n + 1) (.text false)) .other := by
  have hopens : opensAtom (.text false) := rfl
  refine ⟨⟨.text false, List.replicate n (.text false), rfl, hopens, ?_, ?_⟩, rfl, ?_⟩
  · cases n <;> simp [List.replicate]
  · cases n <;> simp [List.replicate]
  · intro rest t rest' hends hrest
    have hreads : ∀ n, Reads (.literals false) (List.replicate n (.text false) ++ rest) .other
        rest := by
      intro n
      induction n with
      | zero => exact reads_literals_nil hends false
      | succ n ih => exact reads_literals_cons ih
    have hliterals := hreads (n + 1)
    rw [List.replicate_succ, List.cons_append] at hliterals ⊢
    refine reads_factor hopens (by simp) (fun depth hdepth => ?_) hrest
    have hrun := hliterals.run depth (by simpa [Rule.height] using hdepth)
    simp [atom, hrun]

theorem isPrimary_text : IsPrimary [.text false] .other :=
  isPrimary_texts 0

theorem IsPrimary.attribute {w : String} (h : IsPrimary ls s) (hw : isIdentifier w) :
    IsPrimary (ls ++ [.mark ".", .word w]) .place := by
  refine ⟨h.starts.append (by decide) (by decide) _, rfl, fun {rest t rest'} _ hrest => ?_⟩
  rw [List.append_assoc]
  exact h.reads (ends_cons (by decide) _) (reads_trailers_attribute hw hrest s)

theorem IsPrimary.subscript (h : IsPrimary ls s)
    (hms : ∀ rest, Reads .subscripts (ms ++ rest) .other rest) :
    IsPrimary (ls ++ .mark "[" :: ms) .place := by
  refine ⟨h.starts.append (by decide) (by decide) _, rfl, fun {rest t rest'} _ hrest => ?_⟩
  rw [List.append_assoc]
  exact h.reads (ends_cons (by decide) _) (reads_trailers_subscript (hms rest) hrest s)

theorem IsPrimary.call (h : IsPrimary ls s)
    (hms : ∀ rest, Reads (.arguments true 0) (ms ++ rest) .other rest) :
    IsPrimary (ls ++ .mark "(" :: ms) .other := by
  refine ⟨h.starts.append (by decide) (by decide) _, rfl, fun {rest t rest'} _ hrest => ?_⟩
  rw [List.append_assoc]
  exact h.reads (ends_cons (by decide) _) (reads_trailers_call (hms rest) hrest s)

/-! ### Operands -/

theorem reads_operand_arithmetic (h : Reads .factor ls s rest) :
    Reads (.operand .arithmetic) ls s rest := by
  refine reads_of h.length_le fun depth hdepth => ?_
  have hrun := h.run depth (by simp [Rule.height] at hdepth ⊢; omega)
  simp [readRule, operand, hrun]

theorem reads_operand_comparison (h : Reads (.chain .arithmetic) ls s rest) :
    Reads (.operand .comparison) ls s rest := by
  refine reads_of h.length_le fun depth hdepth => ?_
  have hrun := h.run depth (by simp [Rule.height] at hdepth ⊢; omega)
  simp [readRule, operand, hrun]

theorem reads_operand_logic (hnot : ls.head? ≠ some (.word "not"))
    (h : Reads (.chain .comparison) ls s rest) : Reads (.operand .logic) ls s rest := by
  refine reads_of h.length_le fun depth hdepth => ?_
  have hrun := h.run depth (by simp [Rule.height] at hdepth ⊢; omega)
  simp [readRule, operand, optionalWord, run_optional_of_ne hnot, hrun]

theorem reads_chain (h : Reads (.operand level) ls s rest)
    (k : Reads (.moreOperands level s) rest t rest') : Reads (.chain level) ls t rest' := by
  have hle := h.length_le
  have kle := k.length_le
  refine reads_of (by omega) fun depth hdepth => ?_
  have hrun := h.run depth (by cases level <;> simp [Rule.height] at hdepth ⊢ <;> omega)
  have krun := k.run depth (by cases level <;> simp [Rule.height] at hdepth ⊢ <;> omega)
  simp [readRule, chain, hrun, krun]

theorem reads_moreOperands_cons (hop : (operator level).run ls = some (true, rest))
    (hlt : rest.length < ls.length) {rest'' : List Lexeme} {u : Shape}
    (h : Reads (.operand level) rest t rest')
    (k : Reads (.moreOperands level .other) rest' u rest'') (s : Shape) :
    Reads (.moreOperands level s) ls u rest'' := by
  have hle := h.length_le
  have kle := k.length_le
  refine reads_of (by omega) fun depth hdepth => ?_
  have hrun := h.run depth (by cases level <;> simp [Rule.height] at hdepth ⊢ <;> omega)
  have krun := k.run depth (by simp [Rule.height] at hdepth ⊢; omega)
  simp [readRule, moreOperands, hop, hrun, krun]

/-- The lexemes are operands of arithmetic, or a single one. -/
structure IsSum (ls : List Lexeme) : Prop where
  starts : Starts opensExpression ls
  not_lambda : ls.head? ≠ some (.word "lambda")
  reads : ∃ s : Shape, s.isStarred = false ∧
    ∀ rest, Ends endsSum rest → Reads (.chain .arithmetic) (ls ++ rest) s rest

theorem not_isOperator_of_endsSum (l : Lexeme) (h : endsSum l) :
    isOperator .arithmetic l = false := by
  simp_all [endsSum]

theorem IsPrimary.reads_factor (h : IsPrimary ls s) (hends : Ends (!continuesAtom ·) rest) :
    Reads .factor (ls ++ rest) s rest := by
  refine h.reads (hends.mono fun l hl => by simp_all [continuesAtom]) ?_
  exact reads_trailers_nil (fun l hl => by simpa using hends l hl) s

theorem IsPrimary.reads_sum (h : IsPrimary ls s) (hends : Ends endsSum rest) :
    Reads (.chain .arithmetic) (ls ++ rest) s rest := by
  have hfactor := h.reads_factor (hends.mono fun l hl => by simp_all [endsSum])
  refine reads_chain (reads_operand_arithmetic hfactor) (reads_moreOperands_nil (fun l hl => ?_) s)
  exact not_isOperator_of_endsSum l (hends l hl)

theorem IsPrimary.isSum (h : IsPrimary ls s) : IsSum ls := by
  refine ⟨h.starts.mono opensExpression_of_opensAtom, ?_, s, h.not_isStarred, fun _ hends =>
    h.reads_sum hends⟩
  simpa using h.starts.head?_ne (l := .word "lambda") (by decide) []

/-- A value or nothing. -/
theorem IsPrimary.orNone (h : IsPrimary ls s) : IsSum (ls ++ [.mark "|", .word "None"]) := by
  have hnone : IsPrimary [.word "None"] .other := isPrimary_constant (by simp)
  have hstarts := h.starts.append (by decide : Lexeme.mark "|" ≠ .mark ":=") (by decide)
    [.word "None"]
  refine ⟨hstarts.mono opensExpression_of_opensAtom, ?_, .other, rfl, fun rest hends => ?_⟩
  · simpa using hstarts.head?_ne (l := .word "lambda") (by decide) []
  rw [List.append_assoc]
  have hor : (operator .arithmetic).run (.mark "|" :: .word "None" :: rest) =
      some (true, .word "None" :: rest) := run_optionalMarkOf (by decide) _
  have hlast : Reads .factor (.word "None" :: rest) .other rest :=
    hnone.reads_factor (hends.mono fun l hl => by simp_all [endsSum])
  refine reads_chain (reads_operand_arithmetic (h.reads_factor (ends_cons (by decide) _))) ?_
  refine reads_moreOperands_cons hor (by simp) (reads_operand_arithmetic hlast)
    (reads_moreOperands_nil (fun l hl => ?_) _) s
  exact not_isOperator_of_endsSum l (hends l hl)

/-- A number with a sign. -/
theorem isSum_negative (b : Bool) : IsSum [.mark "-", .number b] := by
  refine ⟨⟨.mark "-", [.number b], rfl, by decide, by simp, by simp⟩, by simp, .other, rfl,
    fun rest hends => ?_⟩
  have hfactor : Reads .factor (.number b :: rest) .other rest :=
    (isPrimary_number b).reads_factor (hends.mono fun l hl => by simp_all [endsSum])
  have hsigned : Reads .factor (.mark "-" :: .number b :: rest) .other rest := by
    have hle := hfactor.length_le
    refine reads_of (by simp; omega) fun depth hdepth => ?_
    have hrun := hfactor.run depth (by simp [Rule.height] at hdepth ⊢; omega)
    have hsign : (optionalMarkOf ["+", "-", "~"]).run (.mark "-" :: .number b :: rest) =
        some (true, .number b :: rest) := run_optionalMarkOf (by decide) _
    simp [readRule, factor, hsign, hrun]
  refine reads_chain (reads_operand_arithmetic hsigned) (reads_moreOperands_nil (fun l hl => ?_) _)
  exact not_isOperator_of_endsSum l (hends l hl)

/-! ### Expressions -/

theorem reads_operands (hnot : ls.head? ≠ some (.word "not")) (hends : Ends endsOperands rest)
    (h : Reads (.chain .arithmetic) ls s rest) : Reads (.chain .logic) ls s rest := by
  have hcomparison : Reads (.chain .comparison) ls s rest :=
    reads_chain (reads_operand_comparison h) (reads_moreOperands_nil (fun l hl => by
      have := hends l hl
      simp_all [endsOperands]) s)
  refine reads_chain (reads_operand_logic hnot hcomparison)
    (reads_moreOperands_nil (fun l hl => ?_) s)
  have := hends l hl
  simp_all [endsOperands]

theorem IsSum.reads_operands (h : IsSum ls) : ∃ s : Shape, s.isStarred = false ∧
    ∀ rest, Ends endsOperands rest → Reads (.chain .logic) (ls ++ rest) s rest := by
  obtain ⟨s, hs, hreads⟩ := h.reads
  refine ⟨s, hs, fun rest hends => ?_⟩
  refine Code.reads_operands (h.starts.head?_ne (by decide) rest) hends (hreads _ ?_)
  exact hends.mono fun l hl => by simp_all [endsOperands]

/-- The lexemes are an expression. -/
structure IsExpression (ls : List Lexeme) : Prop where
  starts : Starts opensExpression ls
  reads : ∃ s : Shape, s.isStarred = false ∧
    ∀ rest, Ends endsExpression rest → Reads .expression (ls ++ rest) s rest

theorem reads_expression (hlambda : ls.head? ≠ some (.word "lambda"))
    (hif : rest.head? ≠ some (.word "if")) (h : Reads (.chain .logic) ls s rest) :
    Reads .expression ls s rest := by
  refine reads_of h.length_le fun depth hdepth => ?_
  have hrun := h.run depth (by simp [Rule.height] at hdepth ⊢; omega)
  simp [readRule, expression, optionalWord, run_optional_of_ne hlambda, run_optional_of_ne hif,
    hrun]

theorem IsSum.head?_ne_lambda (h : IsSum ls) (rest : List Lexeme) :
    (ls ++ rest).head? ≠ some (.word "lambda") := by
  have hlambda := h.not_lambda
  obtain ⟨l, more, rfl, -⟩ := h.starts
  simpa using hlambda

theorem IsSum.isExpression (h : IsSum ls) : IsExpression ls := by
  obtain ⟨s, hs, hreads⟩ := h.reads_operands
  refine ⟨h.starts, s, hs, fun rest hends => ?_⟩
  refine reads_expression (h.head?_ne_lambda rest) (hends.head?_ne (by decide)) (hreads _ ?_)
  exact hends.mono fun l hl => by simp_all [endsExpression]

theorem IsPrimary.reads_expression (h : IsPrimary ls s) (rest : List Lexeme)
    (hends : Ends endsExpression rest) : Reads .expression (ls ++ rest) s rest := by
  refine Code.reads_expression (h.starts.head?_ne (by decide) rest) (hends.head?_ne (by decide)) ?_
  refine Code.reads_operands (h.starts.head?_ne (by decide) rest) ?_ (h.reads_sum ?_)
  · exact hends.mono fun l hl => by simp_all [endsExpression]
  · exact hends.mono fun l hl => by simp_all [endsExpression, endsOperands]

theorem IsPrimary.isExpression (h : IsPrimary ls s) : IsExpression ls :=
  h.isSum.isExpression

theorem reads_conditional {u : Shape} {r₁ r₂ : List Lexeme}
    (hlambda : ls.head? ≠ some (.word "lambda"))
    (h : Reads (.chain .logic) ls s (.word "if" :: r₁))
    (h₁ : Reads (.chain .logic) r₁ t (.word "else" :: r₂))
    (h₂ : Reads .expression r₂ u rest) : Reads .expression ls .other rest := by
  have hle := h.length_le
  have hle₁ := h₁.length_le
  have hle₂ := h₂.length_le
  simp only [List.length_cons] at hle hle₁
  refine reads_of (by omega) fun depth hdepth => ?_
  have hrun := h.run depth (by simp [Rule.height] at hdepth ⊢; omega)
  have hrun₁ := h₁.run depth (by simp [Rule.height] at hdepth ⊢; omega)
  have hrun₂ := h₂.run depth (by simp [Rule.height] at hdepth ⊢; omega)
  simp [readRule, expression, optionalWord, word, run_optional_of_ne hlambda, hrun, hrun₁, hrun₂]

/-- A value where a subject is present. -/
theorem IsSum.ifPresent {subject : List Lexeme} (h : IsSum ls) (k : IsPrimary subject t) :
    IsExpression (ls ++ .word "if" ::
      (subject ++ [.word "is", .word "not", .word "None", .word "else", .word "None"])) := by
  have hnone : IsPrimary [.word "None"] .other := isPrimary_constant (by simp)
  obtain ⟨s, hs, hreads⟩ := h.reads_operands
  refine ⟨h.starts.append (by decide) (by decide) _, .other, rfl, fun rest hends => ?_⟩
  obtain ⟨u, -, hlast⟩ := hnone.isExpression.reads
  have htest : Reads (.chain .logic) (subject ++ (.word "is" :: .word "not" :: .word "None" ::
      .word "else" :: .word "None" :: rest)) .other (.word "else" :: .word "None" :: rest) := by
    have hop : (operator .comparison).run (.word "is" :: .word "not" :: .word "None" ::
        .word "else" :: .word "None" :: rest) =
          some (true, .word "None" :: .word "else" :: .word "None" :: rest) := by
      rfl
    have hright : Reads (.operand .comparison) ([.word "None"] ++ .word "else" :: .word "None" ::
        rest) .other (.word "else" :: .word "None" :: rest) :=
      reads_operand_comparison (hnone.reads_sum (ends_cons (by decide) _))
    have hnot : (subject ++ (.word "is" :: .word "not" :: .word "None" :: .word "else" ::
        .word "None" :: rest)).head? ≠ some (.word "not") := k.starts.head?_ne (by decide) _
    refine reads_chain (reads_operand_logic hnot (reads_chain (reads_operand_comparison
      (k.reads_sum (ends_cons (by decide) _))) (reads_moreOperands_cons hop (by simp) hright
        (reads_moreOperands_nil ?_ _) _))) (reads_moreOperands_nil ?_ _)
    · simp [isOperator, isOneOf]
    · simp [isOperator]
  have hfirst := hreads (.word "if" :: (subject ++ (.word "is" :: .word "not" ::
    .word "None" :: .word "else" :: .word "None" :: rest))) (ends_cons (by decide) _)
  have hexpression := reads_conditional (h.head?_ne_lambda _) hfirst htest (hlast _ hends)
  simpa using hexpression

theorem IsExpression.lambda (h : IsExpression ls) :
    IsExpression (.word "lambda" :: .mark ":" :: ls) := by
  obtain ⟨s, -, hreads⟩ := h.reads
  refine ⟨⟨_, _, rfl, by decide, by simp, by simp⟩, .other, rfl, fun rest hends => ?_⟩
  have hbody := hreads _ hends
  have hparameters : Reads (.parameters ":" { hasHints := false }) (.mark ":" :: (ls ++ rest))
      .other (ls ++ rest) := by
    refine reads_of (by simp) fun depth hdepth => ?_
    simp [readRule, parameters, optionalMark]
  have hle := hbody.length_le
  refine reads_of (by simp at hle ⊢; omega) fun depth hdepth => ?_
  have hrun := hbody.run depth (by simp [Rule.height] at hdepth ⊢; omega)
  have hparams := hparameters.run depth (by simp [Rule.height] at hdepth ⊢; omega)
  simp [readRule, expression, optionalWord, hparams, hrun]

/-- An expression that names no value. -/
theorem IsExpression.reads_named (h : IsExpression ls) : ∃ s : Shape, s.isStarred = false ∧
    ∀ rest, Ends endsExpression rest → Reads .named (ls ++ rest) s rest := by
  obtain ⟨s, hs, hreads⟩ := h.reads
  refine ⟨s, hs, fun rest hends => ?_⟩
  have hexpression := hreads _ hends
  have hnamed : ∀ w more, ls ++ rest ≠ .word w :: .mark ":=" :: more := by
    obtain ⟨l, more, rfl, -, hne, -⟩ := h.starts
    rintro w more' heq
    simp only [List.cons_append, List.cons.injEq] at heq
    cases more with
    | nil => exact hends.head?_ne (by decide : endsExpression (.mark ":=") = false) (by simp_all)
    | cons m more => exact hne (by simp_all)
  refine reads_of hexpression.length_le fun depth hdepth => ?_
  have hrun := hexpression.run depth (by simp [Rule.height] at hdepth ⊢; omega)
  simp only [readRule, named, StateT.run_bind, StateT.run_get, Option.pure_def, Option.bind_eq_bind,
    Option.bind_some]
  exact hrun

/-! ### Arguments and subscripts -/

/-- The lexemes are arguments through the closing parenthesis, the first of them at a stage. -/
def IsArguments (stage : Nat) (ls : List Lexeme) : Prop :=
  ∀ mayBeClauses rest, Reads (.arguments mayBeClauses stage) (ls ++ rest) .other rest

/-- What stands behind an argument: the closing parenthesis, or a comma and further arguments. -/
inductive IsMoreArguments (stage : Nat) : List Lexeme → Prop where
  | close : IsMoreArguments stage [.mark ")"]
  | comma {ls : List Lexeme} : IsArguments stage ls → IsMoreArguments stage (.mark "," :: ls)

theorem isArguments_nil (stage : Nat) : IsArguments stage [.mark ")"] := by
  intro mayBeClauses rest
  refine reads_of (by simp) fun depth hdepth => ?_
  simp [readRule, arguments, optionalMark]

/-- How reading arguments goes on behind one of them. -/
theorem IsMoreArguments.run {stage : Nat} (h : IsMoreArguments stage ls) (rest : List Lexeme)
    (depth : Nat) (hdepth : 16 * (ls ++ rest).length ≤ depth) :
    (do if ← optionalMark "," then rulesWithin depth (.arguments false stage)
        else
          mark ")"
          return .other : Reader Shape).run (ls ++ rest) = some (.other, rest) := by
  cases h with
  | close =>
    have hne : (Lexeme.mark ")" :: rest).head? ≠ some (.mark ",") := by simp
    simp [optionalMark, run_optional_of_ne hne, mark]
  | @comma ls hls =>
    have hrun := (hls false rest).run depth (by simp [Rule.height] at hdepth ⊢; omega)
    simp [optionalMark, hrun]

theorem IsMoreArguments.ends {stage : Nat} (h : IsMoreArguments stage ls) (rest : List Lexeme) :
    Ends endsExpression (ls ++ rest) ∧ (ls ++ rest).head? ≠ some (.mark "=") ∧
      (ls ++ rest).head? ≠ some (.word "for") ∧ (ls ++ rest).head? ≠ some (.word "async") := by
  cases h with
  | close => exact ⟨ends_cons (by decide) _, by simp, by simp, by simp⟩
  | comma => exact ⟨ends_cons (by decide) _, by simp, by simp, by simp⟩

theorem run_nextIsClause (hfor : ls.head? ≠ some (.word "for"))
    (hasync : ls.head? ≠ some (.word "async")) : nextIsClause.run ls = some (false, ls) := by
  simp only [nextIsClause, StateT.run_bind, StateT.run_get, Option.pure_def, Option.bind_eq_bind,
    Option.bind_some]
  split <;> simp_all

/-- An argument by name. -/
theorem IsExpression.keyword {w : String} {stage : Nat} (hw : isIdentifier w)
    (h : IsExpression ls) (k : IsMoreArguments (max 1 stage) ms) :
    IsArguments stage (.word w :: .mark "=" :: (ls ++ ms)) := by
  intro mayBeClauses rest
  obtain ⟨s, -, hreads⟩ := h.reads
  have hvalue := hreads _ (k.ends rest).1
  refine reads_of (by simp; omega) fun depth hdepth => ?_
  have hrun := hvalue.run depth (by simp [Rule.height] at hdepth ⊢; omega)
  have krun := k.run rest depth (by simp [Rule.height] at hdepth ⊢; omega)
  have hne : ∀ m, (Lexeme.word w :: .mark "=" :: (ls ++ (ms ++ rest))).head? ≠ some (.mark m) := by
    simp
  simp only [List.cons_append, List.append_assoc, readRule, arguments, StateT.run_bind, optionalMark,
    run_optional_of_ne (hne _), Option.bind_eq_bind, Option.bind_some, Bool.false_eq_true, if_false,
    StateT.run_get, Option.pure_def, run_require, hw, if_true, StateT.run_set, hrun]
  exact krun

/-- An argument by position. -/
theorem IsExpression.positional (h : IsExpression ls) (k : IsMoreArguments 0 ms) :
    IsArguments 0 (ls ++ ms) := by
  intro mayBeClauses rest
  obtain ⟨s, -, hreads⟩ := h.reads_named
  obtain ⟨hends, hassign, hfor, hasync⟩ := k.ends rest
  have hvalue := hreads _ hends
  have hstart : ∀ m, opensExpression (.mark m) = false →
      (ls ++ (ms ++ rest)).head? ≠ some (.mark m) := fun m hm => h.starts.head?_ne hm _
  have hkeyword : ∀ w more, ls ++ (ms ++ rest) ≠ .word w :: .mark "=" :: more := by
    obtain ⟨l, more, rfl, -, -, hne⟩ := h.starts
    rintro w more' heq
    simp only [List.cons_append, List.cons.injEq] at heq
    cases more with
    | nil => exact hassign (by simp_all)
    | cons m more => exact hne (by simp_all)
  refine reads_of (by simp; omega) fun depth hdepth => ?_
  have hrun := hvalue.run depth (by simp [Rule.height] at hdepth ⊢; omega)
  have krun := k.run rest depth (by simp [Rule.height] at hdepth ⊢; omega)
  have hclause := run_nextIsClause hfor hasync
  simp only [List.append_assoc, readRule, arguments, StateT.run_bind, optionalMark,
    run_optional_of_ne (hstart ")" (by decide)), run_optional_of_ne (hstart "**" (by decide)),
    run_optional_of_ne (hstart "*" (by decide)), Option.bind_eq_bind, Option.bind_some,
    Bool.false_eq_true, if_false, StateT.run_get, Option.pure_def, run_require, if_true, hrun,
    hclause, decide_true]
  exact krun

theorem Starts.run_nextIsNamed {opens : Lexeme → Bool} (h : Starts opens ls)
    (hl : l ≠ .mark ":=") (rest : List Lexeme) :
    nextIsNamed.run (ls ++ l :: rest) = some (false, ls ++ l :: rest) := by
  obtain ⟨first, more, rfl, -, hmore, -⟩ := h
  simp only [nextIsNamed, StateT.run_bind, StateT.run_get, Option.pure_def, Option.bind_eq_bind,
    Option.bind_some]
  split
  · rename_i heq
    cases more <;> simp_all
  · rfl

/-- The lexemes are subscripts through the closing bracket. -/
def IsSubscripts (ls : List Lexeme) : Prop :=
  ∀ rest, Reads .subscripts (ls ++ rest) .other rest

theorem IsExpression.run_subscript (h : IsExpression ls) {close : String}
    (hclose : close ∈ [",", "]"]) (rest : List Lexeme) (depth : Nat)
    (hdepth : 16 * (ls ++ .mark close :: rest).length + 10 ≤ depth) :
    (subscript (rulesWithin depth)).run (ls ++ .mark close :: rest) =
      some ((), .mark close :: rest) := by
  obtain ⟨s, -, hreads⟩ := h.reads
  have hne : close ≠ ":" ∧ close ≠ ":=" := by
    simp only [List.mem_cons, List.not_mem_nil, or_false] at hclose
    rcases hclose with rfl | rfl <;> decide
  have hends : Ends endsExpression (.mark close :: rest) := by
    simp only [List.mem_cons, List.not_mem_nil, or_false] at hclose
    rcases hclose with rfl | rfl <;> exact ends_cons (by decide) _
  have hrun := (hreads _ hends).run depth (by simp [Rule.height] at hdepth ⊢; omega)
  have hstar := h.starts.head?_ne (l := .mark "*") (by decide) (.mark close :: rest)
  have hcolon := h.starts.head?_ne (l := .mark ":") (by decide) (.mark close :: rest)
  have hcolon' : (Lexeme.mark close :: rest).head? ≠ some (.mark ":") := by simp [hne.1]
  have hnamed := h.starts.run_nextIsNamed (l := .mark close) (by simp [hne.2]) rest
  generalize ls ++ .mark close :: rest = all at *
  simp [subscript, optionalMark, isMark, run_optional_of_ne hstar, hcolon, hnamed, hrun,
    run_optional_of_ne hcolon']

theorem IsExpression.isSubscripts (h : IsExpression ls) : IsSubscripts (ls ++ [.mark "]"]) := by
  intro rest
  refine reads_of (by simp; omega) fun depth hdepth => ?_
  have hrun := h.run_subscript (by simp : "]" ∈ [",", "]"]) rest depth
    (by simp [Rule.height] at hdepth ⊢; omega)
  have hne : (Lexeme.mark "]" :: rest).head? ≠ some (.mark ",") := by simp
  simp [readRule, subscripts, hrun, optionalMark, mark, run_optional_of_ne hne]

theorem IsExpression.moreSubscripts (h : IsExpression ls) (k : IsSubscripts ms)
    (hms : Starts opensExpression ms) : IsSubscripts (ls ++ .mark "," :: ms) := by
  intro rest
  have hmore := k rest
  refine reads_of (by simp; omega) fun depth hdepth => ?_
  have hrun := h.run_subscript (by simp : "," ∈ [",", "]"]) (ms ++ rest) depth
    (by simp [Rule.height] at hdepth ⊢; omega)
  have krun := hmore.run depth (by simp [Rule.height] at hdepth ⊢; omega)
  have hne := hms.head?_ne (l := .mark "]") (by decide) rest
  simp [readRule, subscripts, hrun, optionalMark, run_optional_of_ne hne, krun]

/-! ### Displays -/

theorem IsExpression.run_starredOr (h : IsExpression ls) : ∃ s : Shape, s.isStarred = false ∧
    ∀ rest depth, Ends endsExpression rest → 16 * (ls ++ rest).length + 9 < depth →
      (starredOr (rulesWithin depth) .named).run (ls ++ rest) = some (s, rest) := by
  obtain ⟨s, hs, hreads⟩ := h.reads_named
  refine ⟨s, hs, fun rest depth hends hdepth => ?_⟩
  have hrun := (hreads _ hends).run depth (by simpa [Rule.height] using hdepth)
  have hstar := h.starts.head?_ne (l := .mark "*") (by decide) rest
  simp [starredOr, optionalMark, run_optional_of_ne hstar, hrun]

/-- The lexemes are elements through a closing mark. -/
def IsElements (close : String) (ls : List Lexeme) : Prop :=
  ∀ a b, ∃ c d, ∀ rest,
    Reads (.moreElements close (.sequence a b)) (ls ++ rest) (.sequence c d) rest

/-- What stands behind an element: the closing mark, or a comma and further elements. -/
inductive IsMoreElements (close : String) : List Lexeme → Prop where
  | close : IsMoreElements close [.mark close]
  | comma {ls : List Lexeme} : IsElements close ls → IsMoreElements close (.mark "," :: ls)

theorem IsMoreElements.ends {close : String} (hclose : close ∈ [")", "]"])
    (h : IsMoreElements close ls) (rest : List Lexeme) : Ends endsExpression (ls ++ rest) := by
  simp only [List.mem_cons, List.not_mem_nil, or_false] at hclose
  cases h with
  | close => rcases hclose with rfl | rfl <;> exact ends_cons (by decide) _
  | comma => exact ends_cons (by decide) _

theorem isElements_nil (close : String) : IsElements close [.mark close] := by
  refine fun a b => ⟨a, b, fun rest => reads_of (by simp) fun depth hdepth => ?_⟩
  simp [readRule, moreElements, optionalMark]

theorem IsExpression.elements {close : String} (hclose : close ∈ [")", "]"]) (h : IsExpression ls)
    (k : IsMoreElements close ms) : IsElements close (ls ++ ms) := by
  intro a b
  obtain ⟨s, -, hrun⟩ := h.run_starredOr
  have hstart : ∀ rest, (ls ++ (ms ++ rest)).head? ≠ some (.mark close) := by
    simp only [List.mem_cons, List.not_mem_nil, or_false] at hclose
    rcases hclose with rfl | rfl <;> exact fun rest => h.starts.head?_ne (by decide) _
  have hcomma : close ≠ "," := by
    simp only [List.mem_cons, List.not_mem_nil, or_false] at hclose
    rcases hclose with rfl | rfl <;> decide
  have hends := k.ends hclose
  cases k with
  | close =>
    refine ⟨(Shape.sequence a b).isAssignable && s.isAssignable,
      (Shape.sequence a b).isDeletable && s.isDeletable, fun rest => reads_of (by simp; omega)
      fun depth hdepth => ?_⟩
    have hrun := hrun (.mark close :: rest) depth (hends rest)
      (by simp [Rule.height] at hdepth ⊢; omega)
    have hne : (Lexeme.mark close :: rest).head? ≠ some (.mark ",") := by simpa using hcomma
    have hstart := hstart rest
    rw [List.singleton_append] at hstart
    simp [readRule, moreElements, optionalMark, run_optional_of_ne hstart, hrun, mark,
      run_optional_of_ne hne, Shape.push]
  | @comma ms hms =>
    obtain ⟨c, d, hmore⟩ := hms ((Shape.sequence a b).isAssignable && s.isAssignable)
      ((Shape.sequence a b).isDeletable && s.isDeletable)
    refine ⟨c, d, fun rest => reads_of (by simp; omega) fun depth hdepth => ?_⟩
    have hrun := hrun (.mark "," :: (ms ++ rest)) depth (hends rest)
      (by simp [Rule.height] at hdepth ⊢; omega)
    have krun := (hmore rest).run depth (by simp [Rule.height] at hdepth ⊢; omega)
    have hstart := hstart rest
    simp only [List.cons_append] at hstart
    simp [readRule, moreElements, optionalMark, run_optional_of_ne hstart, hrun, Shape.push, krun]

/-- A list display without elements. -/
theorem isPrimary_nil : IsPrimary [.mark "[", .mark "]"] Shape.empty := by
  refine isPrimary_of_atom ⟨_, _, rfl, by decide, by simp, by simp⟩ rfl fun {rest depth} _ => ?_
  simp [atom, listDisplay, mark, optionalMark]

theorem run_nextIsClause_of_isMoreElements {close : String} (h : IsMoreElements close ls)
    (rest : List Lexeme) : nextIsClause.run (ls ++ rest) = some (false, ls ++ rest) := by
  cases h <;> exact run_nextIsClause (by simp) (by simp)

/-- A list display. -/
theorem IsExpression.display (h : IsExpression ls) (k : IsMoreElements "]" ms) :
    ∃ s, IsPrimary (.mark "[" :: (ls ++ ms)) s := by
  obtain ⟨s, -, hrun⟩ := h.run_starredOr
  have hends := k.ends (by simp)
  have hclause := run_nextIsClause_of_isMoreElements k
  have hstarts : Starts opensAtom (.mark "[" :: (ls ++ ms)) := by
    refine ⟨_, _, rfl, by decide, ?_, ?_⟩
    · exact h.starts.head?_ne (by decide) _
    · exact h.starts.head?_ne (by decide) _
  cases k with
  | close =>
    refine ⟨Shape.empty.push s, isPrimary_of_atom hstarts rfl fun {rest depth} hdepth => ?_⟩
    have hrun := hrun (.mark "]" :: rest) depth (hends rest)
      (by simp at hdepth ⊢; omega)
    have hne : (Lexeme.mark "]" :: rest).head? ≠ some (.mark ",") := by simp
    have hclause := hclause rest
    have hstart := h.starts.head?_ne (l := .mark "]") (by decide) (.mark "]" :: rest)
    simp only [List.cons_append, List.nil_append] at hclause
    simp [atom, listDisplay, mark, optionalMark, run_optional_of_ne hstart, hrun, displayRest,
      run_optional_of_ne hne, hclause]
  | @comma ms hms =>
    obtain ⟨c, d, hmore⟩ := hms (Shape.empty.isAssignable && s.isAssignable)
      (Shape.empty.isDeletable && s.isDeletable)
    refine ⟨.sequence c d, isPrimary_of_atom hstarts rfl fun {rest depth} hdepth => ?_⟩
    have hrun := hrun (.mark "," :: (ms ++ rest)) depth (hends rest)
      (by simp at hdepth ⊢; omega)
    have krun := (hmore rest).run depth (by simp [Rule.height] at hdepth ⊢; omega)
    have hstart := h.starts.head?_ne (l := .mark "]") (by decide) (.mark "," :: (ms ++ rest))
    simp [atom, listDisplay, mark, optionalMark, run_optional_of_ne hstart, hrun, displayRest,
      Shape.push, krun]

/-- Several values in parentheses, or a single one with a comma behind it. -/
theorem IsExpression.tuple (h : IsExpression ls) (k : IsElements ")" ms) :
    ∃ s, IsPrimary (.mark "(" :: (ls ++ .mark "," :: ms)) s := by
  obtain ⟨s, -, hrun⟩ := h.run_starredOr
  have hstarts : Starts opensAtom (.mark "(" :: (ls ++ .mark "," :: ms)) := by
    refine ⟨_, _, rfl, by decide, ?_, ?_⟩
    · exact h.starts.head?_ne (by decide) _
    · exact h.starts.head?_ne (by decide) _
  obtain ⟨c, d, hmore⟩ := k (Shape.empty.isAssignable && s.isAssignable)
    (Shape.empty.isDeletable && s.isDeletable)
  refine ⟨.sequence c d, isPrimary_of_atom hstarts rfl fun {rest depth} hdepth => ?_⟩
  have hrun := hrun (.mark "," :: (ms ++ rest)) depth
    (ends_cons (by decide) _) (by simp at hdepth ⊢; omega)
  have krun := (hmore rest).run depth (by simp [Rule.height] at hdepth ⊢; omega)
  have hclose := h.starts.head?_ne (l := .mark ")") (by decide) (.mark "," :: (ms ++ rest))
  have hyield := h.starts.head?_ne (l := .word "yield") (by decide) (.mark "," :: (ms ++ rest))
  rw [List.append_assoc, List.cons_append]
  generalize ls ++ .mark "," :: (ms ++ rest) = all at *
  simp [atom, parenthesized, mark, optionalMark, isWord, run_optional_of_ne hclose, hyield, hrun,
    displayRest, Shape.push, krun]

/-! ### Comprehensions -/

/-- A name as what a loop assigns to. -/
theorem run_targetList {item : String} (hitem : isIdentifier item) (rest : List Lexeme)
    (depth : Nat) (hdepth : 16 * (Lexeme.word item :: .word "in" :: rest).length + 3 < depth) :
    (targetList (rulesWithin depth)).run (.word item :: .word "in" :: rest) =
      some (.name, .word "in" :: rest) := by
  have htarget : Reads (.chain .arithmetic) ([.word item] ++ .word "in" :: rest) .name
      (.word "in" :: rest) := (isPrimary_name hitem).reads_sum (ends_cons (by decide) _)
  have hrun := htarget.run depth (by simpa [Rule.height] using hdepth)
  have hstar : (Lexeme.word item :: .word "in" :: rest).head? ≠ some (.mark "*") := by simp
  have hcomma : (Lexeme.word "in" :: rest).head? ≠ some (.mark ",") := by simp
  rw [List.singleton_append] at hrun
  simp [targetList, elements, starredOr, optionalMark, run_optional_of_ne hstar,
    run_optional_of_ne hcomma, hrun, Shape.isAssignable]

theorem reads_clauses {item : String} (hitem : isIdentifier item) (h : IsSum ls)
    (rest : List Lexeme) :
    Reads .clauses (.word "for" :: .word item :: .word "in" :: (ls ++ .mark "]" :: rest)) .other
      (.mark "]" :: rest) := by
  obtain ⟨s, -, hsource⟩ := h.reads_operands
  have hsource := hsource (.mark "]" :: rest) (ends_cons (by decide) _)
  have hmore : Reads .moreClauses (.mark "]" :: rest) .other (.mark "]" :: rest) := by
    refine reads_of (Nat.le_refl _) fun depth hdepth => ?_
    have hif : (Lexeme.mark "]" :: rest).head? ≠ some (.word "if") := by simp
    have hclause : nextIsClause.run (.mark "]" :: rest) = some (false, .mark "]" :: rest) :=
      run_nextIsClause (by simp) (by simp)
    simp [readRule, moreClauses, optionalWord, run_optional_of_ne hif, hclause]
  refine reads_of (by simp; omega) fun depth hdepth => ?_
  have htarget := run_targetList hitem (ls ++ .mark "]" :: rest) depth
    (by simp [Rule.height] at hdepth ⊢; omega)
  have hrun := hsource.run depth (by simp [Rule.height] at hdepth ⊢; omega)
  have krun := hmore.run depth (by simp [Rule.height] at hdepth ⊢; omega)
  have hasync : (Lexeme.word "for" :: .word item :: .word "in" ::
      (ls ++ .mark "]" :: rest)).head? ≠ some (.word "async") := by simp
  simp [readRule, clauses, optionalWord, run_optional_of_ne hasync, word, htarget, hrun, krun]

/-- A value for each item of a source. -/
theorem IsExpression.each {item : String} (h : IsExpression ls) (hitem : isIdentifier item)
    (k : IsSum ms) : IsPrimary
      (.mark "[" :: (ls ++ .word "for" :: .word item :: .word "in" :: (ms ++ [.mark "]"])))
      .other := by
  obtain ⟨s, hs, hrun⟩ := h.run_starredOr
  refine isPrimary_of_atom ⟨_, _, rfl, by decide, h.starts.head?_ne (by decide) _,
    h.starts.head?_ne (by decide) _⟩ rfl fun {rest depth} hdepth => ?_
  have hrun := hrun (.word "for" :: .word item :: .word "in" :: (ms ++ .mark "]" :: rest))
    depth (ends_cons (by decide) _) (by simp at hdepth ⊢; omega)
  have krun := (reads_clauses hitem k rest).run depth (by simp [Rule.height] at hdepth ⊢; omega)
  have hclose := h.starts.head?_ne (l := .mark "]") (by decide)
    (.word "for" :: .word item :: .word "in" :: (ms ++ .mark "]" :: rest))
  have hclause : nextIsClause.run (.word "for" :: .word item :: .word "in" ::
      (ms ++ .mark "]" :: rest)) = some (true, .word "for" :: .word item :: .word "in" ::
        (ms ++ .mark "]" :: rest)) := rfl
  have hcomma : (Lexeme.word "for" :: .word item :: .word "in" :: (ms ++ .mark "]" :: rest)).head? ≠
      some (.mark ",") := by simp
  simp [atom, listDisplay, mark, optionalMark, run_optional_of_ne hclose, hrun, displayRest,
    run_optional_of_ne hcomma, hclause, hs, krun]

/-! ### Tables -/

/-- The lexemes are entries of a table, with a comma behind each, through the closing brace. -/
def IsEntries (ls : List Lexeme) : Prop :=
  ∀ rest, Reads .moreEntries (ls ++ rest) .other rest

theorem isEntries_nil : IsEntries [.mark "\x7d"] := by
  refine fun rest => reads_of (by simp) fun depth hdepth => ?_
  simp [readRule, moreEntries, optionalMark]

theorem IsExpression.entry {value : List Lexeme} (h : IsExpression ls) (hvalue : IsExpression value)
    (k : IsEntries ms) : IsEntries (ls ++ .mark ":" :: (value ++ .mark "," :: ms)) := by
  intro rest
  obtain ⟨s, -, hkey⟩ := h.reads
  obtain ⟨t, -, hvalue⟩ := hvalue.reads
  have hkey := hkey (.mark ":" :: (value ++ .mark "," :: (ms ++ rest)))
    (ends_cons (by decide) _)
  have hvalue := hvalue (.mark "," :: (ms ++ rest)) (ends_cons (by decide) _)
  have hclose := h.starts.head?_ne (l := .mark "\x7d") (by decide)
    (.mark ":" :: (value ++ .mark "," :: (ms ++ rest)))
  have hstars := h.starts.head?_ne (l := .mark "**") (by decide)
    (.mark ":" :: (value ++ .mark "," :: (ms ++ rest)))
  refine reads_of (by simp; omega) fun depth hdepth => ?_
  have hrun := hkey.run depth (by simp [Rule.height] at hdepth ⊢; omega)
  have hrun' := hvalue.run depth (by simp [Rule.height] at hdepth ⊢; omega)
  have krun := (k rest).run depth (by simp [Rule.height] at hdepth ⊢; omega)
  simp [readRule, moreEntries, optionalMark, run_optional_of_ne hclose, run_optional_of_ne hstars,
    hrun, mark, hrun', entriesEnd, krun]

theorem isPrimary_noEntries : IsPrimary [.mark "\x7b", .mark "\x7d"] .other := by
  refine isPrimary_of_atom ⟨_, _, rfl, by decide, by simp, by simp⟩ rfl fun {rest depth} _ => ?_
  simp [atom, braces, mark, optionalMark]

theorem IsExpression.table {value : List Lexeme} (h : IsExpression ls) (hvalue : IsExpression value)
    (k : IsEntries ms) :
    IsPrimary (.mark "\x7b" :: (ls ++ .mark ":" :: (value ++ .mark "," :: ms))) .other := by
  obtain ⟨s, hs, hkey⟩ := h.run_starredOr
  obtain ⟨t, -, hvalue⟩ := hvalue.reads
  refine isPrimary_of_atom ⟨_, _, rfl, by decide, h.starts.head?_ne (by decide) _,
    h.starts.head?_ne (by decide) _⟩ rfl fun {rest depth} hdepth => ?_
  have hvalue := hvalue (.mark "," :: (ms ++ rest)) (ends_cons (by decide) _)
  have hrun := hkey (.mark ":" :: (value ++ .mark "," :: (ms ++ rest))) depth
    (ends_cons (by decide) _) (by simp at hdepth ⊢; omega)
  have hrun' := hvalue.run depth (by simp [Rule.height] at hdepth ⊢; omega)
  have krun := (k rest).run depth (by simp [Rule.height] at hdepth ⊢; omega)
  have hclose := h.starts.head?_ne (l := .mark "\x7d") (by decide)
    (.mark ":" :: (value ++ .mark "," :: (ms ++ rest)))
  have hstars := h.starts.head?_ne (l := .mark "**") (by decide)
    (.mark ":" :: (value ++ .mark "," :: (ms ++ rest)))
  have hnamed := h.starts.run_nextIsNamed (l := .mark ":") (by decide)
    (value ++ .mark "," :: (ms ++ rest))
  have hclause : nextIsClause.run (.mark "," :: (ms ++ rest)) =
      some (false, .mark "," :: (ms ++ rest)) := run_nextIsClause (by simp) (by simp)
  simp [atom, braces, mark, optionalMark, run_optional_of_ne hclose, run_optional_of_ne hstars,
    hnamed, hrun, hs, hrun', hclause, entriesEnd, krun]

end SchemaClient.Code
