import Mathlib
import SchemaClient.Descriptor
import SchemaClient.Name
import SchemaClient.Text.Character

/-! Reading an expression: names, attributes, calls, tests for absence, conditionals and list
comprehensions, with their precedence and to any depth. What the text of an `Expr` is read as.

This is the grammar without the limits of an implementation: `Code.wellFormed`, which decides whether
a module is accepted, also bounds how deep brackets may stand. -/
namespace SchemaClient.Expression

/-! ### Tokens -/

inductive Token where
  | word (text : String)
  | mark (c : Char)
deriving DecidableEq, Repr

/-- The word that was collected, back to front. -/
def flush (word : List Char) : List Token :=
  if word.isEmpty then [] else [.word (.ofList word.reverse)]

/-- Words are as long as they can be. Of the other characters all but the space are marks. -/
def tokensFrom (word : List Char) : List Char → List Token
  | [] => flush word
  | c :: rest =>
    if Text.isIdentifierPart c then tokensFrom (c :: word) rest
    else if c = ' ' then flush word ++ tokensFrom [] rest
    else flush word ++ .mark c :: tokensFrom [] rest

def tokens (cs : List Char) : List Token :=
  tokensFrom [] cs

def isName (w : String) : Bool :=
  Text.isIdentifier w.toList && !Name.keywords.contains w

/-! ### Grammar -/

inductive Term where
  | none
  | name (text : String)
  | member (object : Term) (name : String)
  | call (function argument : Term)
  | isNot (left right : Term)
  | conditional (value test otherwise : Term)
  | comprehension (body : Term) (item : String) (source : Term)
deriving DecidableEq, Repr

/-- The term at the front of the tokens, and the tokens behind it. -/
abbrev Reader := List Token → Option (Term × List Token)

/-- The rules of the grammar, loosest first. -/
inductive Rule where
  | expression | comparison | primary
  /-- Attributes and calls behind a term. -/
  | trailers (head : Term)

def closed (mark : Char) (e : Term) : Reader
  | .mark c :: rest => if c = mark then some (e, rest) else none
  | _ => none

/-- A conditional binds less than a comparison, and behind `else` there may be another one. -/
def expression (rules : Rule → Reader) : Reader := fun ts => do
  match ← rules .comparison ts with
  | (value, .word "if" :: ts) =>
    match ← rules .comparison ts with
    | (test, .word "else" :: ts) =>
      let (otherwise, ts) ← rules .expression ts
      return (.conditional value test otherwise, ts)
    | _ => none
  | (value, ts) => return (value, ts)

def comparison (rules : Rule → Reader) : Reader := fun ts => do
  match ← rules .primary ts with
  | (left, .word "is" :: .word "not" :: ts) =>
    let (right, ts) ← rules .primary ts
    return (.isNot left right, ts)
  | (left, ts) => return (left, ts)

/-- What stands in square brackets. The source of the items is no bare conditional. -/
def comprehension (rules : Rule → Reader) : Reader := fun ts => do
  match ← rules .expression ts with
  | (body, .word "for" :: .word item :: .word "in" :: ts) =>
    guard (isName item)
    let (source, ts) ← rules .comparison ts
    closed ']' (.comprehension body item source) ts
  | _ => none

def primary (rules : Rule → Reader) : Reader
  | .word w :: ts =>
    if w = "None" then rules (.trailers .none) ts
    else if isName w then rules (.trailers (.name w)) ts
    else none
  | .mark '(' :: ts => do
    let (e, ts) ← rules .expression ts
    let (e, ts) ← closed ')' e ts
    rules (.trailers e) ts
  | .mark '[' :: ts => do
    let (e, ts) ← comprehension rules ts
    rules (.trailers e) ts
  | _ => none

def trailers (rules : Rule → Reader) (head : Term) : Reader
  | .mark '.' :: .word w :: ts => if isName w then rules (.trailers (.member head w)) ts else none
  | .mark '.' :: _ => none
  | .mark '(' :: ts => do
    let (argument, ts) ← rules .expression ts
    let (e, ts) ← closed ')' (.call head argument) ts
    rules (.trailers e) ts
  | ts => some (head, ts)

/-- The rules, nested at most so deep. -/
def rulesWithin : Nat → Rule → Reader
  | 0, _ => fun _ => none
  | depth + 1, .expression => expression (rulesWithin depth)
  | depth + 1, .comparison => comparison (rulesWithin depth)
  | depth + 1, .primary => primary (rulesWithin depth)
  | depth + 1, .trailers head => trailers (rulesWithin depth) head

/-- The term that the whole text is. There are at most four rules between two tokens. -/
def read (text : String) : Option Term :=
  let ts := tokens text.toList
  match rulesWithin (4 * ts.length + 4) .expression ts with
  | some (e, []) => some e
  | _ => none

/-! ### Tokens of a text -/

theorem tokensFrom_append (word : List Char) (cs : List Char) {c : Char}
    (hc : Text.isIdentifierPart c = false) (rest : List Char) :
    tokensFrom word (cs ++ c :: rest) = tokensFrom word cs ++ tokensFrom [] (c :: rest) := by
  induction cs generalizing word with
  | nil =>
    have hf : flush [] = [] := rfl
    simp only [List.nil_append, tokensFrom, hc, hf, Bool.false_eq_true, if_false]
    split_ifs <;> rfl
  | cons d cs ih =>
    simp only [List.cons_append, tokensFrom, ih]
    split_ifs <;> simp

theorem tokens_append_space (cs rest : List Char) :
    tokens (cs ++ ' ' :: rest) = tokens cs ++ tokens rest :=
  tokensFrom_append [] cs (by decide) rest

theorem tokens_append_mark (cs : List Char) {c : Char} (hc : Text.isIdentifierPart c = false)
    (hs : c ≠ ' ') (rest : List Char) :
    tokens (cs ++ c :: rest) = tokens cs ++ .mark c :: tokens rest := by
  rw [tokens, tokensFrom_append [] cs hc, tokensFrom, if_neg (by simp [hc]), if_neg hs]
  rfl

theorem tokensFrom_word (word cs : List Char) (h : ∀ c ∈ cs, Text.isIdentifierPart c) :
    tokensFrom word cs = flush (cs.reverse ++ word) := by
  induction cs generalizing word with
  | nil => rfl
  | cons c cs ih =>
    rw [tokensFrom, if_pos (h c (by simp)), ih _ fun d hd => h d (by simp [hd])]
    simp

theorem isIdentifierPart_of_start {c : Char} (h : Text.isIdentifierStart c) :
    Text.isIdentifierPart c := by
  unfold Text.isIdentifierStart at h
  unfold Text.isIdentifierPart
  split_ifs with hc
  · rw [if_pos hc, Bool.or_eq_true] at h
    rcases h with h | h
    · simp [Char.isAlphanum, h]
    · simp [h]
  · rw [if_neg hc] at h
    simp [h]

theorem tokens_name {w : String} (h : isName w) : tokens w.toList = [.word w] := by
  have hw : Text.isIdentifier w.toList := (Bool.and_eq_true_iff.mp h).1
  obtain ⟨c, cs, hcs⟩ : ∃ c cs, w.toList = c :: cs := by
    cases hcs : w.toList with
    | nil => simp [hcs, Text.isIdentifier] at hw
    | cons c cs => exact ⟨c, cs, rfl⟩
  have hparts : ∀ d ∈ w.toList, Text.isIdentifierPart d := by
    rw [hcs, Text.isIdentifier, Bool.and_eq_true, List.all_eq_true] at hw
    rw [hcs, List.forall_mem_cons]
    exact ⟨isIdentifierPart_of_start hw.1, hw.2⟩
  have hne : w.toList ≠ [] := by simp [hcs]
  rw [tokens, tokensFrom_word [] _ hparts, List.append_nil, flush,
    if_neg (by simpa using hne), List.reverse_reverse, String.ofList_toList]

/-- The tokens of the text of an expression. -/
def tokensOf : Expr → List Token
  | .atom text => tokens text.toList
  | .call function argument =>
    tokens function.toList ++ .mark '(' :: (tokensOf argument ++ [.mark ')'])
  | .ifPresent subject value =>
    tokensOf value ++ .word "if" ::
      (tokensOf subject ++ [.word "is", .word "not", .word "None", .word "else", .word "None"])
  | .each body item source =>
    .mark '[' :: (tokensOf body ++ .word "for" ::
      (tokens item.toList ++ .word "in" :: (tokensOf source ++ [.mark ']'])))

theorem tokens_text (e : Expr) : tokens e.text.toList = tokensOf e := by
  induction e with
  | atom text => rfl
  | call function argument ih =>
    have htext : (Expr.call function argument).text.toList =
        function.toList ++ '(' :: (argument.text.toList ++ ')' :: []) := by
      simp [Expr.text]
    rw [htext, tokens_append_mark _ (by decide) (by decide),
      tokens_append_mark _ (by decide) (by decide), ih]
    rfl
  | ifPresent subject value ihs ihv =>
    have htext : (Expr.ifPresent subject value).text.toList =
        value.text.toList ++ ' ' :: ("if".toList ++ ' ' ::
          (subject.text.toList ++ ' ' :: "is not None else None".toList)) := by
      simp [Expr.text]
    rw [htext, tokens_append_space, tokens_append_space, tokens_append_space, ihs, ihv]
    rfl
  | each body item source ihb ihs =>
    have htext : (Expr.each body item source).text.toList =
        [] ++ '[' :: (body.text.toList ++ ' ' :: ("for".toList ++ ' ' :: (item.toList ++ ' ' ::
          ("in".toList ++ ' ' :: (source.text.toList ++ ']' :: []))))) := by
      simp [Expr.text]
    rw [htext, tokens_append_mark _ (by decide) (by decide), tokens_append_space,
      tokens_append_space, tokens_append_space, tokens_append_space,
      tokens_append_mark _ (by decide) (by decide), ihb, ihs]
    rfl

/-! ### What a text is read as -/

/-- The term that an expression stands for. `loose` marks a bare conditional: it may stand between
brackets, but neither in front of a condition nor as the source of items. -/
inductive Reads : (loose : Bool) → Expr → Term → Prop where
  | name {x : String} : isName x → Reads false (.atom x) (.name x)
  | member {x a : String} : isName x → isName a →
      Reads false (.atom (x ++ "." ++ a)) (.member (.name x) a)
  | call {loose : Bool} {f : String} {argument : Expr} {t : Term} : isName f →
      Reads loose argument t → Reads false (.call f argument) (.call (.name f) t)
  | each {loose : Bool} {body source : Expr} {item : String} {b s : Term} : Reads loose body b →
      isName item → Reads false source s →
      Reads false (.each body item source) (.comprehension b item s)
  | ifPresent {subject value : Expr} {s v : Term} : Reads false subject s → Reads false value v →
      Reads true (.ifPresent subject value) (.conditional v (.isNot s .none) .none)

/-- Neither an attribute nor a call goes on. -/
def Stops (rest : List Token) : Prop :=
  rest.head? ≠ some (.mark '.') ∧ rest.head? ≠ some (.mark '(')

/-- No operator goes on either. -/
def Ends (rest : List Token) : Prop :=
  Stops rest ∧ rest.head? ≠ some (.word "is") ∧ rest.head? ≠ some (.word "if")

theorem trailers_of_stops {rest : List Token} (h : Stops rest) (k : Nat) (head : Term) :
    rulesWithin (k + 1) (.trailers head) rest = some (head, rest) := by
  show trailers (rulesWithin k) head rest = some (head, rest)
  unfold trailers
  split
  · simp [Stops] at h
  · simp [Stops] at h
  · simp [Stops] at h
  · rfl

theorem comparison_of_primary {k : Nat} {ts rest : List Token} {t : Term}
    (h : rulesWithin k .primary ts = some (t, rest)) (hrest : rest.head? ≠ some (.word "is")) :
    rulesWithin (k + 1) .comparison ts = some (t, rest) := by
  simp only [rulesWithin, comparison, h, Option.bind_eq_bind, Option.bind_some]
  split
  · simp_all
  · simp_all

theorem expression_of_comparison {k : Nat} {ts rest : List Token} {t : Term}
    (h : rulesWithin k .comparison ts = some (t, rest)) (hrest : rest.head? ≠ some (.word "if")) :
    rulesWithin (k + 1) .expression ts = some (t, rest) := by
  simp only [rulesWithin, expression, h, Option.bind_eq_bind, Option.bind_some]
  split
  · simp_all
  · simp_all

theorem expression_of_primary {k : Nat} {ts rest : List Token} {t : Term} (hrest : Ends rest)
    (h : rulesWithin k .primary ts = some (t, rest)) :
    rulesWithin (k + 2) .expression ts = some (t, rest) :=
  expression_of_comparison (comparison_of_primary h hrest.2.1) hrest.2.2

theorem primary_none {rest : List Token} (hrest : Stops rest) (k : Nat) :
    rulesWithin (k + 2) .primary (.word "None" :: rest) = some (.none, rest) :=
  trailers_of_stops hrest k .none

theorem primary_name {w : String} (hw : isName w) (k : Nat) (ts : List Token) :
    rulesWithin (k + 1) .primary (.word w :: ts) = rulesWithin k (.trailers (.name w)) ts := by
  have hnone : w ≠ "None" := by
    rintro rfl
    exact absurd hw (by decide)
  simp [rulesWithin, primary, hw, hnone]

theorem primary_member {x a : String} (hx : isName x) (ha : isName a) {rest : List Token}
    (hrest : Stops rest) (k : Nat) :
    rulesWithin (k + 3) .primary (.word x :: .mark '.' :: .word a :: rest) =
      some (.member (.name x) a, rest) := by
  rw [primary_name hx]
  have htrailer : rulesWithin (k + 2) (.trailers (.name x)) (.mark '.' :: .word a :: rest) =
      rulesWithin (k + 1) (.trailers (.member (.name x) a)) rest := by
    simp [rulesWithin, trailers, ha]
  rw [htrailer, trailers_of_stops hrest]

theorem primary_call {f : String} (hf : isName f) {k : Nat} {ts rest : List Token} {t : Term}
    (h : rulesWithin (k + 1) .expression ts = some (t, .mark ')' :: rest)) (hrest : Stops rest) :
    rulesWithin (k + 3) .primary (.word f :: .mark '(' :: ts) =
      some (.call (.name f) t, rest) := by
  rw [primary_name hf]
  have htrailer : rulesWithin (k + 2) (.trailers (.name f)) (.mark '(' :: ts) =
      rulesWithin (k + 1) (.trailers (.call (.name f) t)) rest := by
    simp only [rulesWithin] at h
    simp [rulesWithin, trailers, h, closed]
  rw [htrailer, trailers_of_stops hrest]

theorem primary_each {item : String} (hitem : isName item) {k : Nat} {ts us rest : List Token}
    {b s : Term}
    (hb : rulesWithin (k + 1) .expression ts =
      some (b, .word "for" :: .word item :: .word "in" :: us))
    (hs : rulesWithin (k + 1) .comparison us = some (s, .mark ']' :: rest)) (hrest : Stops rest) :
    rulesWithin (k + 2) .primary (.mark '[' :: ts) = some (.comprehension b item s, rest) := by
  have hbody : comprehension (rulesWithin (k + 1)) ts = some (.comprehension b item s, rest) := by
    simp [comprehension, hb, hs, hitem, closed]
  have hprimary : rulesWithin (k + 2) .primary (.mark '[' :: ts) =
      rulesWithin (k + 1) (.trailers (.comprehension b item s)) rest := by
    simp [rulesWithin, primary, hbody]
  rw [hprimary, trailers_of_stops hrest]

theorem comparison_isNotNone {k : Nat} {ts rest : List Token} {s : Term}
    (h : rulesWithin (k + 2) .primary ts =
      some (s, .word "is" :: .word "not" :: .word "None" :: rest)) (hrest : Stops rest) :
    rulesWithin (k + 3) .comparison ts = some (.isNot s .none, rest) := by
  have hnone := primary_none hrest k
  show comparison (rulesWithin (k + 2)) ts = some (.isNot s .none, rest)
  simp [comparison, h, hnone]

theorem expression_orNone {k : Nat} {ts us rest : List Token} {v test : Term}
    (hv : rulesWithin (k + 4) .comparison ts = some (v, .word "if" :: us))
    (ht : rulesWithin (k + 4) .comparison us = some (test, .word "else" :: .word "None" :: rest))
    (hrest : Ends rest) :
    rulesWithin (k + 5) .expression ts = some (.conditional v test .none, rest) := by
  have hnone := expression_of_primary hrest (primary_none hrest.1 k)
  show expression (rulesWithin (k + 4)) ts = some (.conditional v test .none, rest)
  simp [expression, hv, ht, hnone]

theorem tokens_member {x a : String} (hx : isName x) (ha : isName a) :
    tokens (x ++ "." ++ a).toList = [.word x, .mark '.', .word a] := by
  have htext : (x ++ "." ++ a).toList = x.toList ++ '.' :: a.toList := by simp
  rw [htext, tokens_append_mark _ (by decide) (by decide), tokens_name hx, tokens_name ha]
  rfl

/-- What reading an expression asks of the depth and of the tokens behind it. Four rules for each
token suffice, and two more where the expression may be loose. -/
theorem rulesWithin_tokensOf {loose : Bool} {e : Expr} {t : Term} (h : Reads loose e t) :
    ∀ (k : Nat) (rest : List Token), 4 * (tokensOf e).length ≤ k →
      (loose = false → Stops rest → rulesWithin k .primary (tokensOf e ++ rest) = some (t, rest)) ∧
      (Ends rest → rulesWithin (k + 2) .expression (tokensOf e ++ rest) = some (t, rest)) := by
  -- a tight expression is read as a primary, whence as a whole expression too
  have tight : ∀ {e : Expr} {t : Term} {k : Nat} {rest : List Token},
      (Stops rest → rulesWithin k .primary (tokensOf e ++ rest) = some (t, rest)) →
      (false = false → Stops rest →
        rulesWithin k .primary (tokensOf e ++ rest) = some (t, rest)) ∧
      (Ends rest → rulesWithin (k + 2) .expression (tokensOf e ++ rest) = some (t, rest)) :=
    fun h => ⟨fun _ => h, fun hrest => expression_of_primary hrest (h hrest.1)⟩
  induction h with
  | @name x hx =>
    intro k rest hk
    rw [tokensOf, tokens_name hx, List.length_singleton] at hk
    obtain ⟨k, rfl⟩ : ∃ j, k = j + 2 := ⟨k - 2, by omega⟩
    refine tight fun hrest => ?_
    rw [tokensOf, tokens_name hx, List.singleton_append, primary_name hx, trailers_of_stops hrest]
  | @member x a hx ha =>
    intro k rest hk
    rw [tokensOf, tokens_member hx ha, List.length_cons] at hk
    obtain ⟨k, rfl⟩ : ∃ j, k = j + 3 := ⟨k - 3, by omega⟩
    refine tight fun hrest => ?_
    rw [tokensOf, tokens_member hx ha]
    exact primary_member hx ha hrest k
  | @call loose f argument t hf _ ih =>
    intro k rest hk
    rw [tokensOf, tokens_name hf] at hk
    simp only [List.length_append, List.length_cons, List.length_nil] at hk
    obtain ⟨k, rfl⟩ : ∃ j, k = j + 4 := ⟨k - 4, by omega⟩
    refine tight fun hrest => ?_
    have harg := (ih k (.mark ')' :: rest) (by omega)).2 (by simp [Ends, Stops])
    rw [tokensOf, tokens_name hf]
    simp only [List.cons_append, List.append_assoc, List.nil_append]
    exact primary_call hf harg hrest
  | @each loose body source item b s _ hitem _ ihb ihs =>
    intro k rest hk
    rw [tokensOf, tokens_name hitem] at hk
    simp only [List.length_append, List.length_cons, List.length_nil] at hk
    obtain ⟨k, rfl⟩ : ∃ j, k = j + 3 := ⟨k - 3, by omega⟩
    refine tight fun hrest => ?_
    have hbody := (ihb k (.word "for" :: .word item :: .word "in" ::
      (tokensOf source ++ .mark ']' :: rest)) (by omega)).2 (by simp [Ends, Stops])
    have hsource := (ihs (k + 1) (.mark ']' :: rest) (by omega)).1 rfl (by simp [Stops])
    rw [tokensOf, tokens_name hitem]
    simp only [List.cons_append, List.append_assoc, List.nil_append]
    exact primary_each hitem hbody (comparison_of_primary hsource (by simp)) hrest
  | @ifPresent subject value s v _ _ ihs ihv =>
    intro k rest hk
    simp only [tokensOf, List.length_append, List.length_cons, List.length_nil] at hk
    obtain ⟨k, rfl⟩ : ∃ j, k = j + 3 := ⟨k - 3, by omega⟩
    refine ⟨fun hloose => by simp at hloose, fun hrest => ?_⟩
    have hsubject := (ihs (k + 3) (.word "is" :: .word "not" :: .word "None" :: .word "else" ::
      .word "None" :: rest) (by omega)).1 rfl (by simp [Stops])
    have hvalue := (ihv (k + 3) (.word "if" :: (tokensOf subject ++ .word "is" :: .word "not" ::
      .word "None" :: .word "else" :: .word "None" :: rest)) (by omega)).1 rfl (by simp [Stops])
    simp only [tokensOf, List.cons_append, List.append_assoc, List.nil_append]
    exact expression_orNone (comparison_of_primary hvalue (by simp))
      (comparison_isNotNone hsubject (by simp [Stops])) hrest

theorem read_text {loose : Bool} {e : Expr} {t : Term} (h : Reads loose e t) :
    read e.text = some t := by
  have hends : Ends [] := by simp [Ends, Stops]
  have hread := (rulesWithin_tokensOf h (4 * (tokensOf e).length + 2) [] (by omega)).2 hends
  rw [List.append_nil] at hread
  simp [read, tokens_text, hread]

end SchemaClient.Expression
