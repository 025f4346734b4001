import Mathlib
import SchemaClient.Proofs.Name.Member
import SchemaClient.Text.Literal
import SchemaClient.Text.Basic

/-! Escaping a docstring commutes with trimming it and with unifying its newlines, and which quotes
at its end are left unescaped. -/
namespace SchemaClient.Text

/-! ### Escapes -/

/-- Whether a text starts with a pair of double quotes. -/
def startsPair (cs : List Char) : Bool :=
  cs.head? == some '"' && cs.tail.head? == some '"'

theorem escapeDocstring_slash (cs : List Char) :
    escapeDocstring ('\\' :: cs) = '\\' :: '\\' :: escapeDocstring cs := by
  rw [escapeDocstring]

theorem escapeDocstring_triple (cs : List Char) :
    escapeDocstring ('"' :: '"' :: '"' :: cs) =
      '\\' :: '"' :: '\\' :: '"' :: '\\' :: '"' :: escapeDocstring cs := by
  rw [escapeDocstring]

theorem escapeDocstring_cons {c : Char} {cs : List Char} (hslash : c ≠ '\\')
    (hquote : c = '"' → startsPair cs = false) :
    escapeDocstring (c :: cs) = c :: escapeDocstring cs := by
  rw [escapeDocstring]
  · exact fun h => hslash h
  · rintro r hc rfl
    simpa [startsPair] using hquote hc

/-- The cases of escaping: a backslash, a run of three quotes, or any other character. -/
theorem escape_cases {P : List Char → Prop} (nil : P [])
    (slash : ∀ cs, P cs → P ('\\' :: cs))
    (triple : ∀ cs, P cs → P ('"' :: '"' :: '"' :: cs))
    (other : ∀ c cs, c ≠ '\\' → (c = '"' → startsPair cs = false) → P cs → P (c :: cs)) :
    ∀ cs, P cs
  | [] => nil
  | c :: cs => by
    by_cases hslash : c = '\\'
    · subst hslash
      exact slash cs (escape_cases nil slash triple other cs)
    · by_cases hpair : c = '"' ∧ startsPair cs
      · obtain ⟨rfl, hpair⟩ := hpair
        obtain ⟨rest, rfl⟩ : ∃ rest, cs = '"' :: '"' :: rest := by
          match cs with
          | [] | [_] => simp [startsPair] at hpair
          | d :: e :: rest =>
            obtain ⟨rfl, rfl⟩ : d = '"' ∧ e = '"' := by simpa [startsPair] using hpair
            exact ⟨rest, rfl⟩
        exact triple rest (escape_cases nil slash triple other rest)
      · refine other c cs hslash (fun hc => ?_) (escape_cases nil slash triple other cs)
        simpa [hc] using hpair
  termination_by cs => cs.length

theorem escapeDocstring_eq_nil {cs : List Char} : escapeDocstring cs = [] ↔ cs = [] := by
  induction cs using escape_cases with
  | nil => simp [escapeDocstring]
  | slash cs ih => simp [escapeDocstring_slash]
  | triple cs ih => simp [escapeDocstring_triple]
  | other c cs hslash hquote ih => simp [escapeDocstring_cons hslash hquote]

theorem head?_escapeDocstring_of_ne {c : Char} (hc : c ≠ '"') (cs : List Char) :
    (escapeDocstring (c :: cs)).head? = some c := by
  by_cases hslash : c = '\\'
  · rw [hslash, escapeDocstring_slash, List.head?_cons]
  · rw [escapeDocstring_cons hslash fun h => absurd h hc, List.head?_cons]

/-- Escapes do not bring two quotes to the front. -/
theorem startsPair_escapeDocstring {cs : List Char} (h : startsPair cs = false) (hne : cs ≠ [])
    (hquote : cs ≠ ['"']) (rest : List Char) : startsPair (escapeDocstring cs ++ rest) = false := by
  have hfront : ∀ {c} (cs), c ≠ '"' → ∃ more, escapeDocstring (c :: cs) = c :: more := fun cs hc =>
    List.head?_eq_some_iff.mp (head?_escapeDocstring_of_ne hc cs)
  match cs with
  | [] => exact absurd rfl hne
  | [c] =>
    have hc : c ≠ '"' := by simpa using hquote
    obtain ⟨more, hmore⟩ := hfront [] hc
    simp [hmore, startsPair, hc]
  | c :: d :: cs =>
    by_cases hc : c = '"'
    · subst hc
      have hd : d ≠ '"' := by simpa [startsPair] using h
      obtain ⟨more, hmore⟩ := hfront cs hd
      rw [escapeDocstring_cons (by decide) fun _ => by simp [startsPair, hd], hmore]
      simp [startsPair, hd]
    · obtain ⟨more, hmore⟩ := hfront (d :: cs) hc
      simp [hmore, startsPair, hc]

/-! ### White space at the ends -/

theorem dropWhile_escapeDocstring (cs : List Char) :
    (escapeDocstring cs).dropWhile isBlank = escapeDocstring (cs.dropWhile isBlank) := by
  induction cs using escape_cases with
  | nil => rfl
  | slash cs _ => rw [escapeDocstring_slash]; rfl
  | triple cs _ => rw [escapeDocstring_triple]; rfl
  | other c cs hslash hquote ih =>
    rw [escapeDocstring_cons hslash hquote, List.dropWhile_cons, List.dropWhile_cons, ih]
    split_ifs
    · rfl
    · exact (escapeDocstring_cons hslash hquote).symm

theorem isPrefix_dropEndWhile {p : Char → Bool} (cs : List Char) : dropEndWhile p cs <+: cs := by
  induction cs with
  | nil => exact List.prefix_refl _
  | cons c cs ih =>
    rw [dropEndWhile]
    split
    · split_ifs
      · exact List.nil_prefix
      · exact List.prefix_iff_eq_append.mpr rfl
    · rename_i heq
      rw [heq] at ih
      exact (List.prefix_cons_inj c).mpr ih

theorem startsPair_of_prefix {cs ds : List Char} (h : ds <+: cs) (hcs : startsPair cs = false) :
    startsPair ds = false := by
  obtain ⟨rest, rfl⟩ := h
  match ds with
  | [] | [_] => simp [startsPair]
  | d :: e :: ds => simpa [startsPair] using hcs

theorem dropEndWhile_escapeDocstring (cs : List Char) :
    dropEndWhile isBlank (escapeDocstring cs) = escapeDocstring (dropEndWhile isBlank cs) := by
  have hslash' : isBlank '\\' = false := by decide
  have hquote' : isBlank '"' = false := by decide
  induction cs using escape_cases with
  | nil => rfl
  | slash cs ih =>
    simp only [escapeDocstring_slash, Name.dropEndWhile_cons hslash', ih]
  | triple cs ih =>
    simp only [escapeDocstring_triple, Name.dropEndWhile_cons hslash', Name.dropEndWhile_cons hquote',
      ih]
  | other c cs hslash hquote ih =>
    have hkept : escapeDocstring (c :: dropEndWhile isBlank cs) =
        c :: escapeDocstring (dropEndWhile isBlank cs) :=
      escapeDocstring_cons hslash fun hc => startsPair_of_prefix (isPrefix_dropEndWhile cs) (hquote hc)
    rw [escapeDocstring_cons hslash hquote, dropEndWhile, ih, dropEndWhile]
    cases hrest : dropEndWhile isBlank cs with
    | nil =>
      simp only [escapeDocstring]
      split_ifs
      · rfl
      · rw [escapeDocstring_cons hslash (by simp [startsPair]), escapeDocstring]
    | cons d kept =>
      rw [hrest] at hkept
      cases hescaped : escapeDocstring (d :: kept) with
      | nil => simp [escapeDocstring_eq_nil] at hescaped
      | cons e more => simp only [hkept, hescaped]

theorem trim_escapeDocstring (cs : List Char) :
    trim (escapeDocstring cs) = escapeDocstring (trim cs) := by
  rw [trim, trim, dropWhile_escapeDocstring, dropEndWhile_escapeDocstring]

theorem dropWhile_append_blank {cs : List Char} (h : cs.getLast? = some '"') :
    (cs ++ [' ']).dropWhile isBlank = cs.dropWhile isBlank ++ [' '] := by
  rw [List.dropWhile_append, if_neg]
  rw [List.isEmpty_iff, List.dropWhile_eq_nil_iff]
  exact fun hall => absurd (hall '"' (List.mem_of_getLast? h)) (by decide)

/-- The blank behind a final quote is trimmed again, so that the quote is set apart from nothing. -/
theorem trim_padQuote (cs : List Char) : trim (padQuote cs) = trim cs := by
  unfold padQuote
  split_ifs with hquote
  · rw [trim, dropWhile_append_blank hquote]
    exact Name.dropEndWhile_append_singleton (by decide) _
  · rfl

theorem toList_docstring (s : String) :
    (docstring s).toList = escapeDocstring (trim s.toList) := by
  rw [docstring, String.toList_ofList, trim_padQuote, trim_escapeDocstring]

theorem mem_escapeDocstring {c : Char} (hc : c ≠ '\\') {cs : List Char} :
    c ∈ escapeDocstring cs ↔ c ∈ cs := by
  induction cs using escape_cases with
  | nil => rfl
  | slash cs ih => simp [escapeDocstring_slash, hc, ih]
  | triple cs ih => simp [escapeDocstring_triple, hc, ih]
  | other d cs hslash hquote ih => simp [escapeDocstring_cons hslash hquote, ih]

/-- Only white space is trimmed. -/
theorem mem_trim {c : Char} (hc : isBlank c = false) {cs : List Char} : c ∈ trim cs ↔ c ∈ cs := by
  have hfront : c ∈ cs.dropWhile isBlank ↔ c ∈ cs := by
    constructor
    · exact fun h => (List.dropWhile_sublist isBlank).subset h
    · intro h
      rw [← List.takeWhile_append_dropWhile (p := isBlank) (l := cs), List.mem_append] at h
      refine h.resolve_left fun hblank => ?_
      simp [List.mem_takeWhile_imp hblank] at hc
  have hend : ∀ ds, c ∈ ds → c ∈ dropEndWhile isBlank ds := by
    intro ds
    induction ds with
    | nil => exact id
    | cons d ds ih =>
      intro h
      rw [dropEndWhile]
      rcases List.mem_cons.mp h with rfl | h
      · split
        · simp [hc]
        · simp
      · have hkept := ih h
        split
        · simp_all
        · simp_all
  rw [trim, ← hfront]
  exact ⟨Name.mem_of_mem_dropEndWhile, hend _⟩

/-- A trimmed text ends with a character that is not blank. -/
theorem isBlank_getLast?_trim (cs : List Char) : ∀ c ∈ (trim cs).getLast?, isBlank c = false := by
  have hend : ∀ cs, ∀ c ∈ (dropEndWhile isBlank cs).getLast?, isBlank c = false := by
    intro cs
    induction cs with
    | nil => simp [dropEndWhile]
    | cons d cs ih =>
      rw [dropEndWhile]
      split
      · split_ifs with hd
        · simp
        · simpa using hd
      · rename_i heq
        rw [heq] at ih
        simpa using ih
  exact hend _

/-! ### Newlines -/

theorem unifyNewlines_of_ne {c : Char} (hc : c ≠ '\r') (cs : List Char) :
    unifyNewlines (c :: cs) = c :: unifyNewlines cs := by
  cases cs <;> simp [unifyNewlines, hc]

theorem unifyNewlines_return {cs : List Char} (hcs : cs.head? ≠ some '\n') :
    unifyNewlines ('\r' :: cs) = '\n' :: unifyNewlines cs := by
  cases cs with
  | nil => rfl
  | cons c cs =>
    have hc : c ≠ '\n' := by simpa using hcs
    simp [unifyNewlines, hc]

/-- The cases of newlines: both characters, a carriage return alone, or any other character. -/
theorem newline_cases {P : List Char → Prop} (nil : P [])
    (pair : ∀ cs, P cs → P ('\r' :: '\n' :: cs))
    (alone : ∀ cs, cs.head? ≠ some '\n' → P cs → P ('\r' :: cs))
    (other : ∀ c cs, c ≠ '\r' → P cs → P (c :: cs)) (cs : List Char) : P cs := by
  induction cs using unifyNewlines.induct with
  | case1 => exact nil
  | case2 cs ih => exact pair cs ih
  | case3 c cs hpair ih =>
    by_cases hc : c = '\r'
    · subst hc
      refine alone cs (fun hhead => ?_) ih
      cases cs with
      | nil => simp at hhead
      | cons d cs => exact hpair cs rfl (by rw [Option.some.inj hhead])
    · exact other c cs hc ih

theorem unifyNewlines_append {cs : List Char} (hcs : cs.getLast? ≠ some '\r') (ds : List Char) :
    unifyNewlines (cs ++ ds) = unifyNewlines cs ++ unifyNewlines ds := by
  have hlast : ∀ {c : Char} {cs : List Char}, (c :: cs).getLast? ≠ some '\r' →
      cs.getLast? ≠ some '\r' := by
    intro c cs h
    cases cs with
    | nil => simp
    | cons d cs => simpa using h
  induction cs using newline_cases with
  | nil => rfl
  | pair cs ih => simp [unifyNewlines, ih (hlast (hlast hcs))]
  | alone cs hhead ih =>
    have hhead' : (cs ++ ds).head? ≠ some '\n' := by
      cases cs with
      | nil => simp at hcs
      | cons c cs => exact hhead
    rw [List.cons_append, unifyNewlines_return hhead, unifyNewlines_return hhead', ih (hlast hcs),
      List.cons_append]
  | other c cs hc ih =>
    rw [List.cons_append, unifyNewlines_of_ne hc, unifyNewlines_of_ne hc, ih (hlast hcs),
      List.cons_append]

theorem unifyNewlines_of_not_mem {cs : List Char} (h : '\r' ∉ cs) : unifyNewlines cs = cs := by
  induction cs with
  | nil => rfl
  | cons c cs ih =>
    have hc : c ≠ '\r' := fun heq => h (by simp [heq])
    rw [unifyNewlines_of_ne hc, ih fun hmem => h (by simp [hmem])]

theorem head?_escapeDocstring (cs : List Char) :
    (escapeDocstring cs).head? = some '\n' ↔ cs.head? = some '\n' := by
  induction cs using escape_cases with
  | nil => rfl
  | slash cs _ => simp [escapeDocstring_slash]
  | triple cs _ => simp [escapeDocstring_triple]
  | other c cs hslash hquote _ => simp [escapeDocstring_cons hslash hquote]

theorem head?_unifyNewlines (cs : List Char) :
    (unifyNewlines cs).head? = cs.head?.map fun c => if c = '\r' then '\n' else c := by
  fun_cases unifyNewlines cs <;> simp

theorem startsPair_unifyNewlines (cs : List Char) :
    startsPair (unifyNewlines cs) = startsPair cs := by
  have hhead : ∀ cs, ((unifyNewlines cs).head? == some '"') = (cs.head? == some '"') := by
    intro cs
    rw [head?_unifyNewlines]
    cases cs with
    | nil => rfl
    | cons c cs => by_cases hc : c = '\r' <;> simp [hc]
  cases cs with
  | nil => rfl
  | cons c cs =>
    by_cases hc : c = '"'
    · subst hc
      rw [unifyNewlines_of_ne (by decide)]
      simp [startsPair, hhead]
    · have hc' : (c == '"') = false := by simpa using hc
      rw [startsPair, hhead]
      simp [startsPair, hc']

/-- Newlines are not touched by escapes. -/
theorem unifyNewlines_escapeDocstring (cs : List Char) :
    unifyNewlines (escapeDocstring cs) = escapeDocstring (unifyNewlines cs) := by
  have hslash' : '\\' ≠ '\r' := by decide
  have hquote' : '"' ≠ '\r' := by decide
  induction cs using escape_cases with
  | nil => rfl
  | slash cs ih =>
    simp only [escapeDocstring_slash, unifyNewlines_of_ne hslash', ih]
  | triple cs ih =>
    simp only [escapeDocstring_triple, unifyNewlines_of_ne hslash', unifyNewlines_of_ne hquote', ih]
  | other c cs hslash hquote ih =>
    rw [escapeDocstring_cons hslash hquote]
    by_cases hc : c = '\r'
    · subst hc
      by_cases hline : cs.head? = some '\n'
      · obtain ⟨cs, rfl⟩ : ∃ rest, cs = '\n' :: rest := by
          cases cs with
          | nil => simp at hline
          | cons d cs => exact ⟨cs, by simpa using hline⟩
        have hescaped : ∀ cs, escapeDocstring ('\n' :: cs) = '\n' :: escapeDocstring cs :=
          fun cs => escapeDocstring_cons (by decide) (by simp)
        rw [hescaped, unifyNewlines_of_ne (by decide), unifyNewlines_of_ne (by decide), hescaped] at ih
        rw [hescaped]
        simpa [unifyNewlines, hescaped] using ih
      · rw [unifyNewlines_return hline, unifyNewlines_return (mt (head?_escapeDocstring cs).mp hline),
          escapeDocstring_cons (by decide) (by simp), ih]
    · rw [unifyNewlines_of_ne hc, unifyNewlines_of_ne hc, ih, escapeDocstring_cons hslash]
      exact fun h => (startsPair_unifyNewlines cs).trans (hquote h)

/-! ### Quotes at the end -/

/-- How many double quotes stand at the end of a text. -/
def endQuotes (cs : List Char) : Nat :=
  (cs.reverse.takeWhile (· == '"')).length

theorem endQuotes_cons (c : Char) (cs : List Char) : endQuotes (c :: cs) =
    if c = '"' ∧ cs.all (· == '"') then cs.length + 1 else endQuotes cs := by
  have hall : (cs.reverse.takeWhile (· == '"')).length = cs.reverse.length ↔
      cs.all (· == '"') := by
    rw [← List.all_reverse, List.all_eq_true, ← List.takeWhile_eq_self_iff]
    exact ⟨(List.takeWhile_prefix _).eq_of_length, fun h => by rw [h]⟩
  rw [endQuotes, List.reverse_cons, List.takeWhile_append, endQuotes]
  by_cases h : cs.all (· == '"')
  · rw [if_pos (hall.mpr h)]
    by_cases hc : c = '"'
    · simp [hc, h]
    · simpa [hc] using (hall.mpr h).symm
  · rw [if_neg (mt hall.mp h), if_neg fun hboth => h hboth.2]

theorem endQuotes_of_ne {c : Char} (hc : c ≠ '"') (cs : List Char) :
    endQuotes (c :: cs) = endQuotes cs := by
  rw [endQuotes_cons, if_neg fun h => hc h.1]

theorem endQuotes_of_all {cs : List Char} (h : cs.all (· == '"')) : endQuotes cs = cs.length := by
  cases cs with
  | nil => rfl
  | cons c cs =>
    simp only [List.all_cons, Bool.and_eq_true, beq_iff_eq] at h
    rw [endQuotes_cons, if_pos h, List.length_cons]

theorem endQuotes_triple (cs : List Char) :
    endQuotes ('"' :: '"' :: '"' :: cs) % 3 = endQuotes cs % 3 := by
  by_cases h : cs.all (· == '"')
  · rw [endQuotes_of_all h, endQuotes_of_all (by simpa using h)]
    simp only [List.length_cons]
    omega
  · simp only [endQuotes_cons, List.all_cons, h]
    simp

/-- A quote that opens no run of three is at the end only if one more or none follows. -/
theorem endQuotes_quote {cs : List Char} (hpair : startsPair cs = false) (hne : cs ≠ [])
    (hquote : cs ≠ ['"']) : endQuotes ('"' :: cs) = endQuotes cs := by
  rw [endQuotes_cons, if_neg]
  rintro ⟨-, hall⟩
  match cs with
  | [] => exact hne rfl
  | [d] => simp_all
  | d :: e :: cs => simp_all [startsPair]

theorem endQuotes_le_length (cs : List Char) : endQuotes cs ≤ cs.length := by
  have hle := (List.takeWhile_prefix (l := cs.reverse) (· == '"')).length_le
  rwa [List.length_reverse] at hle

/-- The text before the quotes at its end that belong to no run of three. -/
def closedPart (cs : List Char) : List Char :=
  cs.take (cs.length - endQuotes cs % 3)

theorem closedPart_cons {c : Char} {cs : List Char}
    (h : endQuotes (c :: cs) % 3 = endQuotes cs % 3) :
    closedPart (c :: cs) = c :: closedPart cs := by
  have hle : endQuotes cs % 3 ≤ cs.length := (Nat.mod_le _ _).trans (endQuotes_le_length cs)
  have hlength : (c :: cs).length - endQuotes cs % 3 = cs.length - endQuotes cs % 3 + 1 := by
    rw [List.length_cons]
    omega
  rw [closedPart, h, hlength, List.take_succ_cons, closedPart]

theorem closedPart_triple (cs : List Char) :
    closedPart ('"' :: '"' :: '"' :: cs) = '"' :: '"' :: '"' :: closedPart cs := by
  have hle : endQuotes cs % 3 ≤ cs.length := (Nat.mod_le _ _).trans (endQuotes_le_length cs)
  have hlength : ('"' :: '"' :: '"' :: cs).length - endQuotes cs % 3 =
      cs.length - endQuotes cs % 3 + 3 := by
    simp only [List.length_cons]
    omega
  rw [closedPart, endQuotes_triple, hlength]
  rfl

theorem closedPart_of_mod_eq_zero {cs : List Char} (h : endQuotes cs % 3 = 0) :
    closedPart cs = cs := by
  rw [closedPart, h, Nat.sub_zero, List.take_length]

theorem startsPair_closedPart {cs : List Char} (h : startsPair cs = false) :
    startsPair (closedPart cs) = false :=
  startsPair_of_prefix (List.take_prefix _ _) h

theorem all_unifyNewlines (cs : List Char) :
    (unifyNewlines cs).all (· == '"') = cs.all (· == '"') := by
  induction cs using newline_cases with
  | nil => rfl
  | pair cs _ => simp [unifyNewlines]
  | alone cs hhead _ => simp [unifyNewlines_return hhead]
  | other c cs hc ih => rw [unifyNewlines_of_ne hc, List.all_cons, List.all_cons, ih]

theorem endQuotes_unifyNewlines (cs : List Char) :
    endQuotes (unifyNewlines cs) = endQuotes cs := by
  induction cs using newline_cases with
  | nil => rfl
  | pair cs ih =>
    rw [unifyNewlines, endQuotes_of_ne (by decide), ih, endQuotes_of_ne (by decide),
      endQuotes_of_ne (by decide)]
  | alone cs hhead ih =>
    rw [unifyNewlines_return hhead, endQuotes_of_ne (by decide), ih, endQuotes_of_ne (by decide)]
  | other c cs hc ih =>
    rw [unifyNewlines_of_ne hc, endQuotes_cons, endQuotes_cons, all_unifyNewlines, ih]
    split_ifs with h
    · have hreturn : '\r' ∉ cs := fun hmem => by
        have := List.all_eq_true.mp h.2 _ hmem
        simp at this
      rw [unifyNewlines_of_not_mem hreturn]
    · rfl

end SchemaClient.Text
