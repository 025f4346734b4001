import Mathlib
import SchemaClient.Text.Basic

/-! Lines and rows of a text. More kinds of characters end a line than a row, so that a place counted
in lines need not lie in any row; without such characters it does. -/
namespace SchemaClient.Text

/-- A line feed or a carriage return. Only these end a row. -/
def endsRow (c : Char) : Bool :=
  c == '\n' || c == '\r'

/-- A carriage return and the line feed after it count as one. -/
theorem newline_induction {P : List Char → Prop} (nil : P [])
    (pair : ∀ rest, P rest → P ('\r' :: '\n' :: rest))
    (cons : ∀ c rest, (∀ more, c = '\r' → rest = '\n' :: more → False) → P rest → P (c :: rest))
    (cs : List Char) : P cs := by
  induction hn : cs.length using Nat.strong_induction_on generalizing cs with
  | _ n ih =>
    subst hn
    cases cs with
    | nil => exact nil
    | cons c rest =>
      by_cases h : ∃ more, c = '\r' ∧ rest = '\n' :: more
      · obtain ⟨more, rfl, rfl⟩ := h
        exact pair more (ih _ (by simp) more rfl)
      · refine cons c rest (fun more hc hrest => h ⟨more, hc, hrest⟩) ?_
        exact ih _ (by simp) rest rfl

section Cons

variable {c : Char} {rest : List Char}
  (hpair : ∀ more, c = '\r' → rest = '\n' :: more → False)

include hpair

theorem linesFrom_cons (line : List Char) :
    linesFrom line (c :: rest) =
      if isLineEnd c then line.reverse :: linesFrom [] rest else linesFrom (c :: line) rest := by
  rw [linesFrom]
  exact hpair

theorem rowsFrom_cons (row : List Char) :
    rowsFrom row (c :: rest) =
      if endsRow c then row.reverse :: rowsFrom [] rest else rowsFrom (c :: row) rest := by
  rw [rowsFrom]
  · rfl
  · exact hpair

end Cons

theorem length_rowsFrom_pos (row cs : List Char) : 0 < (rowsFrom row cs).length := by
  induction cs using newline_induction generalizing row with
  | nil => exact Nat.one_pos
  | pair rest _ => exact Nat.succ_pos _
  | cons c rest hpair ih =>
    rw [rowsFrom_cons hpair]
    split_ifs
    · exact Nat.succ_pos _
    · exact ih _

theorem isLineEnd_of_endsRow {c : Char} (h : endsRow c) : isLineEnd c := by
  rcases Bool.or_eq_true_iff.mp h with h | h
  · rw [beq_iff_eq.mp h]
    decide
  · rw [beq_iff_eq.mp h]
    decide

/-- Where no other character ends a line, the lines of the front of a text are no more than the rows
of the whole. -/
theorem length_linesFrom_le (line row front back : List Char)
    (h : ∀ c ∈ front, isLineEnd c → endsRow c) :
    (linesFrom line front).length ≤ (rowsFrom row (front ++ back)).length := by
  induction front using newline_induction generalizing line row with
  | nil =>
    refine le_trans ?_ (length_rowsFrom_pos row back)
    unfold linesFrom
    split_ifs <;> simp
  | pair rest ih =>
    have hrest := ih [] [] fun c hc => h c (by simp [hc])
    simpa [linesFrom, rowsFrom] using hrest
  | cons c rest hpair ih =>
    obtain ⟨hc, hmore⟩ := List.forall_mem_cons.mp h
    rw [linesFrom_cons hpair]
    cases hend : isLineEnd c with
    | true =>
      cases rest with
      | nil => exact length_rowsFrom_pos row _
      | cons d more =>
        -- what follows the line end in the front also follows it in the whole
        have hwhole : ∀ rest, c = '\r' → (d :: more) ++ back = '\n' :: rest → False := by
          intro _ hreturn hd
          exact hpair more hreturn (by rw [(List.cons.inj hd).1])
        have hrest := ih [] [] hmore
        rw [List.cons_append, rowsFrom_cons hwhole, if_pos (hc hend)]
        simpa using hrest
    | false =>
      have hrow : endsRow c = false := by
        rw [Bool.eq_false_iff]
        exact fun hrow => Bool.eq_false_iff.mp hend (isLineEnd_of_endsRow hrow)
      have hwhole : ∀ more, c = '\r' → rest ++ back = '\n' :: more → False := by
        rintro _ rfl -
        cases hrow
      rw [List.cons_append, rowsFrom_cons hwhole, hrow]
      exact ih _ _ hmore

/-- A text without unusual line ends has a row for each line of its front. -/
theorem length_lines_take_le {cs : List Char} (h : ∀ c ∈ cs, isLineEnd c → endsRow c) (n : Nat) :
    (lines (cs.take n)).length ≤ (rows cs).length := by
  have hle := length_linesFrom_le [] [] (cs.take n) (cs.drop n)
    fun c hc => h c (List.mem_of_mem_take hc)
  rwa [List.take_append_drop] at hle

end SchemaClient.Text
